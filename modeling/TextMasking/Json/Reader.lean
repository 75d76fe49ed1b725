import TextMasking.Json.Basic
import TextMasking.Json.Token

/-!
# Reading a JSON text

The tokens of a text are read one by one. The arrays and objects that are open form a stack of
levels, and at each moment it is fixed what may come next. The text is accepted when one value has
been read and no level is open. The number of levels is limited.
-/

namespace TextMasking.Json

/-- An open array or object: what it holds so far, the last one first, and the name of the member
that is being read. -/
inductive Level where
  | array (items : List Json)
  | object (members : List (String × Json)) (name : String)

/-- What may come next. -/
inductive Next where
  /-- A value. -/
  | value
  /-- The first item of the array just opened, or its end. -/
  | firstItem
  /-- The first name of the object just opened, or its end. -/
  | firstName
  /-- A name after a comma, in an object with these members. -/
  | name (members : List (String × Json))
  /-- The colon after a name. -/
  | colon (members : List (String × Json)) (name : String)
  /-- A comma after the value, or the end of what the value is in. -/
  | after (v : Json)

/-- What has been read. -/
structure Reading where
  levels : List Level
  next : Next

/-- The most arrays and objects that may be open at once. -/
def maxDepth : Nat := 127

namespace Reading

/-- Nothing has been read. -/
def start : Reading := ⟨[], .value⟩

/-- Reads the token that begins a value. -/
def beginValue (levels : List Level) : Token → Option Reading
  | .null => some ⟨levels, .after .null⟩
  | .bool b => some ⟨levels, .after (.bool b)⟩
  | .number s => some ⟨levels, .after (.number s)⟩
  | .string s => some ⟨levels, .after (.string s)⟩
  | .openArray => if levels.length < maxDepth then some ⟨levels, .firstItem⟩ else none
  | .openObject => if levels.length < maxDepth then some ⟨levels, .firstName⟩ else none
  | _ => none

/-- Reads the token after a value. -/
def afterValue (v : Json) : List Level → Token → Option Reading
  | .array items :: levels, .comma => some ⟨.array (v :: items) :: levels, .value⟩
  | .array items :: levels, .closeArray => some ⟨levels, .after (.array (v :: items).reverse)⟩
  | .object members name :: levels, .comma => some ⟨levels, .name ((name, v) :: members)⟩
  | .object members name :: levels, .closeObject =>
    some ⟨levels, .after (.object ((name, v) :: members).reverse)⟩
  | _, _ => none

/-- Reads one token. -/
def step (r : Reading) (t : Token) : Option Reading :=
  match r.next, t with
  | .value, t => beginValue r.levels t
  | .firstItem, .closeArray => some ⟨r.levels, .after (.array [])⟩
  | .firstItem, t => beginValue (.array [] :: r.levels) t
  | .firstName, .closeObject => some ⟨r.levels, .after (.object [])⟩
  | .firstName, .string name => some ⟨r.levels, .colon [] name⟩
  | .name members, .string name => some ⟨r.levels, .colon members name⟩
  | .colon members name, .colon => some ⟨.object members name :: r.levels, .value⟩
  | .after v, t => afterValue v r.levels t
  | _, _ => none

/-- The value, if all of it has been read. -/
def value? : Reading → Option Json
  | ⟨[], .after v⟩ => some v
  | _ => none

end Reading

/-- The value of tokens. -/
def ofTokens? (ts : List Token) : Option Json := do
  (← ts.foldlM Reading.step Reading.start).value?

/-- Reads a JSON text. -/
def read? (s : String) : Option Json := do
  ofTokens? (← tokens? s.toList)

end TextMasking.Json
