import TextMasking.Yaml.Basic
import TextMasking.Yaml.Scalar

/-!
# Reading a YAML text

`Yaml.read?` reads a text with one document. Mappings and sequences are written by indentation or in
brackets; a key is a scalar within one line. Names and types that are given to values with `&`, `*`
and `!` are refused, and so are keys that are marked with `?`.
-/

namespace TextMasking.Yaml

/-- Reads a key outside brackets, with the colon after it. -/
def key? (c : Cursor) : Option (Yaml × Cursor) := do
  let line := c.rest.takeWhile (· ≠ '\n')
  let here : Cursor := ⟨line, c.column⟩
  let (value, after) ←
    match quoted? here with
    | some (text, after) => some (Yaml.scalar text true, after)
    | none => (plain? false 0 here).map fun (text, after) => (Yaml.scalar text false, after)
  match after.rest.dropWhile isBlank with
  | ':' :: rest =>
    if startsBlank rest then some (value, c.advance (line.length - rest.length)) else none
  | _ => none

mutual

/-- Reads a value in or outside brackets that begins with a bracket. -/
def brackets? : Nat → Cursor → Option (Yaml × Cursor)
  | 0, _ => none
  | fuel + 1, c =>
    match c.rest with
    | '[' :: _ =>
      (bracketItems? fuel (c.advance 1)).map fun (items, after) => (.sequence items, after)
    | '\x7b' :: _ =>
      (bracketEntries? fuel (c.advance 1)).map fun (entries, after) => (.mapping entries, after)
    | _ => none

/-- Reads a value within brackets. -/
def bracketValue? : Nat → Cursor → Option (Yaml × Cursor)
  | 0, _ => none
  | fuel + 1, c =>
    match c.rest with
    | [] => none
    | x :: _ =>
      if x = '[' ∨ x = '\x7b' then brackets? fuel c
      else if x = '"' ∨ x = '\'' then
        (quoted? c).map fun (text, after) => (.scalar text true, after)
      else (plain? true 0 c).map fun (text, after) => (.scalar text false, after)

/-- Reads what may follow a key within brackets: a colon and a value, which may be absent. -/
def bracketMember? : Nat → Cursor → Option (Option Yaml × Cursor)
  | 0, _ => none
  | fuel + 1, c => do
    let c ← c.bracketContent
    match c.rest with
    | ':' :: _ => do
      let c ← (c.advance 1).bracketContent
      match c.rest with
      | [] => none
      | x :: _ =>
        if isBracketMark x ∧ x ≠ '[' ∧ x ≠ '\x7b' then some (some absent, c)
        else (bracketValue? fuel c).map fun (v, after) => (some v, after)
    | _ => some (none, c)

/-- Reads the items of a sequence in brackets up to the closing bracket. -/
def bracketItems? : Nat → Cursor → Option (List Yaml × Cursor)
  | 0, _ => none
  | fuel + 1, c => do
    let c ← c.bracketContent
    if c.rest.head? = some ']' then some ([], c.advance 1)
    else do
      let (first, c) ← bracketValue? fuel c
      let (member, c) ← bracketMember? fuel c
      let item :=
        match member with
        | some v => Yaml.mapping [(first, v)]
        | none => first
      let c ← c.bracketContent
      match c.rest with
      | ',' :: _ =>
        (bracketItems? fuel (c.advance 1)).map fun (items, after) => (item :: items, after)
      | ']' :: _ => some ([item], c.advance 1)
      | _ => none

/-- Reads the entries of a mapping in brackets up to the closing bracket. -/
def bracketEntries? : Nat → Cursor → Option (List (Yaml × Yaml) × Cursor)
  | 0, _ => none
  | fuel + 1, c => do
    let c ← c.bracketContent
    if c.rest.head? = some '\x7d' then some ([], c.advance 1)
    else do
      let (key, c) ← bracketValue? fuel c
      let (member, c) ← bracketMember? fuel c
      let entry := (key, member.getD absent)
      let c ← c.bracketContent
      match c.rest with
      | ',' :: _ =>
        (bracketEntries? fuel (c.advance 1)).map fun (entries, after) => (entry :: entries, after)
      | '\x7d' :: _ => some ([entry], c.advance 1)
      | _ => none

end

mutual

/-- Reads the value at a place if its column is `least` at least; otherwise the value is absent. A
mapping or sequence that is written by indentation does not begin within a line. -/
def value? : Nat → Nat → Bool → Cursor → Option (Yaml × Cursor)
  | 0, _, _, _ => none
  | fuel + 1, least, withinLine, c =>
    match c.rest with
    | [] => some (absent, c)
    | x :: _ =>
      if c.column < least then some (absent, c)
      else if c.atDash then
        if withinLine then none
        else (items? fuel c.column c).map fun (items, after) => (.sequence items, after)
      else if (key? c).isSome then
        if withinLine then none
        else (entries? fuel c.column c).map fun (entries, after) => (.mapping entries, after)
      else if x = '[' ∨ x = '\x7b' then brackets? fuel c
      else if x = '"' ∨ x = '\'' then
        (quoted? c).map fun (text, after) => (.scalar text true, after)
      else if x = '|' ∨ x = '>' then
        (block? least c).map fun (text, after) => (.scalar text true, after)
      else (plain? false least c).map fun (text, after) => (.scalar text false, after)

/-- Reads the items at a column. -/
def items? : Nat → Nat → Cursor → Option (List Yaml × Cursor)
  | 0, _, _ => none
  | fuel + 1, column, c => do
    let (item, c) ← value? fuel (column + 1) false (← (c.advance 1).content false)
    let c ← c.content true
    if c.column = column ∧ c.atDash then
      (items? fuel column c).map fun (items, after) => (item :: items, after)
    else some ([item], c)

/-- Reads the entries at a column. The items of a sequence may be at the column of its key. -/
def entries? : Nat → Nat → Cursor → Option (List (Yaml × Yaml) × Cursor)
  | 0, _, _ => none
  | fuel + 1, column, c => do
    let (key, colon) ← key? c
    let c ← colon.content true
    let (value, c) ←
      if !colon.lineIsOver then value? fuel (column + 1) true c
      else if c.column = column ∧ c.atDash then
        (items? fuel column c).map fun (items, after) => (.sequence items, after)
      else value? fuel (column + 1) false c
    let c ← c.content true
    if c.rest.isEmpty ∨ c.column < column then some ([(key, value)], c)
    else if c.column = column then
      (entries? fuel column c).map fun (entries, after) => ((key, value) :: entries, after)
    else none

end

/-! ### Documents -/

/-- Whether a character may stand in a YAML text. -/
def isPrintable (c : Char) : Bool :=
  c = '\t' || c = '\n' || (0x20 ≤ c.toNat && c.toNat ≤ 0x7E) || c.toNat = 0x85 ||
    (0xA0 ≤ c.toNat && c.toNat ≠ 0xFEFF && c.toNat ≠ 0xFFFE && c.toNat ≠ 0xFFFF)

/-- The text with a line feed for each line end. -/
def withLineFeeds : List Char → List Char
  | '\r' :: '\n' :: rest => '\n' :: withLineFeeds rest
  | '\r' :: rest => '\n' :: withLineFeeds rest
  | c :: rest => (if c = '\u0085' then '\n' else c) :: withLineFeeds rest
  | [] => []

/-- Whether a line begins with a mark of three characters. -/
def hasMark (mark : List Char) (line : List Char) : Bool :=
  line.take 3 == mark && startsBlank (line.drop 3)

/-- Whether a line has no content. -/
def isIdle (line : List Char) : Bool := (Cursor.mk line 0).lineIsOver

/-- The lines of a document up to the mark of its end. After that there is no other document. -/
def documentLines? : List (List Char) → Option (List (List Char))
  | [] => some []
  | line :: rest =>
    if hasMark "---".toList line then none
    else if hasMark "...".toList line then
      if rest.all fun l => isIdle l || hasMark "...".toList l then some [] else none
    else (documentLines? rest).map (line :: ·)

/-- The lines of the only document. The mark of its start is blanked; content may stand after it in
the same line, which is told too. -/
def document? (lines : List (List Char)) : Option (List (List Char) × Bool) :=
  match lines.takeWhile isIdle, lines.dropWhile isIdle with
  | before, line :: rest =>
    if hasMark "---".toList line then
      (documentLines? rest).map fun body =>
        (before ++ ("   ".toList ++ line.drop 3) :: body, !isIdle (line.drop 3))
    else (documentLines? (line :: rest)).map fun body => (before ++ body, false)
  | before, [] => some (before, false)

/-- Reads a text. -/
def read? (text : String) : Option Yaml := do
  let chars := text.toList
  let chars := withLineFeeds (if chars.head? = some '\ufeff' then chars.tail else chars)
  if !chars.all isPrintable then none
  let (lines, withinLine) ← document? (splitLines chars)
  let body := joinLines lines
  let c ← (Cursor.mk body 0).content withinLine
  let (value, c) ← value? (4 * body.length + 8) 0 withinLine c
  let c ← c.content true
  if c.rest.isEmpty then some value else none

end TextMasking.Yaml
