import TextMasking.Json.Numeral

/-!
# Tokens of a JSON text

A JSON text is cut into punctuation, strings and words; a word is a name of a value or a number.
-/

namespace TextMasking.Json

/-- A token. -/
inductive Token where
  | openArray
  | closeArray
  | openObject
  | closeObject
  | comma
  | colon
  | null
  | bool (b : Bool)
  | number (text : String)
  | string (s : String)
  deriving DecidableEq, Repr

/-! ### Strings -/

/-- The value of a hexadecimal digit. -/
def hexValue? (c : Char) : Option Nat :=
  if c.isDigit then some (c.toNat - '0'.toNat)
  else if 'a' ≤ c ∧ c ≤ 'f' then some (c.toNat - 'a'.toNat + 10)
  else if 'A' ≤ c ∧ c ≤ 'F' then some (c.toNat - 'A'.toNat + 10)
  else none

/-- The number of four hexadecimal digits, and what follows. -/
def fourHex? : List Char → Option (Nat × List Char)
  | a :: b :: c :: d :: rest => do
    let a ← hexValue? a
    let b ← hexValue? b
    let c ← hexValue? c
    let d ← hexValue? d
    return (((a * 16 + b) * 16 + c) * 16 + d, rest)
  | _ => none

/-- The character of an escape by number. A number for half of a character needs the other half
right after it. -/
def numberEscape? (cs : List Char) : Option (Char × List Char) :=
  match fourHex? cs with
  | some (high, '\\' :: 'u' :: rest) =>
    if 0xD800 ≤ high ∧ high < 0xDC00 then
      match fourHex? rest with
      | some (low, rest) =>
        if 0xDC00 ≤ low ∧ low < 0xE000 then
          some (Char.ofNat (0x10000 + (high - 0xD800) * 0x400 + (low - 0xDC00)), rest)
        else none
      | none => none
    else if high < 0xD800 ∨ 0xE000 ≤ high then some (Char.ofNat high, '\\' :: 'u' :: rest)
    else none
  | some (n, rest) => if n < 0xD800 ∨ 0xE000 ≤ n then some (Char.ofNat n, rest) else none
  | none => none

/-- The character of an escape by letter. -/
def letterEscape? (c : Char) : Option Char :=
  match c with
  | '"' => some '"'
  | '\\' => some '\\'
  | '/' => some '/'
  | 'b' => some (Char.ofNat 8)
  | 'f' => some (Char.ofNat 12)
  | 'n' => some '\n'
  | 'r' => some '\r'
  | 't' => some '\t'
  | _ => none

/-- The character of an escape after its backslash, and what follows. -/
def escape? : List Char → Option (Char × List Char)
  | [] => none
  | c :: rest => if c = 'u' then numberEscape? rest else (letterEscape? c).map (·, rest)

theorem length_lt_of_fourHex? {cs rest : List Char} {n : Nat} (h : fourHex? cs = some (n, rest)) :
    rest.length < cs.length := by
  unfold fourHex? at h
  split at h
  · simp only [Option.bind_eq_bind, Option.bind_eq_some_iff, Option.pure_def, Option.some.injEq,
      Prod.mk.injEq] at h
    obtain ⟨_, _, _, _, _, _, _, _, _, rfl⟩ := h
    simp only [List.length_cons]
    omega
  · simp at h

theorem length_lt_of_numberEscape? {cs rest : List Char} {c : Char}
    (h : numberEscape? cs = some (c, rest)) : rest.length < cs.length := by
  unfold numberEscape? at h
  split at h
  · rename_i high more h1
    have l1 := length_lt_of_fourHex? h1
    simp only [List.length_cons] at l1
    split at h
    · split at h
      · rename_i h2
        have l2 := length_lt_of_fourHex? h2
        split at h
        · simp only [Option.some.injEq, Prod.mk.injEq] at h
          obtain ⟨_, rfl⟩ := h
          omega
        · simp at h
      · simp at h
    · split at h
      · simp only [Option.some.injEq, Prod.mk.injEq] at h
        obtain ⟨_, rfl⟩ := h
        simpa only [List.length_cons] using l1
      · simp at h
  · rename_i h1
    have l1 := length_lt_of_fourHex? h1
    split at h
    · simp only [Option.some.injEq, Prod.mk.injEq] at h
      obtain ⟨_, rfl⟩ := h
      exact l1
    · simp at h
  · simp at h

theorem length_lt_of_escape? {cs rest : List Char} {c : Char} (h : escape? cs = some (c, rest)) :
    rest.length < cs.length := by
  cases cs with
  | nil => simp [escape?] at h
  | cons d more =>
    by_cases hu : d = 'u'
    · simp only [escape?, hu, if_true] at h
      exact Nat.lt_succ_of_lt (length_lt_of_numberEscape? h)
    · simp only [escape?, hu, if_false, Option.map_eq_some_iff, Prod.mk.injEq] at h
      obtain ⟨_, _, _, rfl⟩ := h
      exact Nat.lt_succ_self _

/-- The characters of a string up to the quote that ends it, and what follows. -/
def stringBody? (cs : List Char) : Option (List Char × List Char) :=
  match cs with
  | [] => none
  | c :: rest =>
    if c = '"' then some ([], rest)
    else if c = '\\' then
      match _h : escape? rest with
      | some (d, more) => (stringBody? more).map fun (s, after) => (d :: s, after)
      | none => none
    else if c.toNat < 0x20 then none
    else (stringBody? rest).map fun (s, after) => (c :: s, after)
termination_by cs.length
decreasing_by
  · have := length_lt_of_escape? _h
    simp only [List.length_cons]
    omega
  · simp only [List.length_cons]
    omega

theorem length_lt_of_stringBody? {cs s after : List Char} (h : stringBody? cs = some (s, after)) :
    after.length < cs.length := by
  fun_induction stringBody? cs generalizing s after with
  | case1 => simp at h
  | case2 rest =>
    simp only [Option.some.injEq, Prod.mk.injEq] at h
    obtain ⟨_, rfl⟩ := h
    simp
  | case3 rest d more he _ ih =>
    obtain ⟨⟨s', after'⟩, hs, heq⟩ := Option.map_eq_some_iff.1 h
    simp only [Prod.mk.injEq] at heq
    obtain ⟨_, rfl⟩ := heq
    have := ih hs
    have := length_lt_of_escape? he
    simp only [List.length_cons]
    omega
  | case4 => simp at h
  | case5 => simp at h
  | case6 c rest _ _ _ ih =>
    obtain ⟨⟨s', after'⟩, hs, heq⟩ := Option.map_eq_some_iff.1 h
    simp only [Prod.mk.injEq] at heq
    obtain ⟨_, rfl⟩ := heq
    have := ih hs
    simp only [List.length_cons]
    omega

/-! ### Tokens -/

/-- The characters that may stand between tokens. -/
def isSpace (c : Char) : Bool :=
  c == ' ' || c == '\n' || c == '\t' || c == '\r'

/-- The characters of names and numbers. -/
def isWordChar (c : Char) : Bool :=
  c.isAlphanum || c == '+' || c == '-' || c == '.'

/-- The token that is one character. -/
def punctuation? (c : Char) : Option Token :=
  match c with
  | '[' => some .openArray
  | ']' => some .closeArray
  | '\x7b' => some .openObject
  | '\x7d' => some .closeObject
  | ',' => some .comma
  | ':' => some .colon
  | _ => none

/-- The token of a word. -/
def word? (w : List Char) : Option Token :=
  if w = "null".toList then some .null
  else if w = "true".toList then some (.bool true)
  else if w = "false".toList then some (.bool false)
  else if isNumber w then some (.number (String.ofList w))
  else none

/-- The tokens of a JSON text. -/
def tokens? (cs : List Char) : Option (List Token) :=
  match cs with
  | [] => some []
  | c :: rest =>
    if isSpace c then tokens? rest
    else if c = '"' then
      match _h : stringBody? rest with
      | some (s, after) => (tokens? after).map (.string (String.ofList s) :: ·)
      | none => none
    else
      match punctuation? c with
      | some t => (tokens? rest).map (t :: ·)
      | none => do
        let t ← word? (c :: rest.takeWhile isWordChar)
        return t :: (← tokens? (rest.dropWhile isWordChar))
termination_by cs.length
decreasing_by
  · simp
  · have := length_lt_of_stringBody? _h
    simp only [List.length_cons]
    omega
  · simp
  · have := (List.dropWhile_sublist isWordChar (l := rest)).length_le
    simp only [List.length_cons]
    omega

end TextMasking.Json
