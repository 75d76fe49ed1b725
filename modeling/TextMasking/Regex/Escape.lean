import TextMasking.Regex.Flags

/-!
# Escapes

What a backslash and the characters after it stand for: a character, a set of characters or an
assertion. Punctuation stands for itself; letters and digits that have no meaning are refused.
-/

namespace TextMasking.Regex

open Unicode

/-- What stands for one position of a pattern. A literal keeps whether it was written as a two-digit
number, which is then a byte where characters do not count. -/
inductive Atom where
  | literal (c : Char) (asByte : Bool)
  | set (s : CharSet)
  | assert (a : Assertion)
  deriving DecidableEq

/-- The value of a digit to base sixteen. -/
def hexDigit? (c : Char) : Option Nat :=
  if '0' ≤ c ∧ c ≤ '9' then some (c.toNat - '0'.toNat)
  else if 'a' ≤ c ∧ c ≤ 'f' then some (c.toNat - 'a'.toNat + 10)
  else if 'A' ≤ c ∧ c ≤ 'F' then some (c.toNat - 'A'.toNat + 10)
  else none

/-- The character with this code point. -/
def scalar? (n : Nat) : Option Char :=
  if n.isValidChar then some (Char.ofNat n) else none

/-- The number that the digits write to base sixteen. -/
def hexValue? (digits : List Char) : Option Nat :=
  digits.foldl (fun n c => do return (← n) * 16 + (← hexDigit? c)) (some 0)

/-- Punctuation with a meaning of its own in patterns. -/
def isMeta (c : Char) : Bool :=
  ['\\', '.', '+', '*', '?', '(', ')', '|', '[', ']', '\x7b', '\x7d', '^', '$', '#', '&', '-',
    '~'].contains c

/-- Characters that a backslash may stand before without changing them. -/
def isEscapable (c : Char) : Bool :=
  c.toNat < 0x80 && !c.isAlphanum && c != '<' && c != '>'

/-- The characters up to the next `\x7d`, without blanks if the pattern is verbose, and what follows
it. -/
def braced (f : Flags) (input : List Char) : Except SyntaxError (List Char × List Char) :=
  let content := input.takeWhile (· != '\x7d')
  match input.dropWhile (· != '\x7d') with
  | [] => .error .badEscape
  | _ :: rest => .ok (if f.verbose then content.filter (!isBlank ·) else content, rest)

/-- Takes `n` characters, with space between them if the pattern is verbose. -/
def takeDigits (f : Flags) : Nat → List Char → Except SyntaxError (List Char × List Char)
  | 0, input => .ok ([], input)
  | _ + 1, [] => .error .badEscape
  | n + 1, c :: rest => do
    let (digits, rest) ← takeDigits f n (f.skip rest)
    return (c :: digits, rest)

/-- Reads a code point written in digits to base sixteen, `width` of them or any number in
braces. -/
def readCodePoint (f : Flags) (width : Nat) (input : List Char) :
    Except SyntaxError (Atom × List Char) := do
  match f.skip input with
  | '\x7b' :: rest =>
    let (digits, rest) ← braced f rest
    if digits.isEmpty then throw .badEscape
    match (hexValue? digits).bind scalar? with
    | some c => return (.literal c false, f.skip rest)
    | none => throw .badEscape
  | input =>
    let (digits, rest) ← takeDigits f width input
    match (hexValue? digits).bind scalar? with
    | some c => return (.literal c (width = 2), rest)
    | none => throw .badEscape

/-- Splits at the first occurrence of `mark`. -/
def splitAtMark (mark : List Char) : List Char → Option (List Char × List Char)
  | [] => none
  | c :: rest =>
    if mark.isPrefixOf (c :: rest) then some ([], (c :: rest).drop mark.length)
    else (splitAtMark mark rest).map fun (before, after) => (c :: before, after)

/-- The property that a name in braces asks for, and whether its value is negated. -/
def namedProperty? (name : List Char) : Option (Property × Bool) :=
  match splitAtMark ['!', '='] name with
  | some (n, v) => (Property.ofNameValue? n v).map (·, true)
  | none =>
    match splitAtMark [':'] name with
    | some (n, v) => (Property.ofNameValue? n v).map (·, false)
    | none =>
      match splitAtMark ['='] name with
      | some (n, v) => (Property.ofNameValue? n v).map (·, false)
      | none => (Property.ofName? name).map (·, false)

/-- Reads a property, after its letter. -/
def readProperty (f : Flags) (negated : Bool) (input : List Char) :
    Except SyntaxError (Atom × List Char) := do
  if !f.unicode then throw .needsUnicode
  let (name, rest) ←
    match f.skip input with
    | [] => throw .badEscape
    | '\x7b' :: rest => braced f rest
    | c :: rest => if c = '\\' then throw .unknownProperty else pure ([c], f.skip rest)
  match namedProperty? name with
  | none => throw .unknownProperty
  | some (p, flipped) =>
    let s ← f.finishSet (negated != flipped) (.property p)
    return (.set s, rest)

/-- The class of a letter: digits, white space or word characters. -/
def perlClass (f : Flags) (c : Char) : CharSet :=
  if f.unicode then
    if c = 'd' || c = 'D' then .digit else if c = 's' || c = 'S' then .blank else .word
  else
    if c = 'd' || c = 'D' then .asciiDigit
    else if c = 's' || c = 'S' then .ofList ['\t', '\n', '\x0b', '\x0c', '\r', ' ']
    else .asciiWord

/-- Characters of the names of word edges. -/
def isEdgeNameChar (c : Char) : Bool :=
  c.isAlpha || c == '-'

/-- The word edge with a name in braces, if there is one after `\b`; any other brace is left to be
read as a repetition. -/
def readWordEdge (f : Flags) (input : List Char) :
    Except SyntaxError (WordEdge × List Char) :=
  match input with
  | '\x7b' :: rest =>
    match f.skip rest with
    | [] => .error .badEscape
    | c :: more =>
      if !isEdgeNameChar c then .ok (.boundary, input)
      else do
        let (name, rest) ← braced f (c :: more)
        match String.ofList name with
        | "start" => return (.start, rest)
        | "end" => return (.stop, rest)
        | "start-half" => return (.startHalf, rest)
        | "end-half" => return (.stopHalf, rest)
        | _ => throw .badEscape
  | _ => .ok (.boundary, input)

/-- Reads an escape, after its backslash. -/
def readEscape (f : Flags) : List Char → Except SyntaxError (Atom × List Char)
  | [] => .error .badEscape
  | c :: rest => do
    if c.isDigit then throw .backReference
    let word (edge : WordEdge) : Atom := .assert (.word edge !f.unicode)
    match c with
    | 'x' => readCodePoint f 2 rest
    | 'u' => readCodePoint f 4 rest
    | 'U' => readCodePoint f 8 rest
    | 'p' => readProperty f false rest
    | 'P' => readProperty f true rest
    | 'd' | 's' | 'w' => return (.set (perlClass f c), rest)
    | 'D' | 'S' | 'W' => return (.set (← f.negateSet (perlClass f c)), rest)
    | 'a' => return (.literal '\x07' false, rest)
    | 'f' => return (.literal '\x0c' false, rest)
    | 't' => return (.literal '\t' false, rest)
    | 'n' => return (.literal '\n' false, rest)
    | 'r' => return (.literal '\r' false, rest)
    | 'v' => return (.literal '\x0b' false, rest)
    | 'A' => return (.assert .textStart, rest)
    | 'z' => return (.assert .textEnd, rest)
    | 'b' =>
      let (edge, rest) ← readWordEdge f rest
      return (word edge, rest)
    | 'B' => return (word .notBoundary, rest)
    | '<' => return (word .start, rest)
    | '>' => return (word .stop, rest)
    | c => if isEscapable c then return (.literal c false, rest) else throw .badEscape

/-- The set of one literal character, with its case variants if the flags ask for them. -/
def literalSet (f : Flags) (c : Char) (asByte : Bool) : Except SyntaxError CharSet :=
  if !f.unicode && asByte && c.toNat ≥ 0x80 then .error .needsUnicode
  else .ok (f.foldSet (.char c))

/-- The expression of an atom. -/
def Atom.toRegex (f : Flags) : Atom → Except SyntaxError Regex
  | .literal c asByte => (literalSet f c asByte).map .set
  | .set s => .ok (.set s)
  | .assert a => .ok (.assert a)

end TextMasking.Regex
