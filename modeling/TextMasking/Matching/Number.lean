import TextMasking.Regex.Basic

/-!
# Numbers inside patterns

A stretch of digits and separators that begins and ends with a digit is read as one number, whatever
separators were used: its digits, and the digits of its fraction if the last separator is a decimal
mark. Separators within the number are forgotten; the expression of a number accepts any of them, or
none, between two digits.
-/

namespace TextMasking

open Unicode

/-- Characters that may stand between the digits of a number. -/
def isSeparator (c : Char) : Bool :=
  isBlank c || c == ',' || c == '.' || c == '\x27' || c == '’'
    || c.toNat == 0xA0 || c.toNat == 0x202F || c.toNat == 0x2009 || c.toNat == 0x2007

/-- Characters that may stand before a fraction. -/
def isDecimalMark (c : Char) : Bool :=
  c == '.' || c == ','

/-- A number as a pattern means it. -/
structure Number where
  digits : List Char
  fraction : Option (List Char)
  deriving DecidableEq, Repr

/-- Runs of digits with the gaps between them. -/
structure DigitGroups where
  first : List Char
  /-- Each gap with the digits after it. -/
  later : List (List Char × List Char)
  deriving DecidableEq, Repr

namespace DigitGroups

/-- Cuts digits and separators into groups. -/
def ofList : List Char → DigitGroups
  | [] => ⟨[], []⟩
  | c :: rest =>
    let groups := ofList rest
    if c.isDigit then { groups with first := c :: groups.first }
    else
      match groups.first, groups.later with
      | [], (gap, digits) :: more => ⟨[], (c :: gap, digits) :: more⟩
      | digits, more => ⟨[], ([c], digits) :: more⟩

/-- Whether the last group is a fraction: the gap before it is a single decimal mark, and the group
is not of the length of a thousands group or the other mark was used before. -/
def endsInFraction (groups : DigitGroups) : Bool :=
  match groups.later.getLast? with
  | some ([mark], digits) =>
    isDecimalMark mark && (digits.length != 3 ||
      groups.later.dropLast.any fun (gap, _) => gap.any fun c => isDecimalMark c && c != mark)
  | _ => false

/-- All digits of the groups. -/
def joined (first : List Char) (later : List (List Char × List Char)) : List Char :=
  first ++ (later.map (·.2)).flatten

/-- The number that the groups write. -/
def toNumber (groups : DigitGroups) : Number :=
  if groups.endsInFraction then
    ⟨joined groups.first groups.later.dropLast, groups.later.getLast?.map (·.2)⟩
  else ⟨joined groups.first groups.later, none⟩

end DigitGroups

namespace Number

/-- The characters up to the last digit of the stretch of digits and separators at the start. -/
def stretch (cs : List Char) : List Char :=
  ((cs.takeWhile fun c => c.isDigit || isSeparator c).reverse.dropWhile (!·.isDigit)).reverse

/-- The number at the start, with how many characters it takes. -/
def read (cs : List Char) : Number × Nat :=
  ((DigitGroups.ofList (stretch cs)).toNumber, (stretch cs).length)

/-! ### Text that a number accepts -/

/-- Separators, as they are written in an expression. -/
def separatorSource : String :=
  "[\\s,.\\x\x7b00A0\x7d\\x\x7b202F\x7d\\x\x7b2009\x7d\\x\x7b2007\x7d'’]"

/-- Separators as a set. -/
def separatorSet : CharSet :=
  .union .blank (.ofList [',', '.', Char.ofNat 0xA0, Char.ofNat 0x202F, Char.ofNat 0x2009,
    Char.ofNat 0x2007, '\x27', '’'])

/-- A single decimal mark. -/
def markSet : CharSet := .ofList ['.', ',']

/-- The digits with at most one separator between two of them, as it is written. -/
def digitsSource : List Char → String
  | [] => ""
  | [d] => String.singleton d
  | d :: rest => String.singleton d ++ "(?:" ++ separatorSource ++ ")?" ++ digitsSource rest

/-- The digits with at most one separator between two of them. -/
def digitsRegex : List Char → Regex
  | [] => .empty
  | [d] => .set (.char d)
  | d :: rest => .seq (.set (.char d)) (.seq (.optional (.set separatorSet)) (digitsRegex rest))

/-- The end of a number: its fraction, or where it has none a fraction of one or two digits at
most. -/
def fractionSource : Option (List Char) → String
  | some digits => "(?:[.,]" ++ String.ofList digits ++ ")"
  | none => "(?:[.,][0-9]\x7b1,2\x7d)?"

def fractionRegex : Option (List Char) → Regex
  | some digits => .seq (.set markSet) (Regex.seqs (digits.map fun d => .set (.char d)))
  | none => .optional (.seq (.set markSet) (.times (.set .asciiDigit) 1 (some 2) true))

/-- The expression of the number, as it is written. -/
def source (n : Number) : String :=
  digitsSource n.digits ++ fractionSource n.fraction

/-- The expression of the number. -/
def regex (n : Number) : Regex :=
  .seq (digitsRegex n.digits) (fractionRegex n.fraction)

end Number

end TextMasking
