/-!
# Numbers in a JSON text

A number is read as a binary fraction of double precision: the leading digits, as many as fit in 64
bits, are rounded to 53 bits, and the power of ten that remains is rounded too and multiplied with
them. A number that is too large then is refused. Digits that are left out only shift the power of
ten.
-/

namespace TextMasking.Json

/-- A decimal number as it is written, without its sign. -/
structure Numeral where
  whole : List Char
  fraction : List Char
  exponent : Int
  deriving DecidableEq, Repr

/-- The value of decimal digits after those of `n`. -/
def digitsValue (n : Nat) (digits : List Char) : Nat :=
  digits.foldl (fun n c => 10 * n + (c.toNat - '0'.toNat)) n

/-- Rounds to 53 significant bits, a half to the even neighbour. -/
def roundToDouble (n : Nat) : Nat :=
  let unit := Nat.pow 2 (n.log2 + 1 - 53)
  let below := n / unit
  let rest := 2 * (n % unit)
  let up := unit < rest || (rest == unit && below % 2 == 1)
  (if up then below + 1 else below) * unit

namespace Numeral

/-- The exponent after its mark: digits with an optional sign. -/
def exponent? (cs : List Char) : Option Int :=
  let value (digits : List Char) : Option Nat :=
    if digits.isEmpty || !digits.all Char.isDigit then none else some (digitsValue 0 digits)
  match cs with
  | '-' :: rest => (value rest).map fun n => -(n : Int)
  | '+' :: rest => (value rest).map Int.ofNat
  | rest => (value rest).map Int.ofNat

/-- Reads a number: digits without a needless zero before them, a point with digits, an exponent. -/
def read? (cs : List Char) : Option Numeral := do
  let cs := if cs.head? = some '-' then cs.tail else cs
  let whole := cs.takeWhile Char.isDigit
  let afterWhole := cs.dropWhile Char.isDigit
  if whole.isEmpty || (whole.head? = some '0' && whole.length ≠ 1) then none
  let point := afterWhole.head? = some '.'
  let fraction := if point then afterWhole.tail.takeWhile Char.isDigit else []
  if point && fraction.isEmpty then none
  let rest := if point then afterWhole.tail.dropWhile Char.isDigit else afterWhole
  match rest with
  | [] => some ⟨whole, fraction, 0⟩
  | mark :: rest =>
    if mark = 'e' ∨ mark = 'E' then do
      return ⟨whole, fraction, ← exponent? rest⟩
    else none

/-- The largest number of 64 bits. -/
def maxLeading : Nat := 18446744073709551615

/-- The value of the leading digits that fit in 64 bits, after those of `n`, and the digits left
out. -/
def leading (n : Nat) : List Char → Nat × List Char
  | [] => (n, [])
  | c :: rest =>
    let next := digitsValue n [c]
    if next ≤ maxLeading then leading next rest else (n, c :: rest)

/-- Whether the number is too large for double precision. -/
def tooLarge (x : Numeral) : Bool :=
  let (value, leftOut) := leading 0 (x.whole ++ x.fraction)
  let power := x.exponent - x.fraction.length + leftOut.length
  if value = 0 || power < 0 then false
  else if 308 < power then true
  else Nat.pow 2 1024 ≤ roundToDouble (roundToDouble value * roundToDouble (Nat.pow 10 power.toNat))

end Numeral

/-- Whether the characters are a number that can be read. -/
def isNumber (cs : List Char) : Bool :=
  (Numeral.read? cs).any fun x => !x.tooLarge

end TextMasking.Json
