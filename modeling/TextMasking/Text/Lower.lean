import TextMasking.Unicode.Case
import TextMasking.Unicode.Property

/-!
# Lower case of a text

Each character takes its lower-case form. A capital sigma at the end of a word becomes a final
sigma: what precedes it, leaving out characters without weight, has case, and what follows has not.
-/

namespace TextMasking.Text

open Unicode

/-- Whether the first character that counts has case. -/
def casedNext (cs : List Char) : Bool :=
  match cs.find? (!isCaseIgnorable ·) with
  | some c => isCased c
  | none => false

/-- Lower case of the characters after `before`, which is given last character first. -/
def lowerAfter (before : List Char) : List Char → List Char
  | [] => []
  | c :: rest =>
    let form :=
      if c.toNat = 0x3A3 then
        if casedNext before && !casedNext rest then [Char.ofNat 0x3C2] else [Char.ofNat 0x3C3]
      else lowerForm c
    form ++ lowerAfter (c :: before) rest

/-- The text in lower case. -/
def lower (s : String) : String :=
  String.ofList (lowerAfter [] s.toList)

end TextMasking.Text
