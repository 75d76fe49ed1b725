import TextMasking.Unicode.Columns
import TextMasking.Unicode.Extra

/-!
# Width of a text

The number of columns that a line takes on a display. Most characters take one column, control
characters too; wide ones take two, and combining ones none. Some characters together take the two
columns of one picture: a sign with the selector for its picture, a person with a skin tone,
pictures that are joined, and the two letters of a flag.
-/

namespace TextMasking.Text

open Unicode

/-- The selector for the picture of a sign. -/
def isPictureSelector (c : Char) : Bool := c.toNat == 0xFE0F

/-- The character that joins pictures. -/
def isJoiner (c : Char) : Bool := c.toNat == 0x200D

def isSkinTone (c : Char) : Bool := 0x1F3FB ≤ c.toNat && c.toNat ≤ 0x1F3FF

def isFlagLetter (c : Char) : Bool := 0x1F1E6 ≤ c.toNat && c.toNat ≤ 0x1F1FF

def isEmoji (c : Char) : Bool := inRanges Extra.emoji c.toNat

/-- The columns of a character by itself. -/
def charWidth (c : Char) : Nat :=
  if c.toNat < 0x20 || (0x7F ≤ c.toNat && c.toNat < 0xA0) then 1
  else if inRanges Columns.zero c.toNat then 0
  else if inRanges Columns.wide c.toNat then 2
  else 1

/-- What came before the next character. -/
inductive Preceding where
  | other
  | emoji (width : Nat)
  | joinedEmoji
  | flagLetter
  | carriageReturn

/-- The columns that a character adds, and what it is for the next one. -/
def addedWidth (before : Preceding) (c : Char) : Nat × Preceding :=
  match before with
  | .carriageReturn => if c = '\n' then (0, .other) else addedAlone c
  | .flagLetter => if isFlagLetter c then (1, .other) else addedAlone c
  | .joinedEmoji => if isEmoji c then (0, .emoji 2) else addedAlone c
  | .emoji w =>
    if isPictureSelector c then (2 - w, .emoji 2)
    else if isSkinTone c && w == 2 then (0, .emoji 2)
    else if isJoiner c then (0, .joinedEmoji)
    else addedAlone c
  | .other => addedAlone c
where
  /-- The columns of a character that does not belong to the one before. -/
  addedAlone (c : Char) : Nat × Preceding :=
    let w := charWidth c
    (w, if c = '\r' then .carriageReturn
      else if isFlagLetter c then .flagLetter
      else if isEmoji c then .emoji w
      else .other)

/-- The columns of the characters after others. -/
def widthFrom (before : Preceding) : List Char → Nat
  | [] => 0
  | c :: rest =>
    let (w, here) := addedWidth before c
    w + widthFrom here rest

/-- The columns of a line. -/
def width (s : String) : Nat :=
  widthFrom .other s.toList

end TextMasking.Text
