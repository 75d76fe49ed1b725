import TextMasking.Unicode.Property

/-!
# Blank characters at the ends of a text

`trim` drops the white space at both ends of a text; a text is blank when it has nothing else.
-/

namespace TextMasking.Text

open Unicode

/-- The characters without the white space at their start. -/
def trimStartChars (cs : List Char) : List Char :=
  cs.dropWhile isBlank

/-- The characters without the white space at their ends. -/
def trimChars (cs : List Char) : List Char :=
  (trimStartChars (trimStartChars cs).reverse).reverse

/-- The text without the white space at its ends. -/
def trim (s : String) : String :=
  String.ofList (trimChars s.toList)

/-- Whether the text is white space only. -/
def blank (s : String) : Bool :=
  s.toList.all isBlank

end TextMasking.Text
