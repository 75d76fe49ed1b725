import TextMasking.Text.Blank

/-!
# Lines

A text is cut after every line feed. The lines put together are the text (`flatten_lines`), and so
for bytes (`flatten_byteLines`). A line that opens with three backquotes or tildes is a fence.
-/

namespace TextMasking.Text

/-- Cuts a sequence after every element that ends a line; `current` holds the elements of the line
so far, the last one first. -/
def cutFrom {α : Type} (ends : α → Bool) (current : List α) : List α → List (List α)
  | [] => if current.isEmpty then [] else [current.reverse]
  | x :: rest =>
    if ends x then (x :: current).reverse :: cutFrom ends [] rest
    else cutFrom ends (x :: current) rest

theorem flatten_cutFrom {α : Type} (ends : α → Bool) (current xs : List α) :
    (cutFrom ends current xs).flatten = current.reverse ++ xs := by
  induction xs generalizing current with
  | nil => cases current <;> simp [cutFrom]
  | cons x rest ih => by_cases h : ends x <;> simp [cutFrom, h, ih]

/-- The lines of the characters, each with its line feed. -/
def lines (cs : List Char) : List (List Char) :=
  cutFrom (· = '\n') [] cs

theorem flatten_lines (cs : List Char) : (lines cs).flatten = cs :=
  flatten_cutFrom _ [] cs

/-- The lines of bytes, each with its line feed. -/
def byteLines (bytes : List UInt8) : List (List UInt8) :=
  cutFrom (· = 10) [] bytes

theorem flatten_byteLines (bytes : List UInt8) : (byteLines bytes).flatten = bytes :=
  flatten_cutFrom _ [] bytes

/-- A line without the line feed at its end. -/
def dropFeed (line : List Char) : List Char :=
  if line.getLast? = some '\n' then line.dropLast else line

/-- A line without its end: a line feed, and a carriage return before that. -/
def dropLineEnd (line : List Char) : List Char :=
  if line.getLast? = some '\n' then
    let line := line.dropLast
    if line.getLast? = some '\r' then line.dropLast else line
  else line

/-- Whether a line opens or closes a fenced block. -/
def isFence (line : List Char) : Bool :=
  let start := trimStartChars line
  "```".toList.isPrefixOf start || "~~~".toList.isPrefixOf start

end TextMasking.Text
