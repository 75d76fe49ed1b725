import TextMasking.Diff.Hunk
import TextMasking.Display.Message
import TextMasking.Text.Lines

/-!
# Differences as they are shown

The lines that masking changed, hunk by hunk, with a mark before each line.
-/

namespace TextMasking.Display

open Diff

/-- The text of a line. -/
def lineText (line : List Char) : String :=
  String.ofList (Text.dropFeed line)

/-- A line of a hunk as it is shown. -/
def hunkLine (d : Display) : HunkLine (List Char) → String
  | .context line => "  " ++ lineText line ++ "\n"
  | .removed line => d.paint .diffRemoved ("- " ++ lineText line) ++ "\n"
  | .added line => d.paint .diffAdded ("+ " ++ lineText line) ++ "\n"

/-- The place of a hunk in both texts. -/
def hunkHeader (h : Hunk (List Char)) : String :=
  s!"@@ -{h.oldStart},{h.oldSize} +{h.newStart},{h.newSize} @@"

/-- A hunk as it is shown. -/
def hunk (d : Display) (h : Hunk (List Char)) : String :=
  d.paint .diffHeader (hunkHeader h) ++ "\n" ++ String.join (h.lines.map d.hunkLine)

/-- The difference of two texts as it is shown. -/
def diff (d : Display) (old new : String) : String :=
  let hs := hunks (Text.lines old.toList) (Text.lines new.toList)
  let body := if hs.isEmpty then "No changes.\n" else String.join (hs.map d.hunk)
  d.paint .diffHeader "--- Diff View ---" ++ "\n" ++ body
    ++ d.paint .diffHeader "-----------------" ++ "\n"

end TextMasking.Display
