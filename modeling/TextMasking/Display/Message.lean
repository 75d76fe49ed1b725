import TextMasking.Display.Theme

/-!
# Messages

A message is a line with a tag that tells how it is meant. The tag has the colour that the theme
gives it, if colours are shown at all.
-/

namespace TextMasking

/-- How output is shown. -/
structure Display where
  theme : Theme
  /-- Colours are shown. -/
  coloured : Bool

namespace Display

/-- A display without colours. -/
def plain : Display := ⟨Theme.default, false⟩

/-- A part of the output. -/
def paint (d : Display) (part : Part) (text : String) : String :=
  match d.theme part with
  | some colour => if d.coloured then colour.paint text else text
  | none => text

end Display

/-- How a message is meant. -/
inductive Severity where
  | info
  | success
  | warning
  | error
  deriving DecidableEq, Repr

namespace Severity

def tag : Severity → String
  | info => "[datamask]"
  | success => "[datamask]"
  | warning => "[datamask] warning:"
  | error => "[datamask] error:"

def part : Severity → Part
  | info => .info
  | success => .success
  | warning => .warn
  | error => .error

end Severity

/-- A message as it is shown. -/
def Display.message (d : Display) (severity : Severity) (text : String) : String :=
  d.paint severity.part severity.tag ++ " " ++ text ++ "\n"

end TextMasking
