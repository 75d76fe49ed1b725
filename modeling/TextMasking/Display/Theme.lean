import TextMasking.Display.Colour
import TextMasking.Yaml.Reader

/-!
# Themes

A theme gives the parts of the output their colours. It is read from a YAML text that maps names of
parts to styles; parts that the text does not name keep their default colour. A style with no colour
leaves its part unpainted, and a colour that has no such name is shown as white.
-/

namespace TextMasking

/-- The parts of the output that can have a colour. -/
inductive Part where
  | header
  | success
  | info
  | warn
  | error
  | maskedText
  | diffAdded
  | diffRemoved
  | diffHeader
  | summaryRuleName
  | summaryOccurrences
  deriving DecidableEq, Repr

namespace Part

/-- All parts. -/
def all : List Part :=
  [header, success, info, warn, error, maskedText, diffAdded, diffRemoved, diffHeader,
    summaryRuleName, summaryOccurrences]

/-- The name of a part in a theme. -/
def name : Part → String
  | header => "header"
  | success => "success"
  | info => "info"
  | warn => "warn"
  | error => "error"
  | maskedText => "masked_text"
  | diffAdded => "diff_added"
  | diffRemoved => "diff_removed"
  | diffHeader => "diff_header"
  | summaryRuleName => "summary_rule_name"
  | summaryOccurrences => "summary_occurrences"

/-- The part with a name. -/
def ofName? (name : String) : Option Part :=
  all.find? fun p => p.name == name

/-- The colour of a part when no theme says otherwise. -/
def defaultColour : Part → Colour
  | header => .normal .cyan
  | success => .normal .green
  | warn => .normal .yellow
  | error => .normal .red
  | maskedText => .normal .magenta
  | diffAdded => .normal .green
  | diffRemoved => .normal .red
  | diffHeader => ⟨.black, true⟩
  | _ => .white

end Part

/-- The colour of each part, if it has one. -/
abbrev Theme := Part → Option Colour

namespace Theme

/-- The theme without a theme text. -/
def default : Theme := fun p => some p.defaultColour

/-- The theme with the colour of one part set. -/
def set (t : Theme) (part : Part) (colour : Option Colour) : Theme :=
  fun p => if p = part then colour else t p

/-- The colour that a value names: none for an empty one. -/
def colourOf? : Yaml → Option (Option Colour)
  | .scalar text quoted =>
    if quoted || Yaml.isText text then some (some ((Colour.ofName? text).getD .white))
    else if Yaml.isNull text then some none
    else none
  | _ => none

/-- The colour of a style: its member `fg`, which may be there once. -/
def styleOf? : Yaml → Option (Option Colour)
  | .scalar "" false => some none
  | .scalar .. => none
  | .sequence [v] => colourOf? v
  | .sequence _ => none
  | .mapping entries => do
    if entries.any fun (k, _) => !k.isScalar then none
    match entries.filter fun (k, _) => k.isScalarOf "fg" with
    | [] => some none
    | [(_, v)] => colourOf? v
    | _ => none

/-- The theme with what an entry of a theme text says. -/
def setEntry? (t : Theme) : Yaml × Yaml → Option Theme
  | (.scalar name _, style) => do
    return t.set (← Part.ofName? name) (← styleOf? style)
  | _ => none

/-- The theme of a value. -/
def ofYaml? : Yaml → Option Theme
  | .scalar "" false => some default
  | .mapping entries => entries.foldlM setEntry? default
  | _ => none

/-- Reads a theme text. -/
def read? (text : String) : Option Theme := do
  ofYaml? (← Yaml.read? text)

/-- What is said of a text that is no theme. -/
def problem : String := "<yaml>"

end Theme

end TextMasking
