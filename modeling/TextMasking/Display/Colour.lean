import TextMasking.Text.Lower

/-!
# Colours

The sixteen colours of a terminal: eight, each in a normal and a bright shade. Text is painted by
writing the code of a colour before it and the code for the default colour after it.
-/

namespace TextMasking

/-- The eight colours of a terminal in the order of their codes. -/
inductive Hue where
  | black
  | red
  | green
  | yellow
  | blue
  | magenta
  | cyan
  | white
  deriving DecidableEq, Repr

/-- A colour of a terminal. -/
structure Colour where
  hue : Hue
  bright : Bool
  deriving DecidableEq, Repr

namespace Hue

/-- All hues in the order of their codes. -/
def all : List Hue := [black, red, green, yellow, blue, magenta, cyan, white]

def name : Hue → String
  | black => "black"
  | red => "red"
  | green => "green"
  | yellow => "yellow"
  | blue => "blue"
  | magenta => "magenta"
  | cyan => "cyan"
  | white => "white"

/-- The place of a hue among the codes. -/
def index : Hue → Nat
  | black => 0
  | red => 1
  | green => 2
  | yellow => 3
  | blue => 4
  | magenta => 5
  | cyan => 6
  | white => 7

end Hue

namespace Colour

/-- The colour of a hue in its normal shade. -/
def normal (hue : Hue) : Colour := ⟨hue, false⟩

def white : Colour := normal .white

/-- All colours, the normal ones first. -/
def all : List Colour :=
  Hue.all.map (Colour.mk · false) ++ Hue.all.map (Colour.mk · true)

/-- The name of a colour in a theme. -/
def name (c : Colour) : String :=
  if c.bright then "bright" ++ c.hue.name else c.hue.name

/-- The code that makes text appear in a colour. -/
def code (c : Colour) : Nat :=
  (if c.bright then 90 else 30) + c.hue.index

/-- The colour with a name. -/
def ofName? (name : String) : Option Colour :=
  all.find? fun c => c.name == name

/-- The colour with a name in any case. -/
def read? (name : String) : Option Colour :=
  ofName? (Text.lower name)

/-- What is said of a name that no colour has. -/
def unknownName : String :=
  "Invalid theme color; expected one of: " ++ ", ".intercalate (all.map name) ++ "."

/-- The text painted in the colour. -/
def paint (c : Colour) (text : String) : String :=
  s!"\x1b[{c.code}m" ++ text ++ "\x1b[39m"

end Colour

end TextMasking
