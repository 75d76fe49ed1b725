import TextMasking.Unicode.Extra
import TextMasking.Unicode.Letter
import TextMasking.Unicode.Mark
import TextMasking.Unicode.Script
import TextMasking.Unicode.Symbol

/-!
# Properties of characters

Properties of characters under the names that a pattern may give them. `Property.ofName?` reads a
name that stands alone, `Property.ofNameValue?` one with a value; both ignore case, spaces, hyphens,
underscores and a leading `is`. `Property.holds` decides a property.
-/

namespace TextMasking.Unicode

/-- General categories; `other` holds the characters that are in none of the rest. -/
inductive Category where
  | lu | ll | lt | lm | lo
  | mn | mc | me | nd | nl | no
  | pc | pd | ps | pe | pi | pf | po
  | sm | sc | sk | so
  | zs | zl | zp
  | cc | cf | cs | co | cn
  deriving DecidableEq, Repr

namespace Category

/-- Ranges of the assigned categories. -/
def ranges : Category → List (Nat × Nat)
  | .lu => Letter.upperLetters | .ll => Letter.lowerLetters | .lt => Letter.titleLetters
  | .lm => Letter.modifierLetters | .lo => Letter.otherLetters
  | .mn => Mark.nonSpacingMarks | .mc => Mark.spacingMarks | .me => Mark.enclosingMarks
  | .nd => Mark.decimalDigits | .nl => Mark.letterNumbers | .no => Mark.otherNumbers
  | .pc => Symbol.connectors | .pd => Symbol.dashes | .ps => Symbol.openers
  | .pe => Symbol.closers | .pi => Symbol.initialQuotes | .pf => Symbol.finalQuotes
  | .po => Symbol.otherPunctuation
  | .sm => Symbol.mathSymbols | .sc => Symbol.currencySymbols | .sk => Symbol.modifierSymbols
  | .so => Symbol.otherSymbols
  | .zs => Symbol.spaces | .zl => Symbol.lineSeparators | .zp => Symbol.paragraphSeparators
  | .cc => Symbol.controls | .cf => Symbol.formats | .co => Symbol.privateUse
  | .cs | .cn => []

/-- The categories that assigned characters are in. -/
def assigned : List Category :=
  [.lu, .ll, .lt, .lm, .lo, .mn, .mc, .me, .nd, .nl, .no, .pc, .pd, .ps, .pe, .pi, .pf, .po,
    .sm, .sc, .sk, .so, .zs, .zl, .zp, .cc, .cf, .co]

/-- Whether `c` is in the category; a character in no assigned category is in `cn`, and none is a
surrogate. -/
def holds (k : Category) (c : Char) : Bool :=
  if k = .cn then assigned.all fun k' => !inRanges k'.ranges c.toNat
  else inRanges k.ranges c.toNat

/-- Names of categories and of groups of categories. -/
def names : List (List String × List Category) := [
  (["lu", "uppercaseletter"], [.lu]),
  (["ll", "lowercaseletter"], [.ll]),
  (["lt", "titlecaseletter"], [.lt]),
  (["lc", "casedletter"], [.lu, .ll, .lt]),
  (["lm", "modifierletter"], [.lm]),
  (["lo", "otherletter"], [.lo]),
  (["l", "letter"], [.lu, .ll, .lt, .lm, .lo]),
  (["mn", "nonspacingmark"], [.mn]),
  (["mc", "spacingmark"], [.mc]),
  (["me", "enclosingmark"], [.me]),
  (["m", "mark", "combiningmark"], [.mn, .mc, .me]),
  (["nd", "decimalnumber", "digit"], [.nd]),
  (["nl", "letternumber"], [.nl]),
  (["no", "othernumber"], [.no]),
  (["n", "number"], [.nd, .nl, .no]),
  (["pc", "connectorpunctuation"], [.pc]),
  (["pd", "dashpunctuation"], [.pd]),
  (["ps", "openpunctuation"], [.ps]),
  (["pe", "closepunctuation"], [.pe]),
  (["pi", "initialpunctuation"], [.pi]),
  (["pf", "finalpunctuation"], [.pf]),
  (["po", "otherpunctuation"], [.po]),
  (["p", "punctuation", "punct"], [.pc, .pd, .ps, .pe, .pi, .pf, .po]),
  (["sm", "mathsymbol"], [.sm]),
  (["sc", "currencysymbol"], [.sc]),
  (["sk", "modifiersymbol"], [.sk]),
  (["so", "othersymbol"], [.so]),
  (["s", "symbol"], [.sm, .sc, .sk, .so]),
  (["zs", "spaceseparator"], [.zs]),
  (["zl", "lineseparator"], [.zl]),
  (["zp", "paragraphseparator"], [.zp]),
  (["z", "separator"], [.zs, .zl, .zp]),
  (["cc", "control", "cntrl"], [.cc]),
  (["cf", "format"], [.cf]),
  (["cs", "surrogate"], [.cs]),
  (["co", "privateuse"], [.co]),
  (["cn", "unassigned"], [.cn]),
  (["c", "other"], [.cc, .cf, .cs, .co, .cn])]

end Category

/-! ### Properties beyond the categories -/

/-- White space. -/
def isBlank (c : Char) : Bool :=
  inRanges [(0x9, 0xD), (0x20, 0x20), (0x85, 0x85), (0xA0, 0xA0), (0x1680, 0x1680),
    (0x2000, 0x200A), (0x2028, 0x2029), (0x202F, 0x202F), (0x205F, 0x205F), (0x3000, 0x3000)]
    c.toNat

/-- Whether `c` is in one of the categories. -/
def inCategories (ks : List Category) (c : Char) : Bool :=
  ks.any (·.holds c)

/-- Alphabetic characters. -/
def isAlphabetic (c : Char) : Bool :=
  inCategories [.ll, .lu, .lt, .lm, .lo, .nl] c || inRanges Extra.alphabetic c.toNat

/-- Alphabetic characters and numbers. -/
def isAlphanumeric (c : Char) : Bool :=
  isAlphabetic c || inCategories [.nd, .nl, .no] c

def isLower (c : Char) : Bool :=
  Category.ll.holds c || inRanges Extra.lower c.toNat

def isUpper (c : Char) : Bool :=
  Category.lu.holds c || inRanges Extra.upper c.toNat

/-- Characters that have case. -/
def isCased (c : Char) : Bool :=
  isLower c || isUpper c || Category.lt.holds c

/-- Characters that do not count when the case of a word is looked at. -/
def isCaseIgnorable (c : Char) : Bool :=
  inCategories [.mn, .me, .cf, .lm, .sk] c || inRanges Extra.caseIgnorable c.toNat

/-- Zero-width joiner and non-joiner. -/
def isJoinControl (c : Char) : Bool :=
  c.toNat = 0x200C || c.toNat = 0x200D

/-- Characters of words. -/
def isWord (c : Char) : Bool :=
  isAlphabetic c || inCategories [.mn, .mc, .me, .nd, .pc] c || isJoinControl c

/-- A property that a pattern can name. -/
inductive Property where
  | any
  | assigned
  | ascii
  | categories (ks : List Category)
  | script (name : String)
  | blank
  | alphabetic
  | lower
  | upper
  | cased
  | caseIgnorable
  | joinControl
  | listed (ranges : List (Nat × Nat))
  deriving DecidableEq

namespace Property

/-- Whether `c` has the property. -/
def holds : Property → Char → Bool
  | .any, _ => true
  | .assigned, c => inCategories Category.assigned c
  | .ascii, c => c.toNat < 0x80
  | .categories ks, c => inCategories ks c
  | .script name, c =>
    Script.all.any fun s => s.names.contains name && inRanges s.ranges c.toNat
  | .blank, c => isBlank c
  | .alphabetic, c => isAlphabetic c
  | .lower, c => isLower c
  | .upper, c => isUpper c
  | .cased, c => isCased c
  | .caseIgnorable, c => isCaseIgnorable c
  | .joinControl, c => isJoinControl c
  | .listed ranges, c => inRanges ranges c.toNat

/-- Names of properties that are neither categories nor scripts. -/
def named : List (List String × Property) := [
  (["whitespace", "wspace", "space"], .blank),
  (["alphabetic", "alpha"], .alphabetic),
  (["lowercase", "lower"], .lower),
  (["uppercase", "upper"], .upper),
  (["cased"], .cased),
  (["caseignorable", "ci"], .caseIgnorable),
  (["joincontrol", "joinc"], .joinControl),
  (["emoji"], .listed Extra.emoji),
  (["emojipresentation", "epres"], .listed Extra.emojiPresentation),
  (["emojimodifierbase", "ebase"], .listed Extra.emojiBase),
  (["emojimodifier", "emod"], .listed [(0x1F3FB, 0x1F3FF)]),
  (["emojicomponent", "ecomp"], .listed Extra.emojiComponent),
  (["extendedpictographic", "extpict"], .listed Extra.pictographic),
  (["dash"], .listed Extra.dash),
  (["ideographic", "ideo"], .listed Extra.ideographic),
  (["quotationmark", "qmark"], .listed Extra.quotationMark),
  (["variationselector", "vs"], .listed Extra.variationSelector),
  (["math"], .listed Extra.math),
  (["diacritic", "dia"], .listed Extra.diacritic),
  (["graphemeextend", "grext"], .listed Extra.graphemeExtend),
  (["defaultignorablecodepoint", "di"], .listed Extra.defaultIgnorable),
  (["hexdigit", "hex"],
    .listed [(0x30, 0x39), (0x41, 0x46), (0x61, 0x66), (0xFF10, 0xFF19), (0xFF21, 0xFF26),
      (0xFF41, 0xFF46)]),
  (["asciihexdigit", "ahex"], .listed [(0x30, 0x39), (0x41, 0x46), (0x61, 0x66)]),
  (["regionalindicator", "ri"], .listed [(0x1F1E6, 0x1F1FF)])]

/-- A name as it is looked up: ASCII only, in lower case, without separators and without a leading
`is`, except that `isc` keeps it. -/
def normalize (name : List Char) : List Char :=
  let isPrefixed :=
    match name with
    | a :: b :: _ => (a == 'i' || a == 'I') && (b == 's' || b == 'S')
    | _ => false
  let body := if isPrefixed then name.drop 2 else name
  let kept := (body.filter fun c => c.toNat < 0x80 && c != ' ' && c != '_' && c != '-').map Char.toLower
  if isPrefixed && kept == ['c'] then ['i', 's', 'c'] else kept

/-- The property of an entry that lists `name`. -/
def find? {α : Type} (entries : List (List String × α)) (name : String) : Option α :=
  (entries.find? (·.1.contains name)).map (·.2)

/-- The category, or group of categories, called `name`. -/
def category? (name : String) : Option Property :=
  if name = "any" then some .any
  else if name = "assigned" then some .assigned
  else if name = "ascii" then some .ascii
  else (find? Category.names name).map .categories

/-- The script called `name`. -/
def script? (name : String) : Option Property :=
  (Script.all.find? (·.names.contains name)).map fun s => .script (s.names.headD name)

/-- The property called `name`. The short names `cf`, `sc` and `lc` are categories. -/
def ofName? (name : List Char) : Option Property :=
  let n := String.ofList (normalize name)
  (find? named n).orElse fun _ => (category? n).orElse fun _ => script? n

/-- The property called `name` that has the value `value`. -/
def ofNameValue? (name value : List Char) : Option Property :=
  let n := String.ofList (normalize name)
  let v := String.ofList (normalize value)
  if n = "generalcategory" || n = "gc" then category? v
  else if n = "script" || n = "sc" then script? v
  else none

end Property

end TextMasking.Unicode
