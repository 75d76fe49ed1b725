import TextMasking.Regex.Basic

/-!
# Flags

The flags that a pattern can set for what follows, and what they make of characters, classes and
assertions.
-/

namespace TextMasking.Regex

open Unicode

/-- Why a text is no regular expression. -/
inductive SyntaxError where
  | unclosedGroup
  | unopenedGroup
  | lookAround
  | groupName
  | repeatedName
  | flags
  | nothingToRepeat
  | repeatCount
  | badEscape
  | backReference
  | unclosedClass
  | classRange
  | classItem
  | unknownProperty
  | needsUnicode
  | tooDeep
  deriving DecidableEq, Repr

/-- The text shown for an error in a pattern, whatever its cause. -/
def SyntaxError.message (_ : SyntaxError) : String := "<regex>"

/-- Flags in force at a place of a pattern. -/
structure Flags where
  ignoreCase : Bool
  multiLine : Bool
  dotAll : Bool
  lazyFirst : Bool
  unicode : Bool
  carriageReturn : Bool
  verbose : Bool
  deriving DecidableEq, Repr

/-- The flags at the start of a pattern. -/
def Flags.initial : Flags := ⟨false, false, false, false, true, false, false⟩

/-- One flag of a list of flags, or the sign that negates the ones after it. -/
inductive FlagItem where
  | negation
  | ignoreCase
  | multiLine
  | dotAll
  | lazyFirst
  | unicode
  | carriageReturn
  | verbose
  deriving DecidableEq, Repr

namespace FlagItem

def ofChar? : Char → Option FlagItem
  | '-' => some .negation
  | 'i' => some .ignoreCase
  | 'm' => some .multiLine
  | 's' => some .dotAll
  | 'U' => some .lazyFirst
  | 'u' => some .unicode
  | 'R' => some .carriageReturn
  | 'x' => some .verbose
  | _ => none

end FlagItem

namespace Flags

/-- Sets one flag. -/
def set (f : Flags) (item : FlagItem) (on : Bool) : Flags :=
  match item with
  | .negation => f
  | .ignoreCase => { f with ignoreCase := on }
  | .multiLine => { f with multiLine := on }
  | .dotAll => { f with dotAll := on }
  | .lazyFirst => { f with lazyFirst := on }
  | .unicode => { f with unicode := on }
  | .carriageReturn => { f with carriageReturn := on }
  | .verbose => { f with verbose := on }

/-- Sets the flags listed; those after the negation are taken away. -/
def apply (f : Flags) (items : List FlagItem) (on : Bool) : Flags :=
  match items with
  | [] => f
  | .negation :: rest => f.apply rest false
  | item :: rest => (f.set item on).apply rest on

/-- Reads a list of flags up to its `:` or `)`. No item comes twice and the negation is not last. -/
def read (seen : List FlagItem) : List Char →
    Except SyntaxError (List FlagItem × Char × List Char)
  | [] => .error .flags
  | c :: rest =>
    if c = ':' || c = ')' then
      if seen.head? = some .negation then .error .flags else .ok (seen.reverse, c, rest)
    else
      match FlagItem.ofChar? c with
      | none => .error .flags
      | some item => if seen.contains item then .error .flags else read (item :: seen) rest

/-! ### What flags mean -/

/-- The set with the case variants that the flags ask for. -/
def foldSet (f : Flags) (s : CharSet) : CharSet :=
  if f.ignoreCase then (if f.unicode then .folded s else .foldedAscii s) else s

/-- The characters outside the set; only where every character counts, not bytes. -/
def negateSet (f : Flags) (s : CharSet) : Except SyntaxError CharSet :=
  if f.unicode then .ok (.complement s) else .error .needsUnicode

/-- The set with its case variants, or what lies outside of them. -/
def finishSet (f : Flags) (negated : Bool) (s : CharSet) : Except SyntaxError CharSet :=
  if negated then f.negateSet (f.foldSet s) else .ok (f.foldSet s)

/-- Any character, except that lines end at a line feed and perhaps at a carriage return. -/
def dot (f : Flags) : Except SyntaxError CharSet :=
  if !f.unicode then .error .needsUnicode
  else if f.dotAll then .ok (.complement .none)
  else if f.carriageReturn then .ok (.complement (.ofList ['\r', '\n']))
  else .ok (.complement (.char '\n'))

def caret (f : Flags) : Assertion :=
  if f.multiLine then (if f.carriageReturn then .lineStartCr else .lineStart) else .textStart

def dollar (f : Flags) : Assertion :=
  if f.multiLine then (if f.carriageReturn then .lineEndCr else .lineEnd) else .textEnd

end Flags

/-! ### Space between the parts of a verbose pattern -/

/-- The characters after blanks and comments. -/
def skipVerbose (inComment : Bool) : List Char → List Char
  | [] => []
  | c :: rest =>
    if inComment then skipVerbose (c != '\n') rest
    else if isBlank c then skipVerbose false rest
    else if c = '#' then skipVerbose true rest
    else c :: rest

/-- The characters after blanks and comments, if the pattern is verbose here. -/
def Flags.skip (f : Flags) (input : List Char) : List Char :=
  if f.verbose then skipVerbose false input else input

end TextMasking.Regex
