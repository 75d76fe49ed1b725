import TextMasking.Matching.Literal
import TextMasking.Regex.Reader
import TextMasking.Regex.Search
import TextMasking.Rules.Basic

/-!
# Matchers

A rule is turned into a matcher: an expression with a group around what is to be masked. What has to
stand before and after a match is read as part of the expression, outside of that group. A number at
the end of a literal pattern must also be the end of a number in the text.
-/

namespace TextMasking

/-- Why a rule has no matcher. -/
inductive RuleError where
  | emptyPattern
  | patternTooLong (pattern : String) (length limit : Nat)
  | badRegex (pattern : String) (cause : Regex.SyntaxError)
  deriving DecidableEq, Repr

def RuleError.message : RuleError → String
  | .emptyPattern => EditError.emptyPattern.message
  | .patternTooLong pattern length limit =>
    s!"Rule '{pattern}': pattern length ({length}) exceeds maximum allowed ({limit})"
  | .badRegex pattern cause => s!"Failed to compile masking rule '{pattern}': {cause.message}"

/-- A rule ready to be applied. -/
structure Matcher where
  rule : Rule
  /-- The expression as it is written. -/
  source : String
  regex : Regex
  /-- The expression may read a character before the match. -/
  readsBefore : Bool

/-! ### What stands around a match -/

/-- The name of the group around what is masked. -/
def bodyGroup : String := "mask_body"

/-- The edge or a character that is in none of the sets. -/
def edgeOr (edge : Assertion) (s : CharSet) : Regex :=
  .alt (.assert edge) (.set (.complement s))

/-- A decimal mark that no digit follows. -/
def idleMark : Regex :=
  .seq (.set Number.markSet) (edgeOr .textEnd .asciiDigit)

/-- What has to come before a match, as it is written. -/
def beforeSource (wholeWord : Bool) : String :=
  if wholeWord then "(?:^|[^A-Za-z0-9_])" else ""

/-- What has to come before a match: for a whole word, no word character. -/
def beforeRegex (wholeWord : Bool) : List Regex :=
  if wholeWord then [edgeOr .textStart .asciiWord] else []

/-- What has to come after a match, as it is written. -/
def afterSource (wholeWord number : Bool) : String :=
  match wholeWord, number with
  | false, false => ""
  | true, false => "(?:$|[^A-Za-z0-9_])"
  | false, true => "(?:$|[^0-9.,]|[.,](?:$|[^0-9]))"
  | true, true => "(?:$|[^A-Za-z0-9_.,]|[.,](?:$|[^0-9]))"

/-- What has to come after a match: for a whole word no word character, for a number neither a digit
nor a mark with a digit. -/
def afterRegex (wholeWord number : Bool) : List Regex :=
  match wholeWord, number with
  | false, false => []
  | true, false => [edgeOr .textEnd .asciiWord]
  | false, true => [.alt (edgeOr .textEnd (.union .asciiDigit Number.markSet)) idleMark]
  | true, true => [.alt (edgeOr .textEnd (.union .asciiWord Number.markSet)) idleMark]

namespace Matcher

/-- The largest number of characters of a pattern. -/
def maxPatternLength : Nat := 500

/-- The written expression whose group holds `body`. -/
def wrapSource (rule : Rule) (body : String) (number : Bool) : String :=
  let inner := if rule.caseSensitive then body else "(?i:" ++ body ++ ")"
  beforeSource rule.wholeWord ++ "(?P<" ++ bodyGroup ++ ">" ++ inner ++ ")"
    ++ afterSource rule.wholeWord number

/-- The expression whose group holds `body`. -/
def wrapRegex (rule : Rule) (body : Regex) (number : Bool) : Regex :=
  Regex.seqs (beforeRegex rule.wholeWord ++ [.group bodyGroup body]
    ++ afterRegex rule.wholeWord number)

/-- The matcher of a literal rule. -/
def ofLiteral (rule : Rule) : Matcher :=
  let pieces := Piece.ofPattern rule.pattern.toList
  let number := Piece.endsInNumber pieces
  let body := Regex.seqs (pieces.map (Piece.regex !rule.caseSensitive))
  { rule
    source := wrapSource rule (String.join (pieces.map Piece.source)) number
    regex := wrapRegex rule body number
    readsBefore := rule.wholeWord }

/-- The matcher of a rule whose pattern is a regular expression, which must also be one by
itself. -/
def ofRegex (rule : Rule) : Except RuleError Matcher := do
  let read (source : String) : Except RuleError Regex :=
    (Regex.read source.toList).mapError (.badRegex rule.pattern)
  let _ ← read rule.pattern
  let source := wrapSource rule ("(?:" ++ rule.pattern ++ ")") false
  return { rule, source, regex := ← read source, readsBefore := rule.wholeWord }

/-- The matcher of a rule. -/
def compile (rule : Rule) : Except RuleError Matcher :=
  if Text.blank rule.pattern then .error .emptyPattern
  else if rule.specificity > maxPatternLength then
    .error (.patternTooLong rule.pattern rule.specificity maxPatternLength)
  else if rule.isRegex then ofRegex rule
  else .ok (ofLiteral rule)

end Matcher

/-- A rule that a pass leaves out, and why. -/
structure SkippedRule where
  pattern : String
  reason : String
  deriving DecidableEq, Repr

/-- The matchers of a list of rules in the order of application, and the rules without one. -/
structure MatcherList where
  matchers : List Matcher
  skipped : List SkippedRule

namespace MatcherList

/-- Turns every rule into a matcher, longest pattern first. -/
def compile (rules : RuleList) : MatcherList :=
  let tried := rules.bySpecificity.map fun r => (r, Matcher.compile r)
  { matchers := tried.filterMap fun (_, m) => m.toOption
    skipped := tried.filterMap fun (r, m) =>
      match m with
      | .ok _ => none
      | .error e => some ⟨r.pattern, e.message⟩ }

end MatcherList

end TextMasking
