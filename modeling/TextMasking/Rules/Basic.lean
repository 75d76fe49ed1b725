import TextMasking.Text.Blank
import TextMasking.Text.Lower

/-!
# Rules

A rule replaces what its pattern matches by a placeholder. A list of rules is edited by adding and
removing; adding refuses blank patterns and patterns that differ from a stored one only in case and
surrounding space. Rules are applied longest pattern first.
-/

namespace TextMasking

/-- A masking rule. -/
structure Rule where
  /-- What the user typed, or a regular expression. -/
  pattern : String
  /-- The placeholder shown instead of each match. -/
  replacement : String
  /-- No word character may stand beside a match. -/
  wholeWord : Bool
  /-- Letter case counts. -/
  caseSensitive : Bool
  /-- The pattern is a regular expression. -/
  isRegex : Bool
  deriving DecidableEq, Repr

/-- What two patterns that count as the same have in common. -/
def patternKey (pattern : String) : String :=
  Text.lower (Text.trim pattern)

namespace Rule

/-- A literal rule without conditions. -/
def literal (pattern replacement : String) : Rule :=
  ⟨pattern, replacement, false, false, false⟩

def key (r : Rule) : String := patternKey r.pattern

/-- The number of characters of the pattern; rules with more are applied first. -/
def specificity (r : Rule) : Nat := r.pattern.length

end Rule

/-- Why a list of rules was not changed. -/
inductive EditError where
  | emptyPattern
  | duplicatePattern (pattern : String)
  | noSuchRule (index : Nat)
  deriving DecidableEq, Repr

def EditError.message : EditError → String
  | .emptyPattern => "A rule has an empty pattern"
  | .duplicatePattern pattern => s!"Rule exists: '{pattern}'. Delete it to change."
  | .noSuchRule index => s!"No rule at index {index}"

/-- A list of rules in the order of storage. -/
abbrev RuleList := List Rule

namespace RuleList

/-- Puts a rule before the first one whose pattern is not longer. -/
def insertBySpecificity (rule : Rule) : RuleList → RuleList
  | [] => [rule]
  | other :: rest =>
    if other.specificity ≤ rule.specificity then rule :: other :: rest
    else other :: insertBySpecificity rule rest

/-- The rules in the order of application: longest pattern first, and as stored among equals. -/
def bySpecificity (rules : RuleList) : RuleList :=
  rules.foldr insertBySpecificity []

/-- Whether a rule has a pattern that counts as the same. -/
def hasPattern (rules : RuleList) (pattern : String) : Bool :=
  rules.any fun r => r.key == patternKey pattern

/-- Adds a rule at the end, its pattern trimmed. -/
def add (rules : RuleList) (rule : Rule) : Except EditError RuleList :=
  let pattern := Text.trim rule.pattern
  if pattern.isEmpty then .error .emptyPattern
  else if rules.hasPattern pattern then .error (.duplicatePattern pattern)
  else .ok (rules ++ [{ rule with pattern }])

/-- Takes away the rule at `index`. -/
def remove (rules : RuleList) (index : Nat) : Except EditError (Rule × RuleList) :=
  match rules[index]? with
  | some rule => .ok (rule, rules.eraseIdx index)
  | none => .error (.noSuchRule index)

end RuleList

end TextMasking
