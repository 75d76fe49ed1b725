import TextMasking.Matching.Matcher

/-!
# Reports

A report says what a pass did: how often each pattern was masked, and which rules were left out and
why. The reports of passes are merged into one. Patterns are tallied under the first item that has
the pattern, and a rule that was left out twice for the same reason is listed once.
-/

namespace TextMasking

/-- How often a pattern was masked. -/
structure SummaryItem where
  pattern : String
  replacement : String
  occurrences : Nat
  deriving DecidableEq, Repr

/-- What a pass did. -/
structure Report where
  masksCreated : Nat
  /-- The patterns that were masked, in order of their first mask. -/
  summary : List SummaryItem
  /-- The rules without a matcher. -/
  compileSkips : List SkippedRule
  /-- The rules whose matchers were given up. -/
  scanSkips : List SkippedRule
  /-- The texts that could not be replaced. -/
  unitsLeftUnmodified : Nat
  deriving DecidableEq, Repr

namespace Report

/-- The report of a pass that did nothing. -/
def empty : Report := ⟨0, [], [], [], 0⟩

/-- Counts an item under the first one with its pattern, or as a new one at the end. -/
def tally : List SummaryItem → SummaryItem → List SummaryItem
  | [], item => [item]
  | first :: rest, item =>
    if first.pattern = item.pattern then
      { first with occurrences := first.occurrences + item.occurrences } :: rest
    else first :: tally rest item

/-- Adds a skipped rule that is not listed yet. -/
def list (skips : List SkippedRule) (skip : SkippedRule) : List SkippedRule :=
  if skips.contains skip then skips else skips ++ [skip]

/-- Counts the masks made in one text. -/
def record (r : Report) (item : SummaryItem) : Report :=
  { r with
    masksCreated := r.masksCreated + item.occurrences
    summary := tally r.summary item }

/-- The report of one pass after another. -/
def merge (r later : Report) : Report :=
  { masksCreated := r.masksCreated + later.masksCreated
    summary := later.summary.foldl tally r.summary
    compileSkips := later.compileSkips.foldl list r.compileSkips
    scanSkips := later.scanSkips.foldl list r.scanSkips
    unitsLeftUnmodified := r.unitsLeftUnmodified + later.unitsLeftUnmodified }

/-- The report of passes in order. -/
def mergeAll (reports : List Report) : Report :=
  reports.foldl merge empty

theorem merge_empty (r : Report) : r.merge empty = r := rfl

end Report

end TextMasking
