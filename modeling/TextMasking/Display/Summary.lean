import TextMasking.Display.Message
import TextMasking.Display.Table
import TextMasking.Masking.Report

/-!
# Summaries

What is shown of a report: a table of the patterns that were masked, and a warning for each rule
that was left out. A list of rules is shown as a table too, numbered from one.
-/

namespace TextMasking

/-- The row of an item of a report. -/
def SummaryItem.row (d : Display) (i : SummaryItem) : List String :=
  [d.paint .maskedText i.replacement, d.paint .summaryRuleName i.pattern,
    d.paint .summaryOccurrences (toString i.occurrences)]

/-- The warning for a rule that was left out. -/
def SkippedRule.warning (s : SkippedRule) : String :=
  s!"Rule '{s.pattern}' was skipped: {s.reason}"

namespace Report

/-- What was masked, as it is shown. -/
def showMasks (r : Report) (d : Display) : String :=
  if r.summary.isEmpty then d.message .info "No text was masked."
  else
    let table : Table :=
      ⟨["Placeholder", "Pattern", "Occurrences"], r.summary.map (SummaryItem.row d)⟩
    d.paint .header "Masking Summary:" ++ "\n" ++ table.render ++ "\n"

/-- The warnings of a report. -/
def warnings (r : Report) : List String :=
  (r.compileSkips ++ r.scanSkips).map SkippedRule.warning
    ++ if r.unitsLeftUnmodified = 0 then []
      else [s!"{r.unitsLeftUnmodified} text unit(s) could not be rewritten."]

/-- A report as it is shown. -/
def render (r : Report) (d : Display) : String :=
  r.showMasks d ++ String.join (r.warnings.map (d.message .warning))

end Report

namespace Rule

/-- The conditions of a rule by name. -/
def flagNames (r : Rule) : List String :=
  (if r.wholeWord then ["whole-word"] else [])
    ++ (if r.caseSensitive then ["case-sensitive"] else [])
    ++ (if r.isRegex then ["regex"] else [])

/-- The row of a rule. -/
def row (number : Nat) (r : Rule) : List String :=
  [toString number, r.pattern, r.replacement, ", ".intercalate r.flagNames]

end Rule

/-- The rules as a table. -/
def RuleList.table (rules : RuleList) : Table :=
  ⟨["#", "Pattern", "Placeholder", "Flags"],
    rules.zipIdx.map fun (r, i) => r.row (i + 1)⟩

end TextMasking
