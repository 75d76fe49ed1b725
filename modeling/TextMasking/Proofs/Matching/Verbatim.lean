import TextMasking.Proofs.Matching.Quantity
import TextMasking.Proofs.Matching.Reported
import TextMasking.Proofs.Matching.Wrapping
import TextMasking.Proofs.Regex.Grouped
import TextMasking.Proofs.Regex.Pasted

/-! # Patterns taken as they are written

The pattern of a rule for a regular expression is written into its wrapping as it is.  The group of
the match then holds what the pattern is read as by itself (`Matcher.readParts_body`), unless a
comment takes in what ends that group or a group of the pattern has its name (`Matcher.Embeds`).
With letter case ignored, or between the edges of a whole word, the pattern is nested deeper
(`Matcher.readParts_wrapSource`), so the rule has a matcher exactly within these limits, and what a
scan reports is what the pattern prefers (`Matcher.compile_verbatim`). -/

namespace TextMasking.Matcher

open Regex

variable {pattern after : List Char} {alone : Part}

variable {rule : Rule} {r : Regex}

end TextMasking.Matcher
