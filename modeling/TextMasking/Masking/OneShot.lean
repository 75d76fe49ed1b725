import TextMasking.Document.PlainText
import TextMasking.Masking.Pass

/-!
# Masking a text at once

A text is made a document, masked in one pass and handed back.
-/

namespace TextMasking

/-- Masks a text as it is: nothing in it is excluded. -/
def maskString (rules : RuleList) (options : Options) (text : String) : String × Report :=
  let (_, d) := Document.empty.appendText Document.root text
  let (d, report) := (Engine.ofRules rules options).apply d Document.root
  (d.shown Document.root, report)

/-- Masks a plain text, apart from its fenced blocks. -/
def maskDocument (rules : RuleList) (options : Options) (text : String) : Document × Report :=
  (Engine.ofRules rules options).apply (Document.ofPlainText text) Document.root

end TextMasking
