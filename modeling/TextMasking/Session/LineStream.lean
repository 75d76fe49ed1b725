import TextMasking.Session.Basic
import TextMasking.Text.Lines

/-!
# Streams of lines

A text may arrive line by line. Each line is added to the end of a live document and masked there
before the next one comes, so a match lies within one line. The lines of a fenced block go into an
element that passes leave alone.
-/

namespace TextMasking

/-- A document that grows by lines, and the session that keeps it masked. -/
structure LineStream where
  document : Document
  session : Session
  /-- The element that holds the fenced block that is open. -/
  fenced : Option NodeId
  /-- What was masked so far. -/
  report : Report

namespace Document

/-- Adds an element at the end of the children of another. -/
def addElement (d : Document) (parent : NodeId) (tag : String) :
    Except TreeError (NodeId × Document) :=
  match d.appendElement parent tag with
  | (.ok id, d) => .ok (id, d)
  | (.error e, _) => .error e

/-- Adds a text at the end of the children of an element. -/
def addText (d : Document) (parent : NodeId) (content : String) : Except TreeError Document :=
  match d.appendText parent content with
  | (.ok _, d) => .ok d
  | (.error e, _) => .error e

end Document

namespace LineStream

/-- An empty stream whose rules are known. -/
def start (rules : RuleList) (options : Options) : LineStream :=
  let (report, session, document) :=
    (Session.idle options).enable rules Document.empty Document.root
  ⟨document, session, none, report⟩

/-- Puts a line into the document. Of a line that may be masked, the element that holds it is
told. -/
def place (s : LineStream) (line : String) : Except TreeError (Option NodeId × LineStream) := do
  let isFence := Text.isFence line.toList
  match s.fenced with
  | some code =>
    let document ← s.document.addText code line
    return (none, { s with document, fenced := if isFence then none else some code })
  | none =>
    if isFence then
      let (pre, document) ← s.document.addElement Document.root "pre"
      let (code, document) ← document.addElement pre "code"
      let document ← document.addText code line
      return (none, { s with document, fenced := some code })
    else
      let (paragraph, document) ← s.document.addElement Document.root "p"
      let document ← document.addText paragraph line
      return (some paragraph, { s with document })

/-- Masks what was put into the document. -/
def settle (s : LineStream) : LineStream :=
  let (batch, document) := s.document.takeLog
  let (report, document) := s.session.handleBatch batch document
  { s with document, report := s.report.merge report }

/-- Takes a line and gives it back masked. -/
def push (s : LineStream) (line : String) : Except TreeError (String × LineStream) := do
  let (paragraph, placed) ← s.place line
  let settled := placed.settle
  return ((paragraph.map settled.document.shown).getD line, settled)

end LineStream

end TextMasking
