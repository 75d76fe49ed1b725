import TextMasking.Masking.Fragments
import TextMasking.Masking.Report

/-!
# Passes

An engine masks what lies below a node of a document. Its rules are applied one after another, each
in two phases: every text is scanned, and only if no scan fails are the texts replaced. So a rule
that is given up leaves no mask behind. A text is scanned with what stands around it, masks read as
what they hide.
-/

namespace TextMasking

/-- Rules made ready, and how they are applied. -/
structure Engine where
  rules : RuleList
  options : Options
  matchers : MatcherList
  matchers_eq : matchers = MatcherList.compile rules

/-- The engine of a list of rules. -/
def Engine.ofRules (rules : RuleList) (options : Options) : Engine :=
  ⟨rules, options, MatcherList.compile rules, rfl⟩

/-- A text to be scanned, with what stands around it. -/
structure Passage where
  before : String
  text : String
  after : String
  deriving DecidableEq, Repr

/-- The text at a place, unless passes leave it alone. -/
def Forest.Place.passage? (p : Forest.Place) (options : Options) : Option Passage :=
  match p.node with
  | .text _ s _ =>
    if p.excluded || (options.skipBlank && Text.blank s) then none
    else some ⟨p.before.trailing, s, p.after.leading⟩
  | _ => none

namespace Document

/-- The texts at or below a node that a pass reads. -/
def passages (d : Document) (root : NodeId) (options : Options) : List (NodeId × Passage) :=
  (d.textIds root).filterMap fun id =>
    ((d.place? id).bind (·.passage? options)).map fun p => (id, p)

end Document

/-- A text with the matches found in it. -/
structure Finding where
  id : NodeId
  text : String
  found : List TextMatch

namespace Matcher

/-- Scans every passage; the first fault is the answer. -/
def findings (m : Matcher) (options : Options) :
    List (NodeId × Passage) → Except ScanFault (List Finding)
  | [] => .ok []
  | (id, p) :: rest => do
    let found ← m.scan p.before p.text p.after options
    let others ← m.findings options rest
    return if found.isEmpty then others else ⟨id, p.text, found⟩ :: others

/-- Replaces a text in which matches were found. -/
def replaceFound (m : Matcher) (state : Document × Report) (f : Finding) : Document × Report :=
  let (d, report) := state
  match d.replaceText f.id (Fragment.ofMatches f.text f.found) with
  | .ok (_, d) => (d, report.record ⟨m.rule.pattern, m.rule.replacement, f.found.length⟩)
  | .error _ => (d, { report with unitsLeftUnmodified := report.unitsLeftUnmodified + 1 })

/-- Applies one rule at and below a node. -/
def apply (m : Matcher) (root : NodeId) (options : Options) (state : Document × Report) :
    Document × Report :=
  let (d, report) := state
  match m.findings options (d.passages root options) with
  | .ok findings => findings.foldl m.replaceFound (d, report)
  | .error fault =>
    let skip := ⟨m.rule.pattern, fault.message m.rule.pattern⟩
    (d, { report with scanSkips := report.scanSkips ++ [skip] })

end Matcher

namespace Engine

/-- Masks what lies at and below a node. -/
def apply (e : Engine) (d : Document) (root : NodeId) : Document × Report :=
  e.matchers.matchers.foldl (fun state m => m.apply root e.options state)
    (d, { Report.empty with compileSkips := e.matchers.skipped })

end Engine

namespace Document

/-- Turns masks back into texts and counts them. -/
def unmaskAll (d : Document) : List NodeId → Nat × Document
  | [] => (0, d)
  | id :: rest =>
    match d.unmask id with
    | .ok (_, d) =>
      let (n, d) := d.unmaskAll rest
      (n + 1, d)
    | .error _ => d.unmaskAll rest

/-- Turns every mask at or below a node back into text and counts them. -/
def restore (d : Document) (root : NodeId) : Nat × Document :=
  d.unmaskAll (d.maskIds root)

end Document

end TextMasking
