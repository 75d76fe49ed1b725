import TextMasking.Masking.Pass

/-!
# Sessions

A session keeps a document masked. It is idle, or active with an engine. Enabling masks the whole
document; after that only what the host adds is masked, one batch of mutations at a time. A change
of rules restores the document and masks it again, and disabling restores it.
-/

namespace TextMasking

/-- A session; it is active while it has an engine. -/
structure Session where
  options : Options
  engine : Option Engine

namespace Session

/-- An idle session. -/
def idle (options : Options) : Session := ⟨options, none⟩

def active (s : Session) : Bool := s.engine.isSome

/-- Masks with new rules, and keeps them. -/
def start (s : Session) (rules : RuleList) (d : Document) (root : NodeId) :
    Report × Session × Document :=
  let engine := Engine.ofRules rules s.options
  let (d, report) := engine.apply d root
  (report, { s with engine := some engine }, d)

/-- Starts masking; an active session stays as it is. -/
def enable (s : Session) (rules : RuleList) (d : Document) (root : NodeId) :
    Report × Session × Document :=
  if s.active then (.empty, s, d) else s.start rules d root

/-- Takes new rules. -/
def changeRules (s : Session) (rules : RuleList) (d : Document) (root : NodeId) :
    Report × Session × Document :=
  if s.active then s.start rules (d.restore root).2 root else (.empty, s, d)

/-- Stops masking and counts the masks that were turned back. -/
def disable (s : Session) (d : Document) (root : NodeId) : Nat × Session × Document :=
  if s.active then
    let (n, d) := d.restore root
    (n, { s with engine := none }, d)
  else (0, s, d)

end Session

/-! ### Batches -/

namespace Mutation

/-- The node that was added. -/
def added? : Mutation → Option NodeId
  | .added id => some id
  | _ => none

/-- The nodes that a batch says were added, each once. -/
def addedNodes (batch : List Mutation) : List NodeId :=
  (batch.filterMap added?).eraseDups

end Mutation

/-- Whether a node that was added with others is masked by a pass of its own: it is still attached,
it is not excluded, and no node above it was added too. -/
def Document.isTarget (d : Document) (added : List NodeId) (id : NodeId) : Bool :=
  d.attached id && !d.excluded id && !(d.above id).any added.contains

namespace Session

/-- Masks below one node of a batch unless it is left out. -/
def maskAdded (engine : Engine) (added : List NodeId) (state : Report × Document) (id : NodeId) :
    Report × Document :=
  let (report, d) := state
  if d.isTarget added id then
    let (d, more) := engine.apply d id
    (report.merge more, d)
  else (report, d)

/-- Masks what the host has added. -/
def handleBatch (s : Session) (batch : List Mutation) (d : Document) : Report × Document :=
  match s.engine with
  | none => (.empty, d)
  | some engine =>
    let added := Mutation.addedNodes batch
    added.foldl (maskAdded engine added) (.empty, d)

end Session

end TextMasking
