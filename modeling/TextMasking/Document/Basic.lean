import TextMasking.Document.Forest
import TextMasking.Text.Blank

/-!
# Documents

A document holds every node ever made: the trees are the nodes without a parent with what lies below
them. The node `0` is the root; a node is attached while it is the root or lies below it. Host edits
of attached nodes are logged, so that a watcher can be told of them. Numbers are given to nodes in
the order of their making and never again.

Nodes in some elements are excluded: their texts are not read, only kept.
-/

namespace TextMasking

/-- A change that the host made to the attached nodes. -/
inductive Mutation where
  | added (id : NodeId)
  | removed (id : NodeId)
  | attribute (id : NodeId)
  deriving DecidableEq, Repr

/-- Why a document was not changed. -/
inductive TreeError where
  | unknownNode (id : NodeId)
  | notAnElement (id : NodeId)
  | notAText (id : NodeId)
  | notAMask (id : NodeId)
  | detached (id : NodeId)
  | wouldCycle (id : NodeId)
  deriving DecidableEq, Repr

def TreeError.message : TreeError → String
  | .unknownNode id => s!"unknown node #{id}"
  | .notAnElement id => s!"unknown node #{id} (not an element)"
  | .notAText id => s!"node #{id} is not a text unit"
  | .notAMask id => s!"node #{id} is not a mask"
  | .detached id => s!"node #{id} is detached from the document"
  | .wouldCycle id => s!"node #{id} cannot be moved under itself or one of its descendants"

/-- A document. -/
structure Document where
  /-- The nodes without a parent, each with what lies below it. -/
  trees : List Forest
  /-- The number of the next node. -/
  fresh : NodeId
  /-- The changes since the log was taken last, in order. -/
  log : List Mutation
  deriving Repr

/-! ### Excluded elements -/

/-- Elements whose texts are not prose. -/
def excludedTags : List String :=
  ["script", "style", "noscript", "textarea", "input", "select", "pre", "code", "kbd", "samp"]

/-- ASCII letters in lower case. -/
def lowerAscii (s : String) : String :=
  String.ofList (s.toList.map Char.toLower)

/-- Whether an element is excluded with what lies below it: by its tag or because it is edited. -/
def excludes (tag : String) (attributes : Attributes) : Bool :=
  excludedTags.contains (lowerAscii tag) ||
    (attributes.lookup "contenteditable").any fun v =>
      ["", "true", "plaintext-only"].contains (lowerAscii v)

namespace Forest

/-- Whether the first node is excluded with what lies below it. -/
def headExcluded : Forest → Bool
  | .nil => true
  | .text .. => false
  | .mask .. => true
  | .element _ t a _ _ => excludes t a

/-- Whether the place lies in an excluded element or is one, or is a mask. -/
def Place.excluded (p : Place) : Bool :=
  p.node.headExcluded || p.above.any fun a => excludes a.tag a.attributes

end Forest

namespace Document

/-- The root. -/
def root : NodeId := 0

/-- A document that holds an empty root. -/
def empty : Document := ⟨[.element root "body" [] .nil .nil], 1, []⟩

/-! ### Looking at nodes -/

/-- The place of a node. -/
def place? (d : Document) (id : NodeId) : Option Forest.Place :=
  d.trees.findSome? (·.place? id)

/-- A node with what lies below it. -/
def tree? (d : Document) (id : NodeId) : Option Forest :=
  (d.place? id).map (·.node)

/-- Every node that was made. -/
def ids (d : Document) : List NodeId :=
  d.trees.flatMap Forest.ids

/-- The elements above a node, nearest first. -/
def above (d : Document) (id : NodeId) : List NodeId :=
  match d.place? id with
  | some p => p.above.map (·.id)
  | none => []

def parent? (d : Document) (id : NodeId) : Option NodeId :=
  (d.above id).head?

/-- Whether a node is the root or lies below it. -/
def attached (d : Document) (id : NodeId) : Bool :=
  id == root || (d.above id).contains root

/-- Whether a node is not to be read; an unknown node is not. -/
def excluded (d : Document) (id : NodeId) : Bool :=
  match d.place? id with
  | some p => p.excluded
  | none => true

/-- The unmasked text of the leaves just before and just after a node. -/
def surrounding (d : Document) (id : NodeId) : String × String :=
  match d.place? id with
  | some p => (p.before.trailing, p.after.leading)
  | none => ("", "")

def children (d : Document) (id : NodeId) : List NodeId :=
  match d.tree? id with
  | some (.element _ _ _ children _) => children.siblings
  | _ => []

def tag? (d : Document) (id : NodeId) : Option String :=
  match d.tree? id with
  | some (.element _ t _ _ _) => some t
  | _ => none

def attribute? (d : Document) (id : NodeId) (name : String) : Option String :=
  match d.tree? id with
  | some (.element _ _ a _ _) => a.lookup (lowerAscii name)
  | _ => none

def text? (d : Document) (id : NodeId) : Option String :=
  match d.tree? id with
  | some (.text _ s _) => some s
  | _ => none

def mask? (d : Document) (id : NodeId) : Option Mask :=
  match d.tree? id with
  | some (.mask _ m _) => some m
  | _ => none

/-- The texts at or below a node, in document order. -/
def textIds (d : Document) (id : NodeId) : List NodeId :=
  ((d.tree? id).getD .nil).textIds

/-- The masks at or below a node, in document order. -/
def maskIds (d : Document) (id : NodeId) : List NodeId :=
  ((d.tree? id).getD .nil).maskIds

/-- The text shown at and below a node. -/
def shown (d : Document) (id : NodeId) : String :=
  ((d.tree? id).getD .nil).shown

/-- The text at and below a node, masks read as what they hide. -/
def unmasked (d : Document) (id : NodeId) : String :=
  ((d.tree? id).getD .nil).unmasked

end Document

end TextMasking
