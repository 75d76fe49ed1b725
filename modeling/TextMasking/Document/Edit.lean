import TextMasking.Document.Basic

/-!
# Host edits

The changes that the host of a document makes: it creates nodes, moves them, takes them out and sets
attributes. A change that is refused leaves the nodes as they were. Changes of attached nodes are
logged.
-/

namespace TextMasking

namespace Document

/-- Adds mutations to the log. -/
def note (d : Document) (ms : List Mutation) : Document :=
  { d with log := d.log ++ ms }

/-- The log, and the document with an empty one. -/
def takeLog (d : Document) : List Mutation × Document :=
  (d.log, { d with log := [] })

/-! ### New nodes -/

/-- Adds a tree, whose node is the next one. -/
def addTree (d : Document) (tree : Forest) : Document :=
  { d with trees := d.trees ++ [tree], fresh := d.fresh + 1 }

/-- A new element without a parent. -/
def createElement (d : Document) (tag : String) : NodeId × Document :=
  (d.fresh, d.addTree (.element d.fresh (lowerAscii tag) [] .nil .nil))

/-- A new text without a parent. -/
def createText (d : Document) (content : String) : NodeId × Document :=
  (d.fresh, d.addTree (.text d.fresh content .nil))

/-! ### Moving nodes -/

/-- The trees without a node and what lies below it. -/
def erase (d : Document) (id : NodeId) : Document :=
  { d with trees := (d.trees.map (·.erase id)).filter (· != .nil) }

/-- The mutations to log if the node was attached. -/
def removal (d : Document) (id : NodeId) : List Mutation :=
  if (d.parent? id).isSome && d.attached id then [.removed id] else []

/-- Takes a node out of its parent, if it has one. -/
def remove (d : Document) (id : NodeId) : Except TreeError Document :=
  match d.place? id with
  | none => .error (.unknownNode id)
  | some place =>
    if place.above.isEmpty then .ok d
    else
      let d' := d.erase id
      .ok ({ d' with trees := d'.trees ++ [place.node] }.note (d.removal id))

/-- Moves a node to the end of the children of an element. -/
def appendChild (d : Document) (parent child : NodeId) : Except TreeError Document := do
  match d.tree? parent with
  | none => throw (.unknownNode parent)
  | some (.element ..) =>
    match d.tree? child with
    | none => throw (.unknownNode child)
    | some tree =>
      if parent = child || (d.above parent).contains child then throw (.wouldCycle child)
      let d' := (d.erase child).note (d.removal child)
      let moved := { d' with trees := d'.trees.map (Forest.appendChild parent tree) }
      return if moved.attached child then moved.note [.added child] else moved
  | some _ => throw (.notAnElement parent)

/-- A new element at the end of the children of another. The node is made even if it cannot be put
there. -/
def appendElement (d : Document) (parent : NodeId) (tag : String) :
    Except TreeError NodeId × Document :=
  let (id, made) := d.createElement tag
  match made.appendChild parent id with
  | .ok d => (.ok id, d)
  | .error e => (.error e, made)

/-- A new text at the end of the children of an element. The node is made even if it cannot be put
there. -/
def appendText (d : Document) (parent : NodeId) (content : String) :
    Except TreeError NodeId × Document :=
  let (id, made) := d.createText content
  match made.appendChild parent id with
  | .ok d => (.ok id, d)
  | .error e => (.error e, made)

/-! ### Attributes -/

/-- Sets an attribute of an element; its name is taken in lower case. -/
def setAttribute (d : Document) (id : NodeId) (name value : String) : Except TreeError Document :=
  match d.tree? id with
  | none => .error (.unknownNode id)
  | some (.element ..) =>
    let changed :=
      { d with trees := d.trees.map (·.setAttribute id (lowerAscii name) value) }
    .ok (if d.attached id then changed.note [.attribute id] else changed)
  | some _ => .error (.notAnElement id)

end Document

end TextMasking
