import TextMasking.Proofs.Document.Entries

/-! # Changes step by step

A table holds the entries of nodes by number, and the log.  The changes of a document are carried
out on it one link at a time (`NodeTable.appendChild` and its like): a node is looked up, taken out
of the children of its parent, put among those of another one, its parent is set, and the log is
written, each step on the table that the step before has left.  A step may refuse to go on; what was
done before it stays done then.

`NodeTable.exec` is the run of such steps.  It ends in a result and in a table, whether or not it
was refused. -/

namespace TextMasking

namespace NodeContent

def isElement : NodeContent → Bool
  | .element .. => true
  | _ => false

def text? : NodeContent → Option String
  | .text s => some s
  | _ => none

def isText (c : NodeContent) : Bool :=
  c.text?.isSome

def mask? : NodeContent → Option Mask
  | .mask m => some m
  | _ => none

/-- A text with `s` behind it. -/
def append (s : String) : NodeContent → NodeContent
  | .text c => .text (c ++ s)
  | c => c

/-- What a fragment becomes. -/
def ofFragment : Fragment → NodeContent
  | .text s => .text s
  | .mask m => .mask m

end NodeContent

/-- The entries of all nodes, by number, and the log. -/
structure NodeTable where
  nodes : List NodeEntry
  log : List Mutation
  deriving DecidableEq, Repr

namespace NodeTable

/-- Why steps come to an end early. -/
inductive Stop where
  /-- A step refuses to go on. -/
  | refused (error : TreeError)
  /-- A node is linked to that is not there, or a walk along the links does not end. -/
  | stuck
  deriving DecidableEq, Repr

/-- Steps on a table. -/
abbrev Steps := ExceptT Stop (StateM NodeTable)

/-- What steps come to, and the table they leave. -/
def exec {α : Type} (x : Steps α) (t : NodeTable) : Except Stop α × NodeTable :=
  x.run.run t

/-! ### Single steps -/

/-- The table with a node changed. -/
def update (t : NodeTable) (id : NodeId) (f : NodeEntry → NodeEntry) : NodeTable :=
  { t with nodes := t.nodes.modify id f }

/-- Goes from a node to its parent, then to the parent of that, until `stop` holds of a node. After
`n` nodes the walk is given up. -/
def climb (t : NodeTable) (stop : NodeId → Bool) : Nat → Option NodeId → Option Bool
  | _, none => some false
  | 0, some _ => none
  | n + 1, some id =>
    if stop id then some true else t.climb stop n (t.nodes[id]?.bind (·.parent))

/-- The value, if there is one. -/
def orStop {α : Type} (stop : Stop) : Option α → Steps α
  | some a => return a
  | none => throw stop

/-- Refuses to go on unless a condition holds. -/
def ensure (condition : Bool) (error : TreeError) : Steps Unit :=
  if condition then return () else throw (.refused error)

/-- The entry of a node that was named from outside. -/
def find (id : NodeId) : Steps NodeEntry := do
  orStop (.refused (.unknownNode id)) (← get).nodes[id]?

/-- The entry of a node that is linked to. -/
def follow (id : NodeId) : Steps NodeEntry := do
  orStop .stuck (← get).nodes[id]?

/-- Changes a node that is there. -/
def change (id : NodeId) (f : NodeEntry → NodeEntry) : Steps Unit := do
  let _ ← follow id
  modify (·.update id f)

/-- Adds a node without links. -/
def create (content : NodeContent) : Steps NodeId :=
  modifyGet fun t => (t.nodes.length, { t with nodes := t.nodes ++ [⟨content, none, []⟩] })

/-- Adds a mutation to the log if a condition holds. -/
def recordIf (condition : Bool) (m : Mutation) : Steps Unit :=
  modify fun t => { t with log := t.log ++ if condition then [m] else [] }

/-- Whether the walk upwards comes to a node where `stop` holds. -/
def reaches (stop : NodeId → Bool) (start : Option NodeId) : Steps Bool := do
  let t ← get
  orStop .stuck (t.climb stop t.nodes.length start)

/-- Whether a node is the root or lies below it. -/
def attached (id : NodeId) : Steps Bool :=
  reaches (· == Document.root) (some id)

/-- Whether the node `x` lies strictly above `id`. -/
def liesAbove (x id : NodeId) : Steps Bool := do
  reaches (· == x) ((← get).nodes[id]?.bind (·.parent))

/-- Takes a node out of the children of its parent. -/
def unlink (parent id : NodeId) : Steps Unit := do
  change parent fun e => { e with children := e.children.filter (· != id) }
  change id fun e => { e with parent := none }

/-- Takes a node out of its parent, if it has one; the answer is whether it was attached. -/
def detach (id : NodeId) : Steps Bool := do
  let e ← find id
  match e.parent with
  | none => return false
  | some parent =>
    let attached ← attached id
    unlink parent id
    return attached

/-! ### Edits of the host -/

def remove (id : NodeId) : Steps Unit := do
  let wasAttached ← detach id
  recordIf wasAttached (.removed id)

/-- Takes a node out of its parent and puts it at the end of the children of another. -/
def move (parent child : NodeId) : Steps Unit := do
  let wasAttached ← detach child
  recordIf wasAttached (.removed child)
  change child fun e => { e with parent := some parent }
  change parent fun e => { e with children := e.children ++ [child] }
  let isAttached ← attached child
  recordIf isAttached (.added child)

def appendChild (parent child : NodeId) : Steps Unit := do
  let e ← find parent
  ensure e.content.isElement (.notAnElement parent)
  let _ ← find child
  let cycle ← liesAbove child parent
  ensure (parent != child && !cycle) (.wouldCycle child)
  move parent child

/-- A new node at the end of the children of an element. The node is made before it is known whether
it can be put there. -/
def appendNew (parent : NodeId) (content : NodeContent) : Steps NodeId := do
  let id ← create content
  appendChild parent id
  return id

def setAttribute (id : NodeId) (name value : String) : Steps Unit := do
  let e ← find id
  ensure e.content.isElement (.notAnElement id)
  change id fun e => { e with content := e.content.setAttribute (lowerAscii name) value }
  let isAttached ← attached id
  recordIf isAttached (.attribute id)

/-! ### Masks -/

/-- Adds a node with a parent that does not name it yet. -/
def createIn (parent : NodeId) (content : NodeContent) : Steps NodeId := do
  let id ← create content
  change id fun e => { e with parent := some parent }
  return id

/-- Adds the nodes of fragments. -/
def createAll (parent : NodeId) : List Fragment → Steps (List NodeId)
  | [] => return []
  | fragment :: rest => do
    let id ← createIn parent (.ofFragment fragment)
    let ids ← createAll parent rest
    return id :: ids

/-- Puts new nodes in the place of the node `id`, which is the `n`th child of its parent. -/
def putInstead (parent id : NodeId) (n : Nat) (new : List NodeId) : Steps Unit := do
  change parent fun e =>
    { e with children := e.children.take n ++ new ++ e.children.drop (n + 1) }
  change id fun e => { e with parent := none }

/-- Puts the nodes of fragments in the place of the node `id`. -/
def putFragments (parent id : NodeId) (fragments : List Fragment) : Steps (List NodeId) := do
  let above ← follow parent
  let n ← orStop (.refused (.detached id)) (above.children.idxOf? id)
  let created ← createAll parent fragments
  putInstead parent id n created
  return created

def replaceText (id : NodeId) (fragments : List Fragment) : Steps (List NodeId) := do
  let e ← find id
  ensure e.content.isText (.notAText id)
  let parent ← orStop (.refused (.detached id)) e.parent
  let isAttached ← attached id
  ensure isAttached (.detached id)
  putFragments parent id fragments

/-- A node that is a text, with its content. -/
def textAt : Option NodeId → Steps (Option (NodeId × String))
  | none => return none
  | some id => do
    let e ← follow id
    return e.content.text?.map (id, ·)

/-- Takes a text out of its parent; the answer is what it held. -/
def takeOut : Option (NodeId × String) → Steps String
  | none => return ""
  | some (id, s) => do
    let _ ← detach id
    return s

/-- Adds to the text `text`, which stands before the mask `id`. -/
def joinBefore (text id : NodeId) (s : String) : Steps NodeId := do
  change text fun e => { e with content := e.content.append s }
  let _ ← detach id
  return text

/-- Puts a new text in the place of the mask `id`, which is the `n`th child of its parent. -/
def putText (parent id : NodeId) (n : Nat) (s : String) : Steps NodeId := do
  let new ← createIn parent (.text s)
  putInstead parent id n [new]
  return new

/-- Puts what the mask `id` hides in its place and joins it to the texts beside it. -/
def putHidden (parent id : NodeId) (m : Mask) : Steps NodeId := do
  let above ← follow parent
  let n ← orStop (.refused (.detached id)) (above.children.idxOf? id)
  let previous ← textAt (if n = 0 then none else above.children[n - 1]?)
  let next ← textAt above.children[n + 1]?
  let after ← takeOut next
  match previous with
  | some (text, _) => joinBefore text id (m.hidden ++ after)
  | none => putText parent id n (m.hidden ++ after)

def unmask (id : NodeId) : Steps NodeId := do
  let e ← find id
  let m ← orStop (.refused (.notAMask id)) e.content.mask?
  let parent ← orStop (.refused (.detached id)) e.parent
  putHidden parent id m

end NodeTable

end TextMasking
