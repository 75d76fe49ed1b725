import TextMasking.Document.Edit

/-!
# Masks in a document

A text is replaced by fragments, some of which are masks; a mask is turned back into text, which is
joined to the texts beside it. Neither is logged: only the host's own edits are. The nodes that are
replaced stay in the document without a parent.
-/

namespace TextMasking

/-- A piece of a text that is taken apart. -/
inductive Fragment where
  | text (content : String)
  | mask (mask : Mask)
  deriving DecidableEq, Repr

namespace Fragment

/-- The text that the fragment was made from. -/
def unmasked : Fragment → String
  | .text s => s
  | .mask m => m.hidden

/-- The leaves of fragments, numbered from `fresh` on. -/
def toForest (fresh : NodeId) : List Fragment → Forest
  | [] => .nil
  | .text s :: rest => .text fresh s (toForest (fresh + 1) rest)
  | .mask m :: rest => .mask fresh m (toForest (fresh + 1) rest)

end Fragment

namespace Document

/-- Replaces an attached text by fragments; the answer names the new nodes. -/
def replaceText (d : Document) (id : NodeId) (fragments : List Fragment) :
    Except TreeError (List NodeId × Document) :=
  match d.place? id with
  | none => .error (.unknownNode id)
  | some place =>
    match place.node with
    | .text .. =>
      if place.above.isEmpty || !d.attached id then .error (.detached id)
      else
        let leaves := Fragment.toForest d.fresh fragments
        .ok (leaves.siblings,
          { d with
            trees := d.trees.map (Forest.splice id leaves) ++ [place.node]
            fresh := d.fresh + fragments.length })
    | _ => .error (.notAText id)

/-- Turns a mask back into text; the answer names the text that holds what it hid. -/
def unmask (d : Document) (id : NodeId) : Except TreeError (NodeId × Document) :=
  match d.place? id with
  | none => .error (.unknownNode id)
  | some place =>
    match place.node with
    | .mask .. =>
      if place.above.isEmpty then .error (.detached id)
      else
        let joined :=
          match place.after with
          | .text i s _ => [Forest.text i s .nil]
          | _ => []
        let trees := d.trees.map (·.unmask id d.fresh) ++ joined ++ [place.node]
        match place.before with
        | .text i _ _ => .ok (i, { d with trees })
        | _ => .ok (d.fresh, { d with trees, fresh := d.fresh + 1 })
    | _ => .error (.notAMask id)

end Document

end TextMasking
