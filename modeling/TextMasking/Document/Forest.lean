/-!
# Forests

The nodes of a document: elements with what lies below them, and leaves, which are texts or masks. A
mask hides the text it was made from and shows a placeholder. A forest is a sequence of sibling
nodes; each node is known by a number of its own.

`Forest.shown` reads a forest as it is shown, `Forest.unmasked` as the text that was masked. Both
turn `++` of forests into `++` of texts (`shown_append`, `unmasked_append`).
-/

namespace TextMasking

/-- The number of a node. -/
abbrev NodeId := Nat

/-- What a mask stands for and what it shows. -/
structure Mask where
  hidden : String
  replacement : String
  deriving DecidableEq, Repr

/-- Attributes of an element, each name once. -/
abbrev Attributes := List (String × String)

/-- Sibling nodes in order, with everything below them. -/
inductive Forest where
  | nil
  | text (id : NodeId) (content : String) (rest : Forest)
  | mask (id : NodeId) (mask : Mask) (rest : Forest)
  | element (id : NodeId) (tag : String) (attributes : Attributes) (children rest : Forest)
  deriving DecidableEq, Repr

namespace Forest

/-- The nodes of both forests, those of the first before those of the second. -/
def append : Forest → Forest → Forest
  | .nil, g => g
  | .text i s rest, g => .text i s (rest.append g)
  | .mask i m rest, g => .mask i m (rest.append g)
  | .element i t a children rest, g => .element i t a children (rest.append g)

instance : Append Forest := ⟨append⟩

@[simp] theorem nil_append (g : Forest) : (nil ++ g : Forest) = g := rfl

@[simp] theorem text_append {i : NodeId} {s : String} {f g : Forest} :
    text i s f ++ g = text i s (f ++ g) := rfl

@[simp] theorem mask_append {i : NodeId} {m : Mask} {f g : Forest} :
    mask i m f ++ g = mask i m (f ++ g) := rfl

@[simp] theorem element_append {i : NodeId} {t : String} {a : Attributes} {c f g : Forest} :
    element i t a c f ++ g = element i t a c (f ++ g) := rfl

@[simp] theorem append_nil (f : Forest) : f ++ nil = f := by
  induction f with
  | nil => rfl
  | text i s rest ih => simp [ih]
  | mask i m rest ih => simp [ih]
  | element i t a c rest _ ih => simp [ih]

theorem append_assoc (f g h : Forest) : f ++ g ++ h = f ++ (g ++ h) := by
  induction f with
  | nil => rfl
  | text i s rest ih => simp [ih]
  | mask i m rest ih => simp [ih]
  | element i t a c rest _ ih => simp [ih]

/-! ### Views -/

/-- All nodes in document order. -/
def ids : Forest → List NodeId
  | .nil => []
  | .text i _ rest => i :: rest.ids
  | .mask i _ rest => i :: rest.ids
  | .element i _ _ children rest => i :: (children.ids ++ rest.ids)

/-- The nodes that are not below others. -/
def siblings : Forest → List NodeId
  | .nil => []
  | .text i _ rest => i :: rest.siblings
  | .mask i _ rest => i :: rest.siblings
  | .element i _ _ _ rest => i :: rest.siblings

/-- The texts in document order. -/
def textIds : Forest → List NodeId
  | .nil => []
  | .text i _ rest => i :: rest.textIds
  | .mask _ _ rest => rest.textIds
  | .element _ _ _ children rest => children.textIds ++ rest.textIds

/-- The masks in document order. -/
def maskIds : Forest → List NodeId
  | .nil => []
  | .text _ _ rest => rest.maskIds
  | .mask i _ rest => i :: rest.maskIds
  | .element _ _ _ children rest => children.maskIds ++ rest.maskIds

/-- The text shown: masks show their placeholders. -/
def shown : Forest → String
  | .nil => ""
  | .text _ s rest => s ++ rest.shown
  | .mask _ m rest => m.replacement ++ rest.shown
  | .element _ _ _ children rest => children.shown ++ rest.shown

/-- The text with every mask read as what it hides. -/
def unmasked : Forest → String
  | .nil => ""
  | .text _ s rest => s ++ rest.unmasked
  | .mask _ m rest => m.hidden ++ rest.unmasked
  | .element _ _ _ children rest => children.unmasked ++ rest.unmasked

/-- The unmasked text of the leaves at the start, up to the first element. -/
def leading : Forest → String
  | .nil => ""
  | .text _ s rest => s ++ rest.leading
  | .mask _ m rest => m.hidden ++ rest.leading
  | .element .. => ""

@[simp] theorem ids_append (f g : Forest) : (f ++ g).ids = f.ids ++ g.ids := by
  induction f with
  | nil => rfl
  | text i s rest ih => simp [ids, ih]
  | mask i m rest ih => simp [ids, ih]
  | element i t a c rest _ ih => simp [ids, ih, List.append_assoc]

@[simp] theorem siblings_append (f g : Forest) :
    (f ++ g).siblings = f.siblings ++ g.siblings := by
  induction f with
  | nil => rfl
  | text i s rest ih => simp [siblings, ih]
  | mask i m rest ih => simp [siblings, ih]
  | element i t a c rest _ ih => simp [siblings, ih]

@[simp] theorem shown_append (f g : Forest) : (f ++ g).shown = f.shown ++ g.shown := by
  induction f with
  | nil => simp [shown]
  | text i s rest ih => simp [shown, ih, String.append_assoc]
  | mask i m rest ih => simp [shown, ih, String.append_assoc]
  | element i t a c rest _ ih => simp [shown, ih, String.append_assoc]

@[simp] theorem unmasked_append (f g : Forest) :
    (f ++ g).unmasked = f.unmasked ++ g.unmasked := by
  induction f with
  | nil => simp [unmasked]
  | text i s rest ih => simp [unmasked, ih, String.append_assoc]
  | mask i m rest ih => simp [unmasked, ih, String.append_assoc]
  | element i t a c rest _ ih => simp [unmasked, ih, String.append_assoc]

/-! ### Places -/

/-- An element above a node. -/
structure Ancestor where
  id : NodeId
  tag : String
  attributes : Attributes
  deriving DecidableEq, Repr

/-- A node and what is around it: the elements above it, nearest first, and its siblings before it,
nearest first, and after it. -/
structure Place where
  above : List Ancestor
  before : Forest
  node : Forest
  after : Forest
  deriving Repr

/-- The place of a node in a forest whose nodes lie below `above` and after the siblings
`before`. -/
def placeFrom (above : List Ancestor) (before : Forest) (id : NodeId) : Forest → Option Place
  | .nil => none
  | .text i s rest =>
    if i = id then some ⟨above, before, .text i s .nil, rest⟩
    else placeFrom above (.text i s before) id rest
  | .mask i m rest =>
    if i = id then some ⟨above, before, .mask i m .nil, rest⟩
    else placeFrom above (.mask i m before) id rest
  | .element i t a children rest =>
    if i = id then some ⟨above, before, .element i t a children .nil, rest⟩
    else
      match placeFrom (⟨i, t, a⟩ :: above) .nil id children with
      | some place => some place
      | none => placeFrom above (.element i t a children before) id rest

/-- The place of a node. -/
def place? (f : Forest) (id : NodeId) : Option Place :=
  placeFrom [] .nil id f

/-- The unmasked text of the leaves just before a place; the forest has the nearest one first. -/
def trailing : Forest → String
  | .nil => ""
  | .text _ s rest => rest.trailing ++ s
  | .mask _ m rest => rest.trailing ++ m.hidden
  | .element .. => ""

/-! ### Changes -/

/-- The forest without a node and what lies below it. -/
def erase (id : NodeId) : Forest → Forest
  | .nil => .nil
  | .text i s rest => if i = id then rest else .text i s (rest.erase id)
  | .mask i m rest => if i = id then rest else .mask i m (rest.erase id)
  | .element i t a children rest =>
    if i = id then rest else .element i t a (children.erase id) (rest.erase id)

/-- The forest with `tree` as the last child of the element `parent`. -/
def appendChild (parent : NodeId) (tree : Forest) : Forest → Forest
  | .nil => .nil
  | .text i s rest => .text i s (appendChild parent tree rest)
  | .mask i m rest => .mask i m (appendChild parent tree rest)
  | .element i t a children rest =>
    if i = parent then .element i t a (children ++ tree) rest
    else .element i t a (appendChild parent tree children) (appendChild parent tree rest)

/-- Sets an attribute, in place if the name is there. -/
def setAttributes (name value : String) : Attributes → Attributes
  | [] => [(name, value)]
  | (n, v) :: rest =>
    if n = name then (name, value) :: rest else (n, v) :: setAttributes name value rest

/-- The forest with an attribute of the element `id` set. -/
def setAttribute (id : NodeId) (name value : String) : Forest → Forest
  | .nil => .nil
  | .text i s rest => .text i s (rest.setAttribute id name value)
  | .mask i m rest => .mask i m (rest.setAttribute id name value)
  | .element i t a children rest =>
    if i = id then .element i t (setAttributes name value a) children rest
    else .element i t a (children.setAttribute id name value) (rest.setAttribute id name value)

/-- The forest with `leaves` instead of the text `id`. -/
def splice (id : NodeId) (leaves : Forest) : Forest → Forest
  | .nil => .nil
  | .text i s rest => if i = id then leaves ++ rest else .text i s (splice id leaves rest)
  | .mask i m rest => .mask i m (splice id leaves rest)
  | .element i t a children rest =>
    .element i t a (splice id leaves children) (splice id leaves rest)

/-- The text that begins a forest, and the nodes after it. -/
def takeText : Forest → String × Forest
  | .text _ s rest => (s, rest)
  | f => ("", f)

/-- The forest with what the mask `id` hides as text. The text after the mask is joined to it, and
both to the text before the mask; if there is none, the joined text becomes the node `fresh`. -/
def unmask (id fresh : NodeId) : Forest → Forest
  | .nil => .nil
  | .text i s rest =>
    match rest with
    | .mask j m more =>
      if j = id then .text i (s ++ (m.hidden ++ more.takeText.1)) more.takeText.2
      else .text i s (rest.unmask id fresh)
    | _ => .text i s (rest.unmask id fresh)
  | .mask i m rest =>
    if i = id then .text fresh (m.hidden ++ rest.takeText.1) rest.takeText.2
    else .mask i m (rest.unmask id fresh)
  | .element i t a children rest =>
    .element i t a (children.unmask id fresh) (rest.unmask id fresh)

/-- Joining what a mask hides to its neighbours keeps what the forest reads as. -/
theorem unmasked_takeText (f : Forest) : f.takeText.1 ++ f.takeText.2.unmasked = f.unmasked := by
  cases f <;> simp [takeText, unmasked]

end Forest

end TextMasking
