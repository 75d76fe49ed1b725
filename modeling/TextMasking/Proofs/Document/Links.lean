import Mathlib.Data.List.Perm.Subperm
import Mathlib.Logic.Relation
import TextMasking.Proofs.Document.Children
import TextMasking.Proofs.Document.History

/-! # The links of a document form a forest

A node is linked to its parent and an element to its children.  In every document that can be
reached the two kinds of links agree, and following the links to parents never comes back to a node
(`Document.links_of_reached`).  So walks that only follow links come to an end within as many steps
as there are nodes:

* `climb` goes from a node to its parent, and from there on upwards; it visits the node and the
  elements above it (`WellFormed.climb_eq`);
* `visit` goes through a node and what is below it with a stack of nodes still to be visited; it
  lists the subtree in document order (`WellFormed.visit_eq`). -/

namespace TextMasking

open Relation (TransGen)

namespace Forest

/-- Where no number is used twice, what is found in a part of the forest is found in the forest. -/
theorem find?_trans {f g n : Forest} {x i : NodeId} (hn : f.ids.Nodup) (hx : f.find? x = some g)
    (hi : g.find? i = some n) : f.find? i = some n := by
  have hmem (h : Forest) (hsub : h.find? x = some g) : i ∈ h.ids :=
    (ids_sublist_of_find? hsub).subset (mem_ids_of_find? hi)
  induction f with
  | nil => cases hx
  | text j s rest ih | mask j m rest ih =>
      obtain ⟨hj, hn⟩ := List.nodup_cons.mp hn
      rw [find?] at hx
      split_ifs at hx with e
      · cases hx
        rw [find?] at hi ⊢
        split_ifs at hi ⊢
        · exact hi
        · cases hi
      · have hne : j ≠ i := fun e' => hj (e' ▸ hmem rest hx)
        rw [find?, if_neg hne]
        exact ih hn hx
  | element j t a c rest ihc ih =>
      obtain ⟨hj, hn⟩ := List.nodup_cons.mp hn
      obtain ⟨hc, hr, hcr⟩ := List.nodup_append.mp hn
      simp only [List.mem_append, not_or] at hj
      rw [find?] at hx
      split_ifs at hx with e
      · cases hx
        rw [find?] at hi ⊢
        split_ifs at hi ⊢
        · exact hi
        · rw [find?, Option.or_none] at hi
          rw [hi, Option.some_or]
      · rcases Option.or_eq_some_iff.mp hx with hx | ⟨-, hx⟩
        · have hne : j ≠ i := fun e' => hj.1 (e' ▸ hmem c hx)
          rw [find?, if_neg hne, ihc hc hx, Option.some_or]
        · have hir := hmem rest hx
          have hne : j ≠ i := fun e' => hj.2 (e' ▸ hir)
          have hno : c.find? i = none := find?_eq_none_iff.mpr fun hic => hcr i hic i hir rfl
          rw [find?, if_neg hne, hno, Option.none_or]
          exact ih hr hx

end Forest

namespace Document

/-! ### Walks along links -/

/-- Goes from a node to its parent, then to the parent of that, until `stop` holds of a node. After
`n` nodes the walk is given up. -/
def climb (d : Document) (stop : NodeId → Bool) : Nat → Option NodeId → Option Bool
  | _, none => some false
  | 0, some _ => none
  | n + 1, some id => if stop id then some true else d.climb stop n (d.parent? id)

/-- Visits the nodes on a stack, and puts the children of each one on the stack. After `n` nodes the
walk is given up. -/
def visit (d : Document) : Nat → List NodeId → Option (List NodeId)
  | _, [] => some []
  | 0, _ :: _ => none
  | n + 1, id :: stack => (d.visit n (d.children id ++ stack)).map (id :: ·)

/-- Whether a node is itself a mask or an excluded element; an unknown node counts as one. -/
def excludesBelow (d : Document) (id : NodeId) : Bool :=
  ((d.tree? id).map Forest.headExcluded).getD true

/-- The second node is the parent of the first. -/
def ChildOf (d : Document) (c p : NodeId) : Prop := d.parent? c = some p

/-- What the links of a document promise to whoever follows them. -/
structure Linked (d : Document) : Prop where
  /-- Both kinds of links say the same. -/
  mem_children : ∀ p c, c ∈ d.children p ↔ d.parent? c = some p
  children_nodup : ∀ p, (d.children p).Nodup
  /-- Only elements have children. -/
  parent_element : ∀ p c, d.parent? c = some p → ∃ tag, d.tag? p = some tag
  /-- Following parents never comes back to a node. -/
  acyclic : ∀ id, ¬TransGen d.ChildOf id id
  mem_above : ∀ x id, x ∈ d.above id ↔ TransGen d.ChildOf id x
  /-- The walks to see whether one node is above another, whether a node is attached and whether it
  is excluded end after as many steps as there are nodes. -/
  climb_above : ∀ x id, d.climb (· == x) d.fresh (d.parent? id) = some ((d.above id).contains x)
  climb_attached : ∀ id, d.climb (· == root) d.fresh (some id) = some (d.attached id)
  climb_excluded : ∀ id, d.climb d.excludesBelow d.fresh (some id) = some (d.excluded id)
  /-- So does the walk over what is below a node. -/
  visit_subtree : ∀ id ∈ d.ids, d.visit d.fresh [id] = some (d.subtree id)
  subtree_nodup : ∀ id, (d.subtree id).Nodup
  mem_subtree : ∀ x id, id ∈ d.subtree x ↔ id ∈ d.ids ∧ (id = x ∨ TransGen d.ChildOf id x)
  attached_iff : ∀ id, d.attached id = true ↔ id ∈ d.subtree root

namespace WellFormed

variable {d : Document} (wf : d.WellFormed) {x id : NodeId}
include wf

/-! ### Upwards -/

theorem above_of_parent? (h : d.parent? id = some x) : d.above id = x :: d.above x :=
  wf.above_of_mem_children (wf.mem_children_iff.mpr h)

theorem isSome_tag?_of_parent? (h : d.parent? id = some x) : ∃ tag, d.tag? x = some tag := by
  obtain ⟨t, a, g, hx, -⟩ := mem_children_iff_tree?.mp (wf.mem_children_iff.mpr h)
  exact Option.isSome_iff_exists.mp (isSome_tag?_iff.mpr ⟨t, a, g, hx⟩)

/-- The elements above a node are those that following parents comes to. -/
theorem mem_above_iff_transGen : x ∈ d.above id ↔ TransGen d.ChildOf id x := by
  constructor
  · intro h
    obtain ⟨k, hk⟩ : ∃ k, k = (d.above id).length := ⟨_, rfl⟩
    induction k generalizing id with
    | zero =>
        rw [List.eq_nil_of_length_eq_zero hk.symm] at h
        cases h
    | succ k ih =>
        cases hp : d.parent? id with
        | none =>
            rw [List.head?_eq_none_iff.mp hp] at h
            cases h
        | some p =>
            have habove := wf.above_of_parent? hp
            rw [habove] at h hk
            rcases List.mem_cons.mp h with rfl | h
            · exact .single hp
            · exact .head hp (ih h (Nat.succ.inj hk))
  · intro h
    induction h using TransGen.head_induction_on with
    | single h => exact wf.above_of_parent? h ▸ List.mem_cons_self
    | head h _ ih => exact wf.above_of_parent? h ▸ List.mem_cons_of_mem _ ih

theorem above_nodup (id : NodeId) : (id :: d.above id).Nodup := by
  obtain ⟨k, hk⟩ : ∃ k, k = (d.above id).length := ⟨_, rfl⟩
  induction k generalizing id with
  | zero =>
      rw [List.eq_nil_of_length_eq_zero hk.symm]
      exact List.nodup_singleton id
  | succ k ih =>
      cases hp : d.parent? id with
      | none =>
          rw [List.head?_eq_none_iff.mp hp]
          exact List.nodup_singleton id
      | some p =>
          refine List.nodup_cons.mpr ⟨wf.not_mem_above_self, ?_⟩
          have habove := wf.above_of_parent? hp
          rw [habove] at hk ⊢
          exact ih p (Nat.succ.inj hk)

/-- A list without repetition has at most as many nodes as the document. -/
theorem length_le_fresh {l : List NodeId} (hn : l.Nodup) (h : ∀ i ∈ l, i ∈ d.ids) :
    l.length ≤ d.fresh := by
  have hsub : l ⊆ List.range d.fresh := fun i hi => List.mem_range.mpr (wf.mem_ids_iff.mp (h i hi))
  have hlen := (hn.subperm hsub).length_le
  rwa [List.length_range] at hlen

theorem length_above_lt (id : NodeId) : (d.above id).length < d.fresh := by
  have hknown : ∀ i ∈ d.above id, i ∈ d.ids := by
    intro i hi
    obtain ⟨t, a, g, hi, -⟩ := wf.mem_above_iff.mp hi
    exact mem_ids_of_tree? hi
  by_cases hid : id ∈ d.ids
  · exact wf.length_le_fresh (wf.above_nodup id) (List.forall_mem_cons.mpr ⟨hid, hknown⟩)
  · obtain ⟨tag, hroot⟩ := wf.root_mem
    have hpos := wf.mem_ids_iff.mp (mem_ids_of_mem_nodes hroot)
    rw [above_eq_nil_of_not_mem hid]
    exact Nat.zero_lt_of_lt hpos

/-- **The walk upwards** visits the node and the elements above it. -/
theorem climb_eq (stop : NodeId → Bool) {n : Nat} (h : (d.above id).length < n) :
    d.climb stop n (some id) = some ((id :: d.above id).any stop) := by
  induction n generalizing id with
  | zero => omega
  | succ n ih =>
      rw [climb, List.any_cons]
      split_ifs with hs
      · rw [hs, Bool.true_or]
      · rw [Bool.not_eq_true] at hs
        rw [hs, Bool.false_or]
        cases hp : d.parent? id with
        | none =>
            rw [List.head?_eq_none_iff.mp hp]
            cases n <;> rfl
        | some p =>
            have habove := wf.above_of_parent? hp
            rw [habove, List.length_cons] at h
            rw [ih (by omega), habove]

theorem climb_parent? (stop : NodeId → Bool) (id : NodeId) :
    d.climb stop d.fresh (d.parent? id) = some ((d.above id).any stop) := by
  cases hp : d.parent? id with
  | none =>
      rw [List.head?_eq_none_iff.mp hp, climb]
      rfl
  | some p => rw [wf.climb_eq stop (wf.length_above_lt p), wf.above_of_parent? hp]

/-- A node is excluded if it or an element above it excludes what is below. -/
theorem any_excludesBelow (id : NodeId) :
    (id :: d.above id).any d.excludesBelow = d.excluded id := by
  have hspot {i : NodeId} {s : Spot} (hs : (i, s) ∈ d.spots) : d.excludesBelow i = s.excluded := by
    obtain ⟨p, hp, rfl⟩ := wf.place?_of_mem_spots hs
    rw [excludesBelow, tree?_of_place? hp]
    rfl
  by_cases hid : id ∈ d.ids
  · obtain ⟨s, hs⟩ := exists_spot hid
    rw [List.any_cons, wf.excluded_of_mem_spots hs, wf.above_of_mem_spots hs, List.any_map,
      hspot hs]
    congr 1
    rw [Bool.eq_iff_iff, List.any_eq_true, List.any_eq_true]
    refine exists_congr fun b => and_congr_right fun hb => ?_
    obtain ⟨pre, rest, e⟩ := List.append_of_mem hb
    rw [Function.comp_apply, hspot (mem_spots_of_suffix hs ⟨pre, e.symm⟩)]
  · rw [above_eq_nil_of_not_mem hid, excluded, place?_eq_none_iff.mpr hid, List.any_cons,
      excludesBelow, tree?_eq_none_iff.mpr hid]
    rfl

/-! ### Downwards -/

omit wf in
/-- The nodes of a part of the document are those of the subtrees of its first nodes. -/
theorem flatMap_subtree {c : Forest} (hn : c.ids.Nodup)
    (h : ∀ i n, c.find? i = some n → d.tree? i = some n) :
    c.siblings.flatMap d.subtree = c.ids := by
  have hrest {j : NodeId} {rest : Forest} (hj : j ∉ rest.ids)
      (h : ∀ i n, j ≠ i → rest.find? i = some n → d.tree? i = some n) (i : NodeId) (n : Forest)
      (hi : rest.find? i = some n) : d.tree? i = some n :=
    h i n (fun e => hj (e ▸ Forest.mem_ids_of_find? hi)) hi
  induction c with
  | nil => rfl
  | text j s rest ih | mask j m rest ih =>
      obtain ⟨hj, hn⟩ := List.nodup_cons.mp hn
      have hself := h j _ (by rw [Forest.find?, if_pos rfl])
      have htail := ih hn (hrest hj fun i n hne hi => h i n (by rw [Forest.find?, if_neg hne, hi]))
      rw [Forest.siblings, List.flatMap_cons, htail, subtree, hself]
      rfl
  | element j t a c rest _ ih =>
      obtain ⟨hj, hn⟩ := List.nodup_cons.mp hn
      obtain ⟨-, hr, hcr⟩ := List.nodup_append.mp hn
      have hself := h j _ (by rw [Forest.find?, if_pos rfl])
      have htail := ih hr (hrest (fun hm => hj (List.mem_append_right _ hm)) fun i n hne hi => by
        have hno : c.find? i = none :=
          Forest.find?_eq_none_iff.mpr fun hc => hcr i hc i (Forest.mem_ids_of_find? hi) rfl
        exact h i n (by rw [Forest.find?, if_neg hne, hno, hi, Option.none_or]))
      rw [Forest.siblings, List.flatMap_cons, htail, subtree, hself]
      simp [Forest.ids]

/-- A subtree is its node and then the subtrees of the children. -/
theorem subtree_eq (hid : id ∈ d.ids) :
    d.subtree id = id :: (d.children id).flatMap d.subtree := by
  obtain ⟨n, hn⟩ := exists_tree?_iff.mpr hid
  rw [children, subtree, hn]
  cases isNode_of_tree? hn with
  | text s => rfl
  | mask m => rfl
  | element t a c =>
      have hc := wf.nodup_of_element hn
      obtain ⟨f, hf, hidf, hfind⟩ := exists_tree_of_tree? hn
      have hself := wf.nodup_of_tree? hn
      have hnot : id ∉ c.ids := by
        rw [Forest.ids, List.nodup_cons, List.mem_append, not_or] at hself
        exact hself.1.1
      have hpart := flatMap_subtree hc fun i n hi => by
        have hne : id ≠ i := fun e => hnot (e ▸ Forest.mem_ids_of_find? hi)
        have hin : (Forest.element id t a c .nil).find? i = some n := by
          rw [Forest.find?, if_neg hne, hi, Option.some_or]
        have hfi := Forest.find?_trans (wf.tree_nodup hf) hfind hin
        rw [wf.tree?_of_mem hf (Forest.mem_ids_of_find? hfi), hfi]
      simp [Forest.ids, hpart]

/-- **The walk downwards** lists the subtrees of the nodes on its stack. -/
theorem visit_eq {stack : List NodeId} {n : Nat} (hs : ∀ i ∈ stack, i ∈ d.ids)
    (h : (stack.flatMap d.subtree).length ≤ n) :
    d.visit n stack = some (stack.flatMap d.subtree) := by
  induction n generalizing stack with
  | zero =>
      cases stack with
      | nil => rfl
      | cons i stack =>
          rw [List.flatMap_cons, wf.subtree_eq (hs i List.mem_cons_self)] at h
          simp at h
  | succ n ih =>
      cases stack with
      | nil => rfl
      | cons i stack =>
          obtain ⟨hi, hstack⟩ := List.forall_mem_cons.mp hs
          have hunfold : (i :: stack).flatMap d.subtree =
              i :: (d.children i ++ stack).flatMap d.subtree := by
            rw [List.flatMap_cons, wf.subtree_eq hi, List.cons_append, List.flatMap_append]
          rw [hunfold, List.length_cons] at h
          have hknown : ∀ j ∈ d.children i ++ stack, j ∈ d.ids := by
            refine List.forall_mem_append.mpr ⟨fun c hc => ?_, hstack⟩
            exact mem_ids_of_mem_above (wf.mem_above_of_mem_children hc)
          rw [visit, ih hknown (by omega), hunfold]
          rfl

theorem subtree_nodup (id : NodeId) : (d.subtree id).Nodup := by
  rw [subtree]
  cases h : d.tree? id with
  | none => exact List.nodup_nil
  | some n => exact wf.nodup_of_tree? h

/-- No subtree has more nodes than the document. -/
theorem length_subtree_le (id : NodeId) : (d.subtree id).length ≤ d.fresh :=
  wf.length_le_fresh (wf.subtree_nodup id) fun _ hi => (wf.mem_subtree_iff.mp hi).1

theorem attached_iff_mem_subtree : d.attached id = true ↔ id ∈ d.subtree root := by
  rw [attached_iff_mem, wf.mem_subtree_iff, iff_and_self]
  rintro (rfl | h)
  · obtain ⟨tag, hroot⟩ := wf.root_mem
    exact mem_ids_of_mem_nodes hroot
  · exact mem_ids_of_mem_above h

/-- The links of a well-formed document form a forest. -/
theorem linked : d.Linked where
  mem_children _ _ := wf.mem_children_iff
  children_nodup := wf.children_nodup
  parent_element _ _ := wf.isSome_tag?_of_parent?
  acyclic _ h := wf.not_mem_above_self (wf.mem_above_iff_transGen.mpr h)
  mem_above _ _ := wf.mem_above_iff_transGen
  climb_above x id := by
    rw [wf.climb_parent?, List.contains_eq_any_beq]
    simp only [BEq.comm]
  climb_attached id := by
    rw [wf.climb_eq _ (wf.length_above_lt id), attached, List.any_cons, List.contains_eq_any_beq]
    simp only [BEq.comm]
  climb_excluded id := by rw [wf.climb_eq _ (wf.length_above_lt id), wf.any_excludesBelow]
  visit_subtree id hid := by
    have hone : [id].flatMap d.subtree = d.subtree id := by simp
    rw [wf.visit_eq (List.forall_mem_singleton.mpr hid) (hone ▸ wf.length_subtree_le id), hone]
  subtree_nodup := wf.subtree_nodup
  mem_subtree _ _ := by rw [wf.mem_subtree_iff, wf.mem_above_iff_transGen]
  attached_iff _ := wf.attached_iff_mem_subtree

end WellFormed

/-- A new document is that of the empty text. -/
theorem empty_eq_ofPlainText : empty = ofPlainText "" := rfl

/-- **The links of every document that can be reached form a forest.**  The document begins empty or
as that of a plain text, and then the host edits it, texts are taken apart and masks are turned
back, in any order and with any arguments; a change that is refused may be among them. -/
theorem links_of_reached (changes : List TreeChange) :
    (empty.changeAll changes).Linked ∧ ∀ s, ((ofPlainText s).changeAll changes).Linked := by
  have hreached (s : String) : ((ofPlainText s).changeAll changes).Linked :=
    (wellFormed_changeAll (wellFormed_ofPlainText s) changes).linked
  exact ⟨empty_eq_ofPlainText ▸ hreached "", hreached⟩

end Document

end TextMasking
