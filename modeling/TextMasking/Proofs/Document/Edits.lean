import TextMasking.Proofs.Document.WellFormed

/-! # What edits do to the nodes of a document

Each edit that is not refused keeps every node of the document, possibly somewhere else, and adds
nodes with the numbers that come next (`Document.Extends`).  So well-formed documents stay well
formed, and an edit is described by the nodes that it adds:

* `Extends.remove`, `Extends.appendChild`, `Extends.setAttribute` — the host moves nodes;
* `Extends.addTree` — the host makes a node;
* `Extends.replaceText`, `Extends.unmask` — a text is taken apart, a mask is turned back. -/

namespace TextMasking

namespace Forest

@[simp] theorem shapes_nil : nil.shapes = [] := rfl

/-! ### Changes keep nodes apart -/

theorem IsNode.erase {t : Forest} {i id : NodeId} (h : IsNode i t) (hi : i ≠ id) :
    IsNode i (t.erase id) := by
  cases h with
  | text s => rw [Forest.erase, if_neg hi]; exact .text s
  | mask m => rw [Forest.erase, if_neg hi]; exact .mask m
  | element t a c => rw [Forest.erase, if_neg hi]; exact .element t a _

theorem IsNode.erase_self {t : Forest} {id : NodeId} (h : IsNode id t) : t.erase id = .nil := by
  cases h <;> simp [Forest.erase]

theorem IsNode.appendChild {t tree : Forest} {i parent : NodeId} (h : IsNode i t) :
    IsNode i (appendChild parent tree t) := by
  cases h with
  | text s => exact .text s
  | mask m => exact .mask m
  | element t a c =>
      rw [Forest.appendChild]
      split_ifs <;> exact .element t a _

theorem IsNode.setAttribute {t : Forest} {i id : NodeId} {name value : String} (h : IsNode i t) :
    IsNode i (t.setAttribute id name value) := by
  cases h with
  | text s => exact .text s
  | mask m => exact .mask m
  | element t a c =>
      rw [Forest.setAttribute]
      split_ifs <;> exact .element t _ _

theorem IsNode.splice {t leaves : Forest} {i id : NodeId} (h : IsNode i t) (hi : i ≠ id) :
    IsNode i (splice id leaves t) := by
  cases h with
  | text s => rw [Forest.splice, if_neg hi]; exact .text s
  | mask m => exact .mask m
  | element t a c => exact .element t a _

theorem IsNode.unmask {t : Forest} {i id fresh : NodeId} (h : IsNode i t) (hi : i ≠ id) :
    IsNode i (t.unmask id fresh) := by
  cases h with
  | text s => exact .text s
  | mask m => rw [Forest.unmask, if_neg hi]; exact .mask m
  | element t a c => exact .element t a _

/-! ### Changes of one of several trees -/

/-- A change that leaves alone what does not hold a node acts on the tree that does. -/
theorem exists_changed_tree {ts : List Forest} {id : NodeId} (change : Forest → Forest)
    (hc : ∀ u : Forest, id ∉ u.ids → change u = u) (hn : (ts.flatMap ids).Nodup)
    (h : id ∈ ts.flatMap ids) :
    ∃ pre t post, ts = pre ++ t :: post ∧ id ∈ t.ids ∧ t.ids.Nodup ∧
      (∀ k, (id, k) ∈ ts.flatMap nodes → (id, k) ∈ t.nodes) ∧
      ts.map change = pre ++ change t :: post := by
  obtain ⟨pre, t, post, rfl, hid, ht, hpre, hpost⟩ := exists_tree hn h
  refine ⟨pre, t, post, rfl, hid, ht, ?_, ?_⟩
  · intro k hk
    simp only [List.flatMap_append, List.flatMap_cons, List.mem_append, List.mem_flatMap] at hk
    rcases hk with ⟨u, hu, hk⟩ | hk | ⟨u, hu, hk⟩
    · exact absurd (mem_ids_of_mem_nodes hk) (hpre u hu)
    · exact hk
    · exact absurd (mem_ids_of_mem_nodes hk) (hpost u hu)
  · rw [List.map_append, List.map_cons, map_eq_of_not_mem hc hpre, map_eq_of_not_mem hc hpost]

theorem flatMap_filter_ne_nil (ts : List Forest) :
    (ts.filter (· != nil)).flatMap shapes = ts.flatMap shapes := by
  induction ts with
  | nil => rfl
  | cons t ts ih =>
      by_cases h : t = nil
      · simp [h, ih]
      · simp [h, ih]

end Forest

/-- The leaves of fragments are numbered one after the other. -/
theorem Fragment.ids_toForest (fresh : NodeId) (fragments : List Fragment) :
    (Fragment.toForest fresh fragments).ids = List.range' fresh fragments.length := by
  induction fragments generalizing fresh with
  | nil => rfl
  | cons f rest ih => cases f <;> simp [toForest, Forest.ids, ih, List.range'_succ]

namespace Document

open Forest (IsNode)

/-- What stays and what comes when `d` becomes `d'`: the nodes of `d` are kept, except that texts
may be rewritten, and the nodes `new` are added with the next numbers. -/
structure Extends (d d' : Document) (new : List (NodeId × NodeKind)) : Prop where
  isNode : ∀ t ∈ d'.trees, ∃ id, IsNode id t
  shapes_perm : d'.shapes.Perm (d.shapes ++ new)
  numbered : new.map Prod.fst = List.range' d.fresh new.length
  fresh_eq : d'.fresh = d.fresh + new.length

namespace Extends

variable {d d' : Document} {new : List (NodeId × NodeKind)} (e : Extends d d' new)
include e

theorem ids_perm : d'.ids.Perm (d.ids ++ List.range' d.fresh new.length) := by
  rw [← map_fst_shapes, ← map_fst_shapes, ← e.numbered, ← List.map_append]
  exact e.shapes_perm.map _

/-- An edit that keeps the nodes and numbers the new ones keeps the document well formed. -/
theorem wellFormed (wf : d.WellFormed) : d'.WellFormed := by
  refine ⟨e.isNode, ?_, ?_⟩
  · refine e.ids_perm.trans ((wf.ids_perm.append_right _).trans ?_)
    rw [e.fresh_eq, List.range_add, List.range'_eq_map_range]
  · obtain ⟨t, ht⟩ := wf.root_mem
    refine ⟨t, mem_shapes_element.mp ?_⟩
    exact e.shapes_perm.mem_iff.mpr (List.mem_append_left _ (mem_shapes_element.mpr ht))

theorem fresh_le : d.fresh ≤ d'.fresh := by
  rw [e.fresh_eq]
  exact Nat.le_add_right _ _

theorem mask_mem_iff {id : NodeId} {m : Mask} :
    (id, .mask m) ∈ d'.nodes ↔ (id, .mask m) ∈ d.nodes ∨ (id, .mask m) ∈ new := by
  rw [← mem_shapes_mask, e.shapes_perm.mem_iff, List.mem_append, mem_shapes_mask]

/-- One edit after another adds the nodes of both. -/
theorem trans {d'' : Document} {new' : List (NodeId × NodeKind)} (e' : Extends d' d'' new') :
    Extends d d'' (new ++ new') where
  isNode := e'.isNode
  shapes_perm := by
    rw [← List.append_assoc]
    exact e'.shapes_perm.trans (e.shapes_perm.append_right _)
  numbered := by
    rw [List.map_append, e.numbered, e'.numbered, e.fresh_eq, List.range'_append_1,
      List.length_append]
  fresh_eq := by rw [e'.fresh_eq, e.fresh_eq, List.length_append, Nat.add_assoc]

end Extends

/-! ### Host edits -/

theorem Extends.addTree {d : Document} {tree : Forest} {k : NodeKind} (wf : d.WellFormed)
    (ht : IsNode d.fresh tree) (hk : tree.shapes = [(d.fresh, k)]) :
    Extends d (d.addTree tree) [(d.fresh, k)] where
  isNode := by
    intro u hu
    rcases List.mem_append.mp hu with hu | hu
    · exact wf.isNode u hu
    · rw [List.mem_singleton.mp hu]
      exact ⟨_, ht⟩
  shapes_perm := by simp [Document.addTree, shapes, hk]
  numbered := rfl
  fresh_eq := rfl

theorem Extends.createElement {d : Document} (wf : d.WellFormed) (tag : String) :
    Extends d (d.createElement tag).2 [(d.fresh, .element (lowerAscii tag))] :=
  .addTree wf (.element _ _ _) rfl

theorem Extends.createText {d : Document} (wf : d.WellFormed) (content : String) :
    Extends d (d.createText content).2 [(d.fresh, .text "")] :=
  .addTree wf (.text _) rfl

/-- Notes in the log do not touch the nodes. -/
theorem Extends.of_trees {d d₁ d₂ : Document} {new : List (NodeId × NodeKind)}
    (e : Extends d d₁ new) (ht : d₂.trees = d₁.trees) (hf : d₂.fresh = d₁.fresh) :
    Extends d d₂ new where
  isNode := by rw [ht]; exact e.isNode
  shapes_perm := by rw [shapes, ht]; exact e.shapes_perm
  numbered := e.numbered
  fresh_eq := by rw [hf]; exact e.fresh_eq

theorem Extends.refl {d : Document} (wf : d.WellFormed) : Extends d d [] :=
  ⟨wf.isNode, by simp, rfl, rfl⟩

/-- Without a node its tree is missing it with what lies below, and the others are as they
were. -/
theorem WellFormed.shapes_erase {d : Document} (wf : d.WellFormed) {id : NodeId} {n : Forest}
    (h : d.tree? id = some n) : ((d.erase id).shapes ++ n.shapes).Perm d.shapes := by
  obtain ⟨pre, t, post, ht, hid, hn, -, hmap⟩ :=
    Forest.exists_changed_tree (·.erase id) (fun _ => Forest.erase_of_not_mem) wf.ids_nodup
      (mem_ids_of_tree? h)
  have hf : t.find? id = some n := by
    rw [← wf.tree?_of_mem (by simp [ht]) hid, h]
  have hp := (Forest.nodes_erase_perm hn hf).map fun n => (n.1, n.2.shape)
  simp only [erase, shapes, Forest.flatMap_filter_ne_nil, hmap]
  rw [ht, List.perm_iff_count]
  intro x
  have := hp.count_eq x
  simp only [List.map_append, List.count_append, List.flatMap_append, List.flatMap_cons,
    Forest.shapes] at this ⊢
  omega

theorem WellFormed.nodup_erase {d : Document} (wf : d.WellFormed) {id : NodeId} {n : Forest}
    (h : d.tree? id = some n) : (d.erase id).ids.Nodup := by
  have := ((wf.shapes_erase h).map Prod.fst).nodup_iff.mpr (by
    rw [map_fst_shapes]
    exact wf.ids_nodup)
  rw [List.map_append, map_fst_shapes] at this
  exact this.of_append_left

theorem WellFormed.isNode_erase {d : Document} (wf : d.WellFormed) {id : NodeId} {t : Forest}
    (ht : t ∈ (d.erase id).trees) : ∃ i, IsNode i t := by
  simp only [erase, List.mem_filter, List.mem_map, bne_iff_ne] at ht
  obtain ⟨⟨u, hu, rfl⟩, hne⟩ := ht
  obtain ⟨i, hi⟩ := wf.isNode u hu
  by_cases e : i = id
  · subst e
    exact absurd hi.erase_self hne
  · exact ⟨i, hi.erase e⟩

/-- Removing a node that has no parent changes nothing; another one becomes a tree of its own. -/
theorem remove_cases {d d' : Document} {id : NodeId} (h : d.remove id = .ok d') :
    ∃ p, d.place? id = some p ∧
      (p.above = [] ∧ d' = d ∨ p.above ≠ [] ∧ d'.trees = (d.erase id).trees ++ [p.node] ∧
        d'.fresh = d.fresh) := by
  rw [remove] at h
  split at h
  · cases h
  · rename_i p hp
    refine ⟨p, hp, ?_⟩
    split_ifs at h with ha
    · cases h
      exact .inl ⟨List.isEmpty_iff.mp ha, rfl⟩
    · cases h
      exact .inr ⟨mt List.isEmpty_iff.mpr ha, rfl, rfl⟩

theorem Extends.remove {d d' : Document} {id : NodeId} (wf : d.WellFormed)
    (h : d.remove id = .ok d') : Extends d d' [] := by
  obtain ⟨p, hp, ⟨-, rfl⟩ | ⟨-, ht, hf⟩⟩ := remove_cases h
  · exact .refl wf
  · have hn := tree?_of_place? hp
    refine ⟨?_, ?_, rfl, hf⟩
    · intro t hmem
      rw [ht] at hmem
      rcases List.mem_append.mp hmem with hmem | hmem
      · exact wf.isNode_erase hmem
      · rw [List.mem_singleton.mp hmem]
        exact ⟨id, isNode_of_tree? hn⟩
    · rw [shapes, ht, List.append_nil, List.flatMap_append, List.flatMap_singleton]
      exact wf.shapes_erase hn

/-- A node is moved only below an element that is not below it. -/
theorem appendChild_cases {d d' : Document} {parent child : NodeId}
    (h : d.appendChild parent child = .ok d') :
    ∃ t a c tree, d.tree? parent = some (.element parent t a c .nil) ∧
      d.tree? child = some tree ∧ parent ≠ child ∧ child ∉ d.above parent ∧
      d'.trees = (d.erase child).trees.map (Forest.appendChild parent tree) ∧
      d'.fresh = d.fresh := by
  rw [appendChild] at h
  split at h
  · cases h
  · rename_i i t a c rest hp
    obtain ⟨rfl, rfl⟩ : i = parent ∧ rest = .nil := by
      have := isNode_of_tree? hp
      cases this
      exact ⟨rfl, rfl⟩
    split at h
    · cases h
    · rename_i tree htree
      refine ⟨t, a, c, tree, hp, htree, ?_⟩
      split_ifs at h with hc
      · cases h
      · simp only [Bool.or_eq_true, decide_eq_true_eq, List.contains_iff_mem, not_or] at hc
        refine ⟨hc.1, hc.2, ?_⟩
        simp only [pure, Except.pure, Except.ok.injEq] at h
        rw [← h]
        split_ifs <;> exact ⟨rfl, rfl⟩
  · cases h

/-- A node that does not lie below another one is not part of its tree. -/
theorem WellFormed.not_mem_ids_of_tree? {d : Document} (wf : d.WellFormed) {id child : NodeId}
    {tree : Forest} (h : d.tree? child = some tree) (hne : id ≠ child)
    (hab : child ∉ d.above id) : id ∉ tree.ids := by
  rw [wf.mem_above_iff] at hab
  intro hid
  cases isNode_of_tree? h with
  | text s => exact hne (List.mem_singleton.mp hid)
  | mask m => exact hne (List.mem_singleton.mp hid)
  | element t a c =>
      rw [Forest.ids, Forest.ids, List.append_nil] at hid
      rcases List.mem_cons.mp hid with hid | hid
      · exact hne hid
      · exact hab ⟨t, a, c, h, hid⟩

/-- A node that is moved goes from where it was to the end of its new parent. -/
theorem Extends.appendChild {d d' : Document} {parent child : NodeId} (wf : d.WellFormed)
    (h : d.appendChild parent child = .ok d') : Extends d d' [] := by
  obtain ⟨t, a, c, tree, hp, hc, hne, hab, ht, hf⟩ := appendChild_cases h
  have hperm := wf.shapes_erase hc
  have hn := wf.nodup_erase hc
  have hmem : (parent, .element t) ∈ (d.erase child).nodes := by
    have : (parent, .element t) ∈ d.shapes :=
      mem_shapes_element.mpr (nodes_subset_of_tree? hp (by simp [Forest.nodes]))
    rw [← mem_shapes_element]
    refine (List.mem_append.mp (hperm.mem_iff.mpr this)).resolve_right fun hin => ?_
    rw [Forest.mem_shapes_element] at hin
    exact wf.not_mem_ids_of_tree? hc hne hab (Forest.mem_ids_of_mem_nodes hin)
  refine ⟨?_, ?_, rfl, hf⟩
  · intro u hu
    rw [ht] at hu
    obtain ⟨v, hv, rfl⟩ := List.mem_map.mp hu
    obtain ⟨i, hi⟩ := wf.isNode_erase hv
    exact ⟨i, hi.appendChild⟩
  · obtain ⟨pre, u, post, htrees, -, hu, hk, hmap⟩ :=
      Forest.exists_changed_tree (Forest.appendChild parent tree)
        (fun _ => Forest.appendChild_of_not_mem) hn (mem_ids_of_mem_nodes hmem)
    have hp := (Forest.nodes_appendChild_perm tree hu (hk _ hmem)).map
      fun n => (n.1, n.2.shape)
    refine List.Perm.trans ?_ (hperm.trans (by simp))
    rw [shapes, ht, hmap, shapes, htrees, List.perm_iff_count]
    intro x
    have := hp.count_eq x
    simp only [List.map_append, List.count_append, List.flatMap_append, List.flatMap_cons,
      Forest.shapes] at this ⊢
    omega

/-- Attributes are set of elements only. -/
theorem setAttribute_cases {d d' : Document} {id : NodeId} {name value : String}
    (h : d.setAttribute id name value = .ok d') :
    ∃ t a c, d.tree? id = some (.element id t a c .nil) ∧
      d'.trees = d.trees.map (·.setAttribute id (lowerAscii name) value) ∧
      d'.fresh = d.fresh := by
  rw [setAttribute] at h
  split at h
  · cases h
  · rename_i i t a c rest hp
    obtain ⟨rfl, rfl⟩ : i = id ∧ rest = .nil := by
      have := isNode_of_tree? hp
      cases this
      exact ⟨rfl, rfl⟩
    refine ⟨t, a, c, hp, ?_⟩
    rw [Except.ok.injEq] at h
    rw [← h]
    split_ifs <;> exact ⟨rfl, rfl⟩
  · cases h

theorem Extends.setAttribute {d d' : Document} {id : NodeId} {name value : String}
    (wf : d.WellFormed) (h : d.setAttribute id name value = .ok d') : Extends d d' [] := by
  obtain ⟨-, -, -, -, ht, hf⟩ := setAttribute_cases h
  refine ⟨?_, ?_, rfl, hf⟩
  · intro u hu
    rw [ht] at hu
    obtain ⟨v, hv, rfl⟩ := List.mem_map.mp hu
    obtain ⟨i, hi⟩ := wf.isNode v hv
    exact ⟨i, hi.setAttribute⟩
  · rw [shapes, ht, List.append_nil, List.flatMap_map]
    simp only [Forest.shapes, Forest.nodes_setAttribute]
    exact List.Perm.refl _

/-! ### Masks -/

/-- Only a text below the root is replaced. -/
theorem replaceText_cases {d d' : Document} {id : NodeId} {fragments : List Fragment}
    {new : List NodeId} (h : d.replaceText id fragments = .ok (new, d')) :
    ∃ p s, d.place? id = some p ∧ p.node = .text id s .nil ∧ p.above ≠ [] ∧
      d.attached id = true ∧
      d'.trees = d.trees.map (Forest.splice id (Fragment.toForest d.fresh fragments)) ++
        [.text id s .nil] ∧
      d'.fresh = d.fresh + fragments.length := by
  rw [replaceText] at h
  split at h
  · cases h
  · rename_i p hp
    split at h
    · rename_i i s rest hnode
      obtain ⟨rfl, rfl⟩ : i = id ∧ rest = .nil := by
        have := isNode_of_tree? (tree?_of_place? hp)
        rw [hnode] at this
        cases this
        exact ⟨rfl, rfl⟩
      split_ifs at h with hc
      · simp only [Bool.or_eq_true, List.isEmpty_iff, Bool.not_eq_true', not_or,
          Bool.not_eq_false] at hc
        cases h
        exact ⟨p, s, hp, hnode, hc.1, hc.2, by rw [hnode], rfl⟩
    · cases h

/-- The leaves of the fragments come, and the text stays without a parent. -/
theorem nodes_replaceText_perm {d d' : Document} {id : NodeId} {fragments : List Fragment}
    {new : List NodeId} (wf : d.WellFormed) (h : d.replaceText id fragments = .ok (new, d')) :
    d'.nodes.Perm (d.nodes ++ (Fragment.toForest d.fresh fragments).nodes) := by
  obtain ⟨p, s, hp, hnode, -, -, ht, -⟩ := replaceText_cases h
  have hid := tree?_of_place? hp
  rw [hnode] at hid
  have hk := wf.tree?_text_iff.mp hid
  obtain ⟨pre, t, post, htrees, -, hn, hkt, hmap⟩ :=
    Forest.exists_changed_tree (Forest.splice id (Fragment.toForest d.fresh fragments))
      (fun _ => Forest.splice_of_not_mem) wf.ids_nodup (mem_ids_of_mem_nodes hk)
  rw [nodes, ht, hmap, nodes, htrees, List.perm_iff_count]
  intro x
  have := (Forest.nodes_splice_perm (Fragment.toForest d.fresh fragments) hn
    (hkt _ hk)).count_eq x
  simp only [List.count_append, List.flatMap_append, List.flatMap_cons, List.flatMap_nil,
    Forest.nodes, List.count_nil] at this ⊢
  omega

theorem Extends.replaceText {d d' : Document} {id : NodeId} {fragments : List Fragment}
    {new : List NodeId} (wf : d.WellFormed) (h : d.replaceText id fragments = .ok (new, d')) :
    Extends d d' (Fragment.toForest d.fresh fragments).shapes := by
  obtain ⟨p, s, hp, -, ha, -, ht, hf⟩ := replaceText_cases h
  have hlen : (Fragment.toForest d.fresh fragments).shapes.length = fragments.length := by
    rw [← List.length_map Prod.fst, Forest.map_fst_shapes, Fragment.ids_toForest,
      List.length_range']
  refine ⟨?_, ?_, ?_, by rw [hf, hlen]⟩
  · intro t hmem
    rw [ht] at hmem
    rcases List.mem_append.mp hmem with hmem | hmem
    · obtain ⟨u, hu, rfl⟩ := List.mem_map.mp hmem
      obtain ⟨i, hi⟩ := wf.isNode u hu
      exact ⟨i, hi.splice (wf.ne_of_above_ne_nil hu hi hp ha)⟩
    · rw [List.mem_singleton.mp hmem]
      exact ⟨id, .text s⟩
  · rw [shapes_eq_map, shapes_eq_map, Forest.shapes, ← List.map_append]
    exact (nodes_replaceText_perm wf h).map _
  · rw [Forest.map_fst_shapes, Fragment.ids_toForest, hlen]

/-- The text that comes after a mask loses its parent when the mask is turned back. -/
theorem joined_cases (f : Forest) :
    let joined := match f with
      | .text i s _ => [Forest.text i s .nil]
      | _ => []
    (∀ t ∈ joined, ∃ i s, t = .text i s .nil) ∧ joined.flatMap Forest.shapes = f.headText := by
  cases f <;> simp <;> rfl

/-- Only a mask below an element is turned back.  The text after it joins the text that holds what
it hid. -/
theorem unmask_cases {d d' : Document} {id new : NodeId} (h : d.unmask id = .ok (new, d')) :
    ∃ p m joined, d.place? id = some p ∧ p.node = .mask id m .nil ∧ p.above ≠ [] ∧
      (∀ t ∈ joined, ∃ i s, t = .text i s .nil) ∧
      joined.flatMap Forest.shapes = p.after.headText ∧
      d'.trees = d.trees.map (·.unmask id d.fresh) ++ joined ++ [.mask id m .nil] ∧
      d'.fresh = if p.before.headText = [] then d.fresh + 1 else d.fresh := by
  rw [unmask] at h
  split at h
  · cases h
  · rename_i p hp
    split at h
    · rename_i i m rest hnode
      obtain ⟨rfl, rfl⟩ : i = id ∧ rest = .nil := by
        have := isNode_of_tree? (tree?_of_place? hp)
        rw [hnode] at this
        cases this
        exact ⟨rfl, rfl⟩
      split_ifs at h with hc
      obtain ⟨htexts, hshapes⟩ := joined_cases p.after
      refine ⟨p, m, _, hp, hnode, mt List.isEmpty_iff.mpr hc, htexts, hshapes, ?_⟩
      cases hb : p.before <;> simp only [hb, Except.ok.injEq, Prod.mk.injEq] at h <;>
        rw [← h.2, hnode] <;> exact ⟨rfl, rfl⟩
    · cases h

theorem Extends.unmask {d d' : Document} {id new : NodeId} {p : Forest.Place}
    (wf : d.WellFormed) (hp : d.place? id = some p) (h : d.unmask id = .ok (new, d')) :
    Extends d d' (if p.before.headText = [] then [(d.fresh, .text "")] else []) := by
  obtain ⟨p', m, joined, hp', hnode, ha, hj, hjs, ht, hf⟩ := unmask_cases h
  obtain rfl : p' = p := Option.some.inj (hp'.symm.trans hp)
  refine ⟨?_, ?_, ?_, ?_⟩
  · intro t hmem
    simp only [ht, List.mem_append, List.mem_map, List.mem_singleton] at hmem
    rcases hmem with (⟨u, hu, rfl⟩ | hmem) | rfl
    · obtain ⟨i, hi⟩ := wf.isNode u hu
      exact ⟨i, hi.unmask (wf.ne_of_above_ne_nil hu hi hp ha)⟩
    · obtain ⟨i, s, rfl⟩ := hj t hmem
      exact ⟨i, .text s⟩
    · exact ⟨id, .mask m⟩
  · obtain ⟨pre, t, post, htrees, hid, hn, -, hmap⟩ :=
      Forest.exists_changed_tree (·.unmask id d.fresh) (fun _ => Forest.unmask_of_not_mem)
        wf.ids_nodup (mem_ids_of_tree? (tree?_of_place? hp))
    have htp : t.place? id = some p' := by
      rw [← wf.place?_of_mem (by simp [htrees]) hid, hp]
    have hperm := Forest.shapes_unmask_perm d.fresh hn htp hnode fun _ _ _ => rfl
    rw [shapes, ht, hmap, shapes, htrees, List.perm_iff_count]
    intro x
    have := hperm.count_eq x
    simp only [List.count_append, List.flatMap_append, List.flatMap_cons, List.flatMap_nil, hjs,
      List.append_nil] at this ⊢
    rw [show (Forest.mask id m Forest.nil).shapes = [(id, NodeKind.mask m)] from rfl]
    omega
  · split_ifs <;> rfl
  · rw [hf]
    split_ifs <;> rfl

/-- A mask below an element is turned back. -/
theorem exists_unmask {d : Document} {id : NodeId} {p : Forest.Place} {m : Mask} {rest : Forest}
    (hp : d.place? id = some p) (hm : p.node = .mask id m rest) (ha : p.above ≠ []) :
    ∃ new d', d.unmask id = .ok (new, d') := by
  rw [unmask, hp]
  simp only [hm]
  rw [if_neg (mt List.isEmpty_iff.mp ha)]
  cases p.before <;> exact ⟨_, _, rfl⟩

end Document

end TextMasking
