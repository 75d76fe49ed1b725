import TextMasking.Proofs.Document.Changes

/-! # Well-formed documents

A document is well formed when each of its trees is one node, the numbers given out so far are
each the number of exactly one node, and the root is an element (`Document.WellFormed`).  Looking
up a node then finds the one that the list of nodes names, wherever it stands. -/

namespace TextMasking

namespace Forest

/-- Where no number is used twice, the trees around the one that holds a node do not hold it. -/
theorem exists_tree {ts : List Forest} {id : NodeId} (hn : (ts.flatMap ids).Nodup)
    (h : id ∈ ts.flatMap ids) :
    ∃ pre t post, ts = pre ++ t :: post ∧ id ∈ t.ids ∧ t.ids.Nodup ∧
      (∀ u ∈ pre, id ∉ u.ids) ∧ ∀ u ∈ post, id ∉ u.ids := by
  obtain ⟨t, ht, hid⟩ := List.mem_flatMap.mp h
  obtain ⟨pre, post, rfl⟩ := List.append_of_mem ht
  rw [List.flatMap_append, List.flatMap_cons] at hn
  obtain ⟨_, hn, h₁⟩ := List.nodup_append.mp hn
  obtain ⟨ht, _, h₂⟩ := List.nodup_append.mp hn
  refine ⟨pre, t, post, rfl, hid, ht, ?_, ?_⟩
  · intro u hu hid'
    exact h₁ id (List.mem_flatMap.mpr ⟨u, hu, hid'⟩) id (List.mem_append_left _ hid) rfl
  · intro u hu hid'
    exact h₂ id hid id (List.mem_flatMap.mpr ⟨u, hu, hid'⟩) rfl

/-- A change that leaves alone the trees that do not hold a node acts on the one that does. -/
theorem map_eq_of_not_mem {change : Forest → Forest} {id : NodeId}
    (hc : ∀ u : Forest, id ∉ u.ids → change u = u) {ts : List Forest}
    (h : ∀ u ∈ ts, id ∉ u.ids) : ts.map change = ts := by
  rw [List.map_congr_left fun u hu => hc u (h u hu), List.map_id']

theorem above_suffix_placeFrom {f before : Forest} {above : List Ancestor} {id : NodeId}
    {p : Place} (h : placeFrom above before id f = some p) : above <:+ p.above := by
  induction f generalizing above before with
  | nil => cases h
  | text i s rest ih | mask i m rest ih =>
      rw [placeFrom] at h
      split_ifs at h
      · cases h
        exact List.suffix_rfl
      · exact ih h
  | element i t a c rest ihc ih =>
      rw [placeFrom] at h
      split_ifs at h
      · cases h
        exact List.suffix_rfl
      · cases hp : placeFrom (⟨i, t, a⟩ :: above) .nil id c with
        | some q =>
            rw [hp] at h
            cases h
            exact (List.suffix_cons _ _).trans (ihc hp)
        | none =>
            rw [hp] at h
            exact ih h

theorem IsNode.place?_self {t : Forest} {id : NodeId} (h : IsNode id t) :
    t.place? id = some ⟨[], .nil, t, .nil⟩ := by
  cases h <;> simp [place?, placeFrom]

/-- Below the node of a tree there is an element above every node. -/
theorem IsNode.above_ne_nil {t : Forest} {i id : NodeId} {p : Place} (h : IsNode i t)
    (hi : i ≠ id) (hp : t.place? id = some p) : p.above ≠ [] := by
  cases h with
  | text s => simp [place?, placeFrom, hi] at hp
  | mask m => simp [place?, placeFrom, hi] at hp
  | element t a c =>
      rw [place?, placeFrom, if_neg hi] at hp
      cases hc : placeFrom [⟨i, t, a⟩] .nil id c with
      | some q =>
          rw [hc] at hp
          cases hp
          intro e
          have := above_suffix_placeFrom hc
          rw [e, List.suffix_nil] at this
          cases this
      | none =>
          rw [hc] at hp
          cases hp

theorem nodup_children {id : NodeId} {t : String} {a : Attributes} {c : Forest}
    (h : (element id t a c nil).ids.Nodup) : c.ids.Nodup := by
  simp only [ids, List.append_nil] at h
  exact (List.nodup_cons.mp h).2

end Forest

namespace Document

open Forest (IsNode)

/-- All nodes with what they are, tree by tree. -/
def nodes (d : Document) : List (NodeId × NodeKind) :=
  d.trees.flatMap Forest.nodes

/-- All nodes with what they are, without the contents of texts. -/
def shapes (d : Document) : List (NodeId × NodeKind) :=
  d.trees.flatMap Forest.shapes

/-- Each tree is one node, the numbers given out are those of the nodes, and the root is an
element. -/
structure WellFormed (d : Document) : Prop where
  isNode : ∀ t ∈ d.trees, ∃ id, IsNode id t
  ids_perm : d.ids.Perm (List.range d.fresh)
  root_mem : ∃ t, (root, .element t) ∈ d.nodes

@[simp] theorem map_fst_nodes (d : Document) : d.nodes.map Prod.fst = d.ids := by
  simp [nodes, ids, List.map_flatMap]

@[simp] theorem map_fst_shapes (d : Document) : d.shapes.map Prod.fst = d.ids := by
  simp [shapes, ids, List.map_flatMap]

theorem shapes_eq_map (d : Document) : d.shapes = d.nodes.map fun n => (n.1, n.2.shape) := by
  rw [nodes, List.map_flatMap]
  rfl

theorem mem_shapes_mask {d : Document} {id : NodeId} {m : Mask} :
    (id, .mask m) ∈ d.shapes ↔ (id, .mask m) ∈ d.nodes := by
  simp only [shapes, nodes, List.mem_flatMap, Forest.mem_shapes_mask]

theorem mem_shapes_element {d : Document} {id : NodeId} {t : String} :
    (id, .element t) ∈ d.shapes ↔ (id, .element t) ∈ d.nodes := by
  simp only [shapes, nodes, List.mem_flatMap, Forest.mem_shapes_element]

theorem mem_ids_of_mem_nodes {d : Document} {id : NodeId} {k : NodeKind} (h : (id, k) ∈ d.nodes) :
    id ∈ d.ids := by
  rw [← map_fst_nodes]
  exact List.mem_map_of_mem h

namespace WellFormed

variable {d : Document} (wf : d.WellFormed)
include wf

theorem ids_nodup : d.ids.Nodup :=
  wf.ids_perm.nodup_iff.mpr List.nodup_range

theorem mem_ids_iff {id : NodeId} : id ∈ d.ids ↔ id < d.fresh := by
  rw [wf.ids_perm.mem_iff, List.mem_range]

theorem fresh_not_mem : d.fresh ∉ d.ids := by
  rw [wf.mem_ids_iff]
  exact Nat.lt_irrefl _

theorem tree_nodup {t : Forest} (ht : t ∈ d.trees) : t.ids.Nodup :=
  (List.nodup_flatMap.mp wf.ids_nodup).1 t ht

/-- No two trees hold the same node. -/
theorem tree_unique {t u : Forest} {id : NodeId} (ht : t ∈ d.trees) (hu : u ∈ d.trees)
    (h : id ∈ t.ids) (h' : id ∈ u.ids) : t = u := by
  by_contra hne
  have hd : d.trees.Pairwise fun a b => a.ids.Disjoint b.ids :=
    (List.nodup_flatMap.mp wf.ids_nodup).2
  have : Std.Symm fun a b : Forest => a.ids.Disjoint b.ids := ⟨fun _ _ h x hx hy => h hy hx⟩
  exact hd.forall ht hu hne h h'

theorem kind_unique {id : NodeId} {k l : NodeKind} (hk : (id, k) ∈ d.nodes)
    (hl : (id, l) ∈ d.nodes) : k = l := by
  have hn := wf.ids_nodup
  rw [← map_fst_nodes] at hn
  exact (Prod.mk.inj (List.inj_on_of_nodup_map hn hk hl rfl)).2

/-- A node is looked up in the tree that holds it. -/
theorem place?_of_mem {t : Forest} {id : NodeId} (ht : t ∈ d.trees) (h : id ∈ t.ids) :
    d.place? id = t.place? id := by
  have hn := wf.ids_nodup
  obtain ⟨pre, post, e⟩ := List.append_of_mem ht
  rw [ids, e, List.flatMap_append, List.flatMap_cons] at hn
  have hpre : pre.findSome? (·.place? id) = none := by
    rw [List.findSome?_eq_none_iff]
    intro u hu
    rw [Forest.place?, Forest.placeFrom_eq_none_iff]
    intro hid
    exact (List.nodup_append.mp hn).2.2 id (List.mem_flatMap.mpr ⟨u, hu, hid⟩) id
      (List.mem_append_left _ h) rfl
  obtain ⟨p, hp⟩ : ∃ p, t.place? id = some p := by
    cases hp : t.place? id with
    | some p => exact ⟨p, rfl⟩
    | none => exact absurd h (Forest.placeFrom_eq_none_iff.mp hp)
  rw [place?, e, List.findSome?_append, hpre, List.findSome?_cons, hp]
  rfl

theorem tree?_of_mem {t : Forest} {id : NodeId} (ht : t ∈ d.trees) (h : id ∈ t.ids) :
    d.tree? id = t.find? id := by
  rw [tree?, wf.place?_of_mem ht h, Forest.map_node_place?]

end WellFormed

theorem tree?_eq_none_iff {d : Document} {id : NodeId} : d.tree? id = none ↔ id ∉ d.ids := by
  rw [tree?, Option.map_eq_none_iff, place?, List.findSome?_eq_none_iff]
  simp only [Forest.place?, Forest.placeFrom_eq_none_iff, ids, List.mem_flatMap, not_exists,
    not_and]

theorem place?_eq_none_iff {d : Document} {id : NodeId} : d.place? id = none ↔ id ∉ d.ids := by
  rw [← tree?_eq_none_iff, tree?, Option.map_eq_none_iff]

theorem exists_tree?_iff {d : Document} {id : NodeId} :
    (∃ n, d.tree? id = some n) ↔ id ∈ d.ids := by
  rw [← Option.ne_none_iff_exists', ne_eq, tree?_eq_none_iff, not_not]

theorem exists_place?_iff {d : Document} {id : NodeId} :
    (∃ p, d.place? id = some p) ↔ id ∈ d.ids := by
  rw [← Option.ne_none_iff_exists', ne_eq, place?_eq_none_iff, not_not]

theorem tree?_of_place? {d : Document} {id : NodeId} {p : Forest.Place}
    (h : d.place? id = some p) : d.tree? id = some p.node := by
  rw [tree?, h]
  rfl

/-- A node that is looked up stands in one of the trees. -/
theorem exists_tree_of_place? {d : Document} {id : NodeId} {p : Forest.Place}
    (h : d.place? id = some p) : ∃ t ∈ d.trees, id ∈ t.ids ∧ t.place? id = some p := by
  obtain ⟨t, ht, hp⟩ := List.exists_of_findSome?_eq_some h
  refine ⟨t, ht, ?_, hp⟩
  by_contra hno
  rw [Forest.place?, Forest.placeFrom_eq_none_iff.mpr hno] at hp
  cases hp

theorem exists_tree_of_tree? {d : Document} {id : NodeId} {n : Forest} (h : d.tree? id = some n) :
    ∃ t ∈ d.trees, id ∈ t.ids ∧ t.find? id = some n := by
  obtain ⟨p, hp, rfl⟩ := Option.map_eq_some_iff.mp h
  obtain ⟨t, ht, hid, htp⟩ := exists_tree_of_place? hp
  exact ⟨t, ht, hid, by rw [← Forest.map_node_place?, htp]; rfl⟩

theorem isNode_of_tree? {d : Document} {id : NodeId} {n : Forest} (h : d.tree? id = some n) :
    IsNode id n := by
  obtain ⟨t, _, _, hf⟩ := exists_tree_of_tree? h
  exact Forest.isNode_of_find? hf

theorem nodes_subset_of_tree? {d : Document} {id : NodeId} {n : Forest}
    (h : d.tree? id = some n) : n.nodes ⊆ d.nodes := by
  obtain ⟨t, ht, _, hf⟩ := exists_tree_of_tree? h
  intro x hx
  exact List.mem_flatMap.mpr ⟨t, ht, (Forest.nodes_sublist_of_find? hf).subset hx⟩

theorem mem_ids_of_tree? {d : Document} {id : NodeId} {n : Forest} (h : d.tree? id = some n) :
    id ∈ d.ids := by
  by_contra hno
  rw [tree?_eq_none_iff.mpr hno] at h
  cases h

namespace WellFormed

variable {d : Document} (wf : d.WellFormed)
include wf

theorem nodup_of_tree? {id : NodeId} {n : Forest} (h : d.tree? id = some n) : n.ids.Nodup := by
  obtain ⟨t, ht, _, hf⟩ := exists_tree_of_tree? h
  exact (wf.tree_nodup ht).sublist (Forest.ids_sublist_of_find? hf)

theorem tree?_text_iff {id : NodeId} {s : String} :
    d.tree? id = some (.text id s .nil) ↔ (id, .text s) ∈ d.nodes := by
  constructor
  · intro h
    exact nodes_subset_of_tree? h (by simp [Forest.nodes])
  · intro h
    obtain ⟨t, ht, hid⟩ := List.mem_flatMap.mp h
    rw [wf.tree?_of_mem ht (Forest.mem_ids_of_mem_nodes hid)]
    exact (Forest.find?_text_iff (wf.tree_nodup ht)).mpr hid

theorem tree?_mask_iff {id : NodeId} {m : Mask} :
    d.tree? id = some (.mask id m .nil) ↔ (id, .mask m) ∈ d.nodes := by
  constructor
  · intro h
    exact nodes_subset_of_tree? h (by simp [Forest.nodes])
  · intro h
    obtain ⟨t, ht, hid⟩ := List.mem_flatMap.mp h
    rw [wf.tree?_of_mem ht (Forest.mem_ids_of_mem_nodes hid)]
    exact (Forest.find?_mask_iff (wf.tree_nodup ht)).mpr hid

theorem exists_tree?_element {id : NodeId} {t : String} (h : (id, .element t) ∈ d.nodes) :
    ∃ a c, d.tree? id = some (.element id t a c .nil) := by
  obtain ⟨f, hf, hid⟩ := List.mem_flatMap.mp h
  rw [wf.tree?_of_mem hf (Forest.mem_ids_of_mem_nodes hid)]
  exact Forest.exists_find?_element (wf.tree_nodup hf) hid

/-- A node below an element is among the nodes of its children. -/
theorem mem_nodes_children {x id : NodeId} {t : String} {a : Attributes} {c : Forest}
    {k : NodeKind} (hx : d.tree? x = some (.element x t a c .nil)) (h : (id, k) ∈ d.nodes)
    (hid : id ∈ c.ids) : (id, k) ∈ c.nodes := by
  rw [← Forest.map_fst_nodes] at hid
  obtain ⟨⟨i, l⟩, hl, rfl⟩ := List.mem_map.mp hid
  have hl' : (i, l) ∈ d.nodes := nodes_subset_of_tree? hx (by simp [Forest.nodes, hl])
  rwa [wf.kind_unique h hl']

theorem exists_tree?_root : ∃ t a c, d.tree? root = some (.element root t a c .nil) := by
  obtain ⟨t, h⟩ := wf.root_mem
  exact ⟨t, wf.exists_tree?_element h⟩

/-- A node without an element above it is one of the trees. -/
theorem place?_of_above_eq_nil {id : NodeId} {p : Forest.Place} (h : d.place? id = some p)
    (ha : p.above = []) : p = ⟨[], .nil, p.node, .nil⟩ ∧ p.node ∈ d.trees := by
  obtain ⟨t, ht, _, hp⟩ := exists_tree_of_place? h
  obtain ⟨i, hi⟩ := wf.isNode t ht
  by_cases e : i = id
  · subst e
    rw [hi.place?_self] at hp
    cases hp
    exact ⟨rfl, ht⟩
  · exact absurd ha (hi.above_ne_nil e hp)

theorem place?_of_mem_trees {id : NodeId} {n : Forest} (hn : n ∈ d.trees) (hi : IsNode id n) :
    d.place? id = some ⟨[], .nil, n, .nil⟩ := by
  rw [wf.place?_of_mem hn hi.mem_ids, hi.place?_self]

theorem tree?_of_mem_trees {id : NodeId} {n : Forest} (hn : n ∈ d.trees) (hi : IsNode id n) :
    d.tree? id = some n :=
  tree?_of_place? (wf.place?_of_mem_trees hn hi)

/-- A node below an element is not one of the trees. -/
theorem ne_of_above_ne_nil {i id : NodeId} {t : Forest} {p : Forest.Place} (ht : t ∈ d.trees)
    (hi : IsNode i t) (hp : d.place? id = some p) (ha : p.above ≠ []) : i ≠ id := by
  rintro rfl
  rw [wf.place?_of_mem_trees ht hi] at hp
  cases hp
  exact ha rfl

end WellFormed

/-! ### What lies above a node -/

/-- The node `id` lies below the element `x`. -/
def Below (d : Document) (x id : NodeId) : Prop :=
  ∃ t a c, d.tree? x = some (.element x t a c .nil) ∧ id ∈ c.ids

theorem WellFormed.mem_above_iff {d : Document} (wf : d.WellFormed) {x id : NodeId} :
    x ∈ d.above id ↔ d.Below x id := by
  rw [above]
  cases hp : d.place? id with
  | none =>
      have hid := place?_eq_none_iff.mp hp
      simp only [List.not_mem_nil, false_iff]
      rintro ⟨t, a, c, hx, hc⟩
      refine hid ?_
      rw [← map_fst_nodes]
      refine List.map_subset _ (nodes_subset_of_tree? hx) ?_
      simp [Forest.ids, hc]
  | some p =>
      obtain ⟨f, hf, hid, hfp⟩ := exists_tree_of_place? hp
      simp only [Forest.mem_above_iff (wf.tree_nodup hf) hfp, List.map_nil, List.not_mem_nil,
        false_or]
      constructor
      · rintro ⟨t, a, c, hx, hc⟩
        exact ⟨t, a, c, by rwa [wf.tree?_of_mem hf (Forest.mem_ids_of_find? hx)], hc⟩
      · rintro ⟨t, a, c, hx, hc⟩
        obtain ⟨g, hg, hxg, hgx⟩ := exists_tree_of_tree? hx
        have hidg : id ∈ g.ids :=
          (Forest.ids_sublist_of_find? hgx).subset (by simp [Forest.ids, hc])
        obtain rfl := wf.tree_unique hf hg hid hidg
        exact ⟨t, a, c, hgx, hc⟩

/-- A node is attached exactly if it lies in the tree of the root. -/
theorem WellFormed.attached_iff {d : Document} (wf : d.WellFormed) {id : NodeId} {t : String}
    {a : Attributes} {c : Forest} (hr : d.tree? root = some (.element root t a c .nil)) :
    d.attached id = true ↔ id = root ∨ id ∈ c.ids := by
  rw [attached, Bool.or_eq_true, beq_iff_eq, List.contains_iff_mem, wf.mem_above_iff, Below]
  rw [hr]
  refine or_congr_right ⟨?_, fun h => ⟨t, a, c, rfl, h⟩⟩
  rintro ⟨t', a', c', e, h⟩
  cases e
  exact h

end Document

end TextMasking
