import Mathlib.Data.List.Nodup
import Mathlib.Data.List.Pairwise
import Mathlib.Data.List.Perm.Basic
import TextMasking.Document.Mask

/-! # The nodes of a forest

`Forest.nodes` lists every node of a forest with what it is, in document order; `Forest.find?` is
the node with a number, with what lies below it.  Both forget where a node stands, so that an
edit is described by what it does to these two views:

* `find?_eq_none_iff`, `isNode_of_find?`, `nodes_sublist_of_find?` — what is found is one node of
  the list with what lies below it;
* `find?_text_iff`, `find?_mask_iff`, `exists_find?_element` — where no number is used twice, each
  node of the list is found;
* `mem_above_iff` — the elements above a node are those whose children hold it. -/

namespace TextMasking

/-- What a node is, apart from its number, its attributes and what lies below it. -/
inductive NodeKind where
  | text (content : String)
  | mask (mask : Mask)
  | element (tag : String)
  deriving DecidableEq, Repr

namespace Forest

/-- All nodes in document order, each with what it is. -/
def nodes : Forest → List (NodeId × NodeKind)
  | .nil => []
  | .text i s rest => (i, .text s) :: rest.nodes
  | .mask i m rest => (i, .mask m) :: rest.nodes
  | .element i t _ children rest => (i, .element t) :: (children.nodes ++ rest.nodes)

/-- The forest is the node `id` with what lies below it. -/
inductive IsNode (id : NodeId) : Forest → Prop
  | text (s : String) : IsNode id (.text id s .nil)
  | mask (m : Mask) : IsNode id (.mask id m .nil)
  | element (t : String) (a : Attributes) (children : Forest) :
      IsNode id (.element id t a children .nil)

/-- The node with a number, with what lies below it. -/
def find? (id : NodeId) : Forest → Option Forest
  | .nil => none
  | .text i s rest => if i = id then some (.text i s .nil) else rest.find? id
  | .mask i m rest => if i = id then some (.mask i m .nil) else rest.find? id
  | .element i t a children rest =>
    if i = id then some (.element i t a children .nil)
    else (children.find? id).or (rest.find? id)

/-- The nodes beside it are left out. -/
example :
    (Forest.element 1 "p" [] (.text 2 "a" .nil) (.text 3 "b" .nil)).find? 1 =
      some (.element 1 "p" [] (.text 2 "a" .nil) .nil) := by
  cbv

@[simp] theorem nodes_append (f g : Forest) : (f ++ g).nodes = f.nodes ++ g.nodes := by
  induction f with
  | nil => rfl
  | text i s rest ih => simp [nodes, ih]
  | mask i m rest ih => simp [nodes, ih]
  | element i t a c rest _ ih => simp [nodes, ih]

@[simp] theorem map_fst_nodes (f : Forest) : f.nodes.map Prod.fst = f.ids := by
  induction f with
  | nil => rfl
  | text i s rest ih => simp [nodes, ids, ih]
  | mask i m rest ih => simp [nodes, ids, ih]
  | element i t a c rest ihc ih => simp [nodes, ids, ihc, ih]

@[simp] theorem maskIds_append (f g : Forest) :
    (f ++ g).maskIds = f.maskIds ++ g.maskIds := by
  induction f with
  | nil => rfl
  | text i s rest ih => simp [maskIds, ih]
  | mask i m rest ih => simp [maskIds, ih]
  | element i t a c rest _ ih => simp [maskIds, ih]

theorem mem_ids_of_mem_nodes {f : Forest} {id : NodeId} {k : NodeKind} (h : (id, k) ∈ f.nodes) :
    id ∈ f.ids := by
  rw [← map_fst_nodes]
  exact List.mem_map_of_mem h

theorem mem_textIds_iff {f : Forest} {id : NodeId} :
    id ∈ f.textIds ↔ ∃ s, (id, .text s) ∈ f.nodes := by
  induction f with
  | nil => simp [textIds, nodes]
  | text i s rest ih => simp [textIds, nodes, ih, exists_or]
  | mask i m rest ih => simp [textIds, nodes, ih]
  | element i t a c rest ihc ih => simp [textIds, nodes, ihc, ih, exists_or]

theorem mem_maskIds_iff {f : Forest} {id : NodeId} :
    id ∈ f.maskIds ↔ ∃ m, (id, .mask m) ∈ f.nodes := by
  induction f with
  | nil => simp [maskIds, nodes]
  | text i s rest ih => simp [maskIds, nodes, ih]
  | mask i m rest ih => simp [maskIds, nodes, ih, exists_or]
  | element i t a c rest ihc ih => simp [maskIds, nodes, ihc, ih, exists_or]

theorem textIds_sublist (f : Forest) : f.textIds.Sublist f.ids := by
  induction f with
  | nil => exact List.Sublist.refl _
  | text i s rest ih => exact ih.cons_cons i
  | mask i m rest ih => exact ih.cons i
  | element i t a c rest ihc ih => exact (ihc.append ih).cons i

/-- Where no number is used twice, a number says what its node is. -/
theorem kind_unique {f : Forest} (hn : f.ids.Nodup) {id : NodeId} {k l : NodeKind}
    (hk : (id, k) ∈ f.nodes) (hl : (id, l) ∈ f.nodes) : k = l := by
  rw [← map_fst_nodes] at hn
  have h := List.inj_on_of_nodup_map hn hk hl rfl
  exact (Prod.mk.inj h).2

/-! ### Finding a node -/

theorem map_node_placeFrom (above : List Ancestor) (before : Forest) (id : NodeId) (f : Forest) :
    (placeFrom above before id f).map (·.node) = f.find? id := by
  induction f generalizing above before with
  | nil => rfl
  | text i s rest ih | mask i m rest ih =>
      rw [placeFrom, find?]
      split_ifs
      · rfl
      · exact ih _ _
  | element i t a c rest ihc ih =>
      rw [placeFrom, find?]
      split_ifs
      · rfl
      · rw [← ihc (⟨i, t, a⟩ :: above) .nil, ← ih above (.element i t a c before)]
        cases placeFrom (⟨i, t, a⟩ :: above) .nil id c <;> rfl

theorem map_node_place? (id : NodeId) (f : Forest) : (f.place? id).map (·.node) = f.find? id :=
  map_node_placeFrom [] .nil id f

theorem find?_eq_none_iff {f : Forest} {id : NodeId} : f.find? id = none ↔ id ∉ f.ids := by
  induction f with
  | nil => simp [find?, ids]
  | text i s rest ih => by_cases h : i = id <;> simp [find?, ids, h, ih, Ne.symm]
  | mask i m rest ih => by_cases h : i = id <;> simp [find?, ids, h, ih, Ne.symm]
  | element i t a c rest ihc ih =>
      by_cases h : i = id <;> simp [find?, ids, h, ihc, ih, Ne.symm]

theorem exists_find?_of_mem {f : Forest} {id : NodeId} (h : id ∈ f.ids) :
    ∃ n, f.find? id = some n := by
  cases hf : f.find? id with
  | some n => exact ⟨n, rfl⟩
  | none => exact absurd h (find?_eq_none_iff.mp hf)

theorem placeFrom_eq_none_iff {above : List Ancestor} {before f : Forest} {id : NodeId} :
    placeFrom above before id f = none ↔ id ∉ f.ids := by
  rw [← find?_eq_none_iff, ← map_node_placeFrom above before, Option.map_eq_none_iff]

theorem find?_append (f g : Forest) (id : NodeId) :
    (f ++ g).find? id = (f.find? id).or (g.find? id) := by
  induction f with
  | nil => rfl
  | text i s rest ih => by_cases h : i = id <;> simp [find?, h, ih]
  | mask i m rest ih => by_cases h : i = id <;> simp [find?, h, ih]
  | element i t a c rest _ ih => by_cases h : i = id <;> simp [find?, h, ih, Option.or_assoc]

theorem isNode_of_find? {f n : Forest} {id : NodeId} (h : f.find? id = some n) : IsNode id n := by
  induction f with
  | nil => cases h
  | text i s rest ih =>
      rw [find?] at h
      split_ifs at h with hi
      · cases h
        exact hi ▸ IsNode.text s
      · exact ih h
  | mask i m rest ih =>
      rw [find?] at h
      split_ifs at h with hi
      · cases h
        exact hi ▸ IsNode.mask m
      · exact ih h
  | element i t a c rest ihc ih =>
      rw [find?] at h
      split_ifs at h with hi
      · cases h
        exact hi ▸ IsNode.element t a c
      · rcases Option.or_eq_some_iff.mp h with h | ⟨_, h⟩
        · exact ihc h
        · exact ih h

/-- What is found is part of the forest. -/
theorem nodes_sublist_of_find? {f n : Forest} {id : NodeId} (h : f.find? id = some n) :
    n.nodes.Sublist f.nodes := by
  induction f with
  | nil => cases h
  | text i s rest ih | mask i m rest ih =>
      rw [find?] at h
      split_ifs at h
      · cases h
        exact (List.nil_sublist rest.nodes).cons_cons _
      · exact (ih h).cons _
  | element i t a c rest ihc ih =>
      rw [find?] at h
      split_ifs at h
      · cases h
        simp only [nodes, List.append_nil]
        exact (List.sublist_append_left c.nodes rest.nodes).cons_cons _
      · rcases Option.or_eq_some_iff.mp h with h | ⟨_, h⟩
        · exact ((ihc h).trans (List.sublist_append_left _ _)).cons _
        · exact ((ih h).trans (List.sublist_append_right _ _)).cons _

theorem ids_sublist_of_find? {f n : Forest} {id : NodeId} (h : f.find? id = some n) :
    n.ids.Sublist f.ids := by
  rw [← map_fst_nodes, ← map_fst_nodes]
  exact (nodes_sublist_of_find? h).map Prod.fst

theorem IsNode.mem_ids {f : Forest} {id : NodeId} (h : IsNode id f) : id ∈ f.ids := by
  cases h <;> simp [ids]

theorem mem_ids_of_find? {f n : Forest} {id : NodeId} (h : f.find? id = some n) :
    id ∈ f.ids :=
  (ids_sublist_of_find? h).subset (isNode_of_find? h).mem_ids

/-- Where no number is used twice, every node of the list is found. -/
theorem exists_find?_of_mem_nodes {f : Forest} (hn : f.ids.Nodup) {id : NodeId} {k : NodeKind}
    (h : (id, k) ∈ f.nodes) :
    ∃ n, f.find? id = some n ∧ IsNode id n ∧ (id, k) ∈ n.nodes.head? := by
  obtain ⟨n, hf⟩ := exists_find?_of_mem (mem_ids_of_mem_nodes h)
  have hs := (nodes_sublist_of_find? hf).subset
  refine ⟨n, hf, isNode_of_find? hf, ?_⟩
  cases isNode_of_find? hf with
  | text s => rw [kind_unique hn h (hs (by simp [nodes] : (id, .text s) ∈ _))]; rfl
  | mask m => rw [kind_unique hn h (hs (by simp [nodes] : (id, .mask m) ∈ _))]; rfl
  | element t a c => rw [kind_unique hn h (hs (by simp [nodes] : (id, .element t) ∈ _))]; rfl

theorem find?_text_iff {f : Forest} (hn : f.ids.Nodup) {id : NodeId} {s : String} :
    f.find? id = some (.text id s .nil) ↔ (id, .text s) ∈ f.nodes := by
  constructor
  · intro h
    exact (nodes_sublist_of_find? h).subset (by simp [nodes])
  · intro h
    obtain ⟨n, hf, hi, hk⟩ := exists_find?_of_mem_nodes hn h
    cases hi <;> simp_all [nodes]

theorem find?_mask_iff {f : Forest} (hn : f.ids.Nodup) {id : NodeId} {m : Mask} :
    f.find? id = some (.mask id m .nil) ↔ (id, .mask m) ∈ f.nodes := by
  constructor
  · intro h
    exact (nodes_sublist_of_find? h).subset (by simp [nodes])
  · intro h
    obtain ⟨n, hf, hi, hk⟩ := exists_find?_of_mem_nodes hn h
    cases hi <;> simp_all [nodes]

theorem exists_find?_element {f : Forest} (hn : f.ids.Nodup) {id : NodeId} {t : String}
    (h : (id, .element t) ∈ f.nodes) : ∃ a c, f.find? id = some (.element id t a c .nil) := by
  obtain ⟨n, hf, hi, hk⟩ := exists_find?_of_mem_nodes hn h
  cases hi <;> simp_all [nodes]

/-! ### What lies above a node -/

/-- The node `id` lies below the element `x`. -/
def Below (f : Forest) (x id : NodeId) : Prop :=
  ∃ t a c, f.find? x = some (.element x t a c .nil) ∧ id ∈ c.ids

theorem Below.mem_ids {f : Forest} {x id : NodeId} (h : f.Below x id) : id ∈ f.ids := by
  obtain ⟨t, a, c, hf, hid⟩ := h
  exact (ids_sublist_of_find? hf).subset (by simp [ids, hid])

theorem Below.mem_ids_above {f : Forest} {x id : NodeId} (h : f.Below x id) : x ∈ f.ids := by
  obtain ⟨t, a, c, hf, _⟩ := h
  exact mem_ids_of_find? hf

theorem below_text {i x id : NodeId} {s : String} {rest : Forest} :
    (text i s rest).Below x id ↔ i ≠ x ∧ rest.Below x id := by
  unfold Below
  by_cases h : i = x <;> simp [find?, h]

theorem below_mask {i x id : NodeId} {m : Mask} {rest : Forest} :
    (mask i m rest).Below x id ↔ i ≠ x ∧ rest.Below x id := by
  unfold Below
  by_cases h : i = x <;> simp [find?, h]

theorem below_element {i x id : NodeId} {t : String} {a : Attributes} {c rest : Forest} :
    (element i t a c rest).Below x id ↔
      i = x ∧ id ∈ c.ids ∨ i ≠ x ∧ (c.Below x id ∨ x ∉ c.ids ∧ rest.Below x id) := by
  unfold Below
  by_cases h : i = x
  · subst h
    simp [find?]
  · simp only [find?, if_neg h, Option.or_eq_some_iff, find?_eq_none_iff]
    simp only [h, ne_eq, not_false_eq_true, true_and, false_and, false_or]
    constructor
    · rintro ⟨t', a', c', hf | ⟨hx, hf⟩, hid⟩
      · exact .inl ⟨t', a', c', hf, hid⟩
      · exact .inr ⟨hx, t', a', c', hf, hid⟩
    · rintro (⟨t', a', c', hf, hid⟩ | ⟨hx, t', a', c', hf, hid⟩)
      · exact ⟨t', a', c', .inl hf, hid⟩
      · exact ⟨t', a', c', .inr ⟨hx, hf⟩, hid⟩

/-- The elements above a node of a forest are the given ones and those that it lies below. -/
theorem mem_above_iff {f : Forest} (hn : f.ids.Nodup) {above : List Ancestor} {before : Forest}
    {id x : NodeId} {p : Place} (h : placeFrom above before id f = some p) :
    x ∈ p.above.map (·.id) ↔ x ∈ above.map (·.id) ∨ f.Below x id := by
  induction f generalizing above before with
  | nil => cases h
  | text i s rest ih =>
      obtain ⟨hi, hn⟩ := List.nodup_cons.mp hn
      rw [below_text]
      rw [placeFrom] at h
      split_ifs at h with e
      · cases h
        have : ¬ rest.Below x id := fun hb => hi (e ▸ hb.mem_ids)
        simp [this]
      · rw [ih hn h]
        have : rest.Below x id → i ≠ x := by
          rintro hb rfl
          exact hi hb.mem_ids_above
        tauto
  | mask i m rest ih =>
      obtain ⟨hi, hn⟩ := List.nodup_cons.mp hn
      rw [below_mask]
      rw [placeFrom] at h
      split_ifs at h with e
      · cases h
        have : ¬ rest.Below x id := fun hb => hi (e ▸ hb.mem_ids)
        simp [this]
      · rw [ih hn h]
        have : rest.Below x id → i ≠ x := by
          rintro hb rfl
          exact hi hb.mem_ids_above
        tauto
  | element i t a c rest ihc ih =>
      obtain ⟨hi, hn⟩ := List.nodup_cons.mp hn
      obtain ⟨hc, hr, hcr⟩ := List.nodup_append.mp hn
      simp only [List.mem_append, not_or] at hi
      rw [below_element]
      rw [placeFrom] at h
      split_ifs at h with e
      · cases h
        have h₁ : ¬ c.Below x id := fun hb => hi.1 (e ▸ hb.mem_ids)
        have h₂ : ¬ rest.Below x id := fun hb => hi.2 (e ▸ hb.mem_ids)
        have h₃ : id ∉ c.ids := e ▸ hi.1
        simp [h₁, h₂, h₃]
      · cases hp : placeFrom (⟨i, t, a⟩ :: above) .nil id c with
        | some q =>
            rw [hp] at h
            cases h
            have hid : id ∈ c.ids := by
              by_contra hno
              rw [placeFrom_eq_none_iff.mpr hno] at hp
              cases hp
            have h₁ : ¬ rest.Below x id := fun hb => hcr id hid id hb.mem_ids rfl
            have h₂ : c.Below x id → i ≠ x := by
              rintro hb rfl
              exact hi.1 hb.mem_ids_above
            rw [ihc hc hp, List.map_cons, List.mem_cons]
            have : x = i ↔ i = x := eq_comm
            tauto
        | none =>
            rw [hp] at h
            have hid := placeFrom_eq_none_iff.mp hp
            have h₁ : ¬ c.Below x id := fun hb => hid hb.mem_ids
            have h₂ : rest.Below x id → i ≠ x ∧ x ∉ c.ids := by
              intro hb
              refine ⟨?_, fun hx => hcr x hx x hb.mem_ids_above rfl⟩
              rintro rfl
              exact hi.2 hb.mem_ids_above
            rw [ih hr h]
            tauto

end Forest

end TextMasking
