import TextMasking.Proofs.Document.Attached
import TextMasking.Proofs.Document.Spots

/-! # Children

The children of an element are the nodes whose parent it is (`WellFormed.mem_children_iff`), and
what is below the element lies at or below exactly one of them (`WellFormed.exists_child`,
`WellFormed.child_unique`). -/

namespace TextMasking

namespace Forest

theorem siblings_sublist (f : Forest) : f.siblings.Sublist f.ids := by
  induction f with
  | nil => exact .refl _
  | text i s rest ih => exact ih.cons_cons i
  | mask i m rest ih => exact ih.cons_cons i
  | element i t a c rest _ ih => exact (ih.trans (List.sublist_append_right _ _)).cons_cons i

theorem exists_spot_of_mem_siblings {f : Forest} {i : NodeId} (h : i ∈ f.siblings)
    (above : List Ancestor) : ∃ e, (i, ⟨above, e⟩) ∈ f.spotsFrom above := by
  induction f with
  | nil => cases h
  | text j s rest ih | mask j m rest ih =>
      rcases List.mem_cons.mp h with rfl | h
      · exact ⟨_, List.mem_cons_self⟩
      · exact (ih h).imp fun e => List.mem_cons_of_mem _
  | element j t a c rest _ ih =>
      rcases List.mem_cons.mp h with rfl | h
      · exact ⟨_, List.mem_cons_self⟩
      · exact (ih h).imp fun e he => List.mem_cons_of_mem _ (List.mem_append_right _ he)

variable {f g : Forest} {x i : NodeId} {t : String} {a : Attributes} {s : Spot}

/-- The first nodes in an element have it right above them. -/
theorem exists_spot_of_find? (h : f.find? x = some (.element x t a g .nil)) (hi : i ∈ g.siblings)
    (above : List Ancestor) :
    ∃ rest e, (i, ⟨⟨x, t, a⟩ :: rest, e⟩) ∈ f.spotsFrom above := by
  induction f generalizing above with
  | nil => cases h
  | text j c rest ih | mask j m rest ih =>
      rw [find?] at h
      split_ifs at h
      · cases h
      · obtain ⟨above', e, hmem⟩ := ih h above
        exact ⟨above', e, List.mem_cons_of_mem _ hmem⟩
  | element j t' a' c rest ihc ih =>
      rw [find?] at h
      split_ifs at h
      · cases h
        obtain ⟨e, hmem⟩ := exists_spot_of_mem_siblings hi (⟨x, t, a⟩ :: above)
        exact ⟨above, e, List.mem_cons_of_mem _ (List.mem_append_left _ hmem)⟩
      · rcases Option.or_eq_some_iff.mp h with h | ⟨-, h⟩
        · obtain ⟨above', e, hmem⟩ := ihc h (⟨j, t', a'⟩ :: above)
          exact ⟨above', e, List.mem_cons_of_mem _ (List.mem_append_left _ hmem)⟩
        · obtain ⟨above', e, hmem⟩ := ih h above
          exact ⟨above', e, List.mem_cons_of_mem _ (List.mem_append_right _ hmem)⟩

/-- Where no number is used twice, a node is one of the first ones of the forest or of an element in
it. -/
theorem sibling_or_child {above : List Ancestor} (hn : f.ids.Nodup)
    (h : (i, s) ∈ f.spotsFrom above) : i ∈ f.siblings ∧ s.above = above ∨
      ∃ b rest g, s.above = b :: rest ∧
        f.find? b.id = some (.element b.id b.tag b.attributes g .nil) ∧ i ∈ g.siblings := by
  induction f generalizing above with
  | nil => cases h
  | text j c rest ih | mask j m rest ih =>
      obtain ⟨hj, hn⟩ := List.nodup_cons.mp hn
      rcases List.mem_cons.mp h with e | h
      · cases e
        exact .inl ⟨List.mem_cons_self, rfl⟩
      · refine (ih hn h).imp (fun h => ⟨List.mem_cons_of_mem _ h.1, h.2⟩) ?_
        rintro ⟨b, above', g, habove, hfind, hi⟩
        have hne : j ≠ b.id := fun e => hj (e ▸ mem_ids_of_find? hfind)
        exact ⟨b, above', g, habove, by rw [find?, if_neg hne, hfind], hi⟩
  | element j t a c rest ihc ih =>
      obtain ⟨hj, hn⟩ := List.nodup_cons.mp hn
      obtain ⟨hc, hr, hcr⟩ := List.nodup_append.mp hn
      rcases List.mem_cons.mp h with e | h
      · cases e
        exact .inl ⟨List.mem_cons_self, rfl⟩
      · rcases List.mem_append.mp h with h | h
        · rcases ihc hc h with ⟨hi, habove⟩ | ⟨b, above', g, habove, hfind, hi⟩
          · exact .inr ⟨⟨j, t, a⟩, above, c, habove, by rw [find?, if_pos rfl], hi⟩
          · have hmem := List.mem_append_left rest.ids (mem_ids_of_find? hfind)
            have hne : j ≠ b.id := fun e => hj (e ▸ hmem)
            exact .inr ⟨b, above', g, habove, by rw [find?, if_neg hne, hfind, Option.some_or], hi⟩
        · refine (ih hr h).imp (fun h => ⟨List.mem_cons_of_mem _ h.1, h.2⟩) ?_
          rintro ⟨b, above', g, habove, hfind, hi⟩
          have hmem := List.mem_append_right c.ids (mem_ids_of_find? hfind)
          have hne : j ≠ b.id := fun e => hj (e ▸ hmem)
          have hno : c.find? b.id = none :=
            find?_eq_none_iff.mpr fun hb => hcr b.id hb b.id (mem_ids_of_find? hfind) rfl
          exact ⟨b, above', g, habove, by rw [find?, if_neg hne, hno, hfind, Option.none_or], hi⟩

end Forest

namespace Document

theorem mem_children_iff_tree? {d : Document} {x c : NodeId} :
    c ∈ d.children x ↔ ∃ t a g, d.tree? x = some (.element x t a g .nil) ∧ c ∈ g.siblings := by
  rw [children]
  cases h : d.tree? x with
  | none => simp
  | some n => cases isNode_of_tree? h <;> simp

theorem isSome_tag?_iff {d : Document} {x : NodeId} :
    (d.tag? x).isSome ↔ ∃ t a g, d.tree? x = some (.element x t a g .nil) := by
  rw [tag?]
  cases h : d.tree? x with
  | none => simp
  | some n => cases isNode_of_tree? h <;> simp

namespace WellFormed

variable {d : Document} (wf : d.WellFormed) {x c c' id : NodeId}
include wf

theorem above_of_mem_children (h : c ∈ d.children x) : d.above c = x :: d.above x := by
  obtain ⟨t, a, g, hx, hc⟩ := mem_children_iff_tree?.mp h
  obtain ⟨f, hf, -, hfind⟩ := exists_tree_of_tree? hx
  obtain ⟨rest, e, hmem⟩ := Forest.exists_spot_of_find? hfind hc []
  have hs : (c, ⟨⟨x, t, a⟩ :: rest, e⟩) ∈ d.spots := List.mem_flatMap.mpr ⟨f, hf, hmem⟩
  rw [wf.above_of_mem_spots hs,
    wf.above_of_mem_spots (mem_spots_of_suffix hs List.suffix_rfl), List.map_cons]

theorem mem_above_of_mem_children (h : c ∈ d.children x) : x ∈ d.above c :=
  wf.above_of_mem_children h ▸ List.mem_cons_self

theorem attached_of_mem_children (h : c ∈ d.children x) (hx : d.attached x = true) :
    d.attached c = true := by
  have habove := wf.mem_above_of_mem_children h
  refine attached_iff_mem.mpr (.inr ?_)
  rcases attached_iff_mem.mp hx with rfl | hroot
  · exact habove
  · exact wf.above_subset habove hroot

/-- The children of an element are the nodes whose parent it is. -/
theorem mem_children_iff : c ∈ d.children x ↔ d.parent? c = some x := by
  constructor
  · intro h
    rw [parent?, wf.above_of_mem_children h, List.head?_cons]
  · intro h
    have hc : c ∈ d.ids := mem_ids_of_mem_above (List.mem_of_mem_head? h)
    obtain ⟨s, hs⟩ := exists_spot hc
    rw [parent?, wf.above_of_mem_spots hs] at h
    obtain ⟨f, hf, hmem⟩ := List.mem_flatMap.mp hs
    rcases Forest.sibling_or_child (wf.tree_nodup hf) hmem with ⟨-, hnil⟩ | ⟨b, rest, g, habove,
      hfind, hi⟩
    · rw [hnil] at h
      cases h
    · rw [habove] at h
      obtain rfl : b.id = x := Option.some.inj h
      have htree := wf.tree?_of_mem hf (Forest.mem_ids_of_find? hfind)
      exact mem_children_iff_tree?.mpr ⟨_, _, g, htree.trans hfind, hi⟩

theorem children_nodup (x : NodeId) : (d.children x).Nodup := by
  rw [children]
  cases h : d.tree? x with
  | none => exact List.nodup_nil
  | some n =>
      cases isNode_of_tree? h with
      | text s => exact List.nodup_nil
      | mask m => exact List.nodup_nil
      | element t a g => exact (wf.nodup_of_element h).sublist g.siblings_sublist

/-- What is below an element lies at or below one of its children. -/
theorem exists_child (h : x ∈ d.above id) : ∃ c ∈ d.children x, id = c ∨ c ∈ d.above id := by
  obtain ⟨s, hs⟩ := exists_spot (mem_ids_of_mem_above h)
  have habove := wf.above_of_mem_spots hs
  rw [habove] at h ⊢
  obtain ⟨b, hb, rfl⟩ := List.mem_map.mp h
  obtain ⟨pre, rest, e⟩ := List.append_of_mem hb
  rcases List.eq_nil_or_concat pre with rfl | ⟨pre', b', rfl⟩
  · refine ⟨id, wf.mem_children_iff.mpr ?_, .inl rfl⟩
    rw [parent?, habove, e]
    rfl
  · rw [List.concat_eq_append, List.append_assoc, List.singleton_append] at e
    refine ⟨b'.id, wf.mem_children_iff.mpr ?_, .inr ?_⟩
    · rw [parent?, wf.above_of_mem_spots (mem_spots_of_suffix hs ⟨pre', e.symm⟩)]
      rfl
    · rw [e]
      simp

theorem child_unique (hc : c ∈ d.children x) (hc' : c' ∈ d.children x)
    (h : id = c ∨ c ∈ d.above id) (h' : id = c' ∨ c' ∈ d.above id) : c = c' := by
  have hnot {a b : NodeId} (ha : a ∈ d.children x) (hb : b ∈ d.children x) : a ∉ d.above b := by
    intro hab
    have hxa := wf.mem_above_of_mem_children ha
    rw [wf.above_of_mem_children hb] at hab
    rcases List.mem_cons.mp hab with rfl | hab
    · exact wf.not_mem_above_self hxa
    · exact wf.not_mem_above_self (wf.above_subset hab hxa)
  rcases wf.comparable h h' with e | hab | hab
  · exact e
  · exact absurd hab (hnot hc hc')
  · exact absurd hab (hnot hc' hc)

end WellFormed

/-! ### What is below a node -/

/-- A node and all nodes below it. -/
def subtree (d : Document) (x : NodeId) : List NodeId :=
  ((d.tree? x).getD .nil).ids

theorem WellFormed.mem_subtree_iff {d : Document} (wf : d.WellFormed) {x id : NodeId} :
    id ∈ d.subtree x ↔ id ∈ d.ids ∧ (id = x ∨ x ∈ d.above id) := by
  rw [subtree, wf.mem_above_iff, Below]
  cases hx : d.tree? x with
  | none =>
      simp only [Option.getD_none, Forest.ids, List.not_mem_nil, reduceCtorEq, false_and,
        exists_false, or_false, false_iff, not_and]
      rintro hid rfl
      exact tree?_eq_none_iff.mp hx hid
  | some n =>
      have hmem := mem_ids_of_tree? hx
      rw [Option.getD_some]
      cases isNode_of_tree? hx with
      | text s | mask m =>
          simp only [Forest.ids, List.mem_singleton, Option.some.injEq, reduceCtorEq, false_and,
            exists_false, or_false, iff_and_self]
          rintro rfl
          exact hmem
      | element t a c =>
          have hsub : c.ids ⊆ d.ids := by
            intro i hi
            rw [← Forest.map_fst_nodes] at hi
            obtain ⟨⟨i, k⟩, hk, rfl⟩ := List.mem_map.mp hi
            exact mem_ids_of_mem_nodes
              (nodes_subset_of_tree? hx (List.mem_cons_of_mem _ (List.mem_append_left _ hk)))
          simp only [Forest.ids, List.append_nil, List.mem_cons, Option.some.injEq,
            Forest.element.injEq, true_and, and_true]
          constructor
          · rintro (rfl | hid)
            · exact ⟨hmem, .inl rfl⟩
            · exact ⟨hsub hid, .inr ⟨t, a, c, ⟨rfl, rfl, rfl⟩, hid⟩⟩
          · rintro ⟨-, rfl | ⟨t', a', c', ⟨rfl, rfl, rfl⟩, hid⟩⟩
            · exact .inl rfl
            · exact .inr hid

end Document

end TextMasking
