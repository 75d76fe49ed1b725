import TextMasking.Proofs.Document.Edits

/-! # What lies below an element while masks come and go

Taking a text apart and turning a mask back act on the children of every element as they act on a
forest (`tree?_replaceText`, `tree?_unmask`).  So each mask that is made below the root is counted
there (`length_maskIds_replaceText`), and one that is turned back is gone (`maskIds_unmask`). -/

namespace TextMasking

namespace Forest

/-! ### Elements are found as before -/

theorem mem_ids_of_mem_splice {f leaves : Forest} {id x : NodeId}
    (h : x ∈ (splice id leaves f).ids) : x ∈ f.ids ∨ x ∈ leaves.ids := by
  induction f with
  | nil => exact .inl h
  | text i s rest ih =>
      rw [splice] at h
      split_ifs at h
      · rw [ids_append, List.mem_append] at h
        exact h.symm.imp_left (List.mem_cons_of_mem _)
      · rcases List.mem_cons.mp h with rfl | h
        · exact .inl List.mem_cons_self
        · exact (ih h).imp_left (List.mem_cons_of_mem _)
  | mask i m rest ih =>
      rcases List.mem_cons.mp h with rfl | h
      · exact .inl List.mem_cons_self
      · exact (ih h).imp_left (List.mem_cons_of_mem _)
  | element i t a c rest ihc ih =>
      simp only [splice, ids, List.mem_cons, List.mem_append] at h ⊢
      rcases h with h | h | h
      · exact .inl (.inl h)
      · exact (ihc h).imp_left fun h => .inr (.inl h)
      · exact (ih h).imp_left fun h => .inr (.inr h)

theorem find?_splice {f leaves c : Forest} (id : NodeId) {x : NodeId} {t : String}
    {a : Attributes} (hn : f.ids.Nodup) (hx : x ∉ leaves.ids)
    (h : f.find? x = some (.element x t a c .nil)) :
    (splice id leaves f).find? x = some (.element x t a (splice id leaves c) .nil) := by
  induction f with
  | nil => cases h
  | text i s rest ih =>
      obtain ⟨hi, hn⟩ := List.nodup_cons.mp hn
      rw [find?] at h
      split_ifs at h with e
      · cases h
      rw [splice]
      split_ifs with e'
      · have hc : splice id leaves c = c := by
          refine splice_of_not_mem fun hid => hi (e' ▸ (ids_sublist_of_find? h).subset ?_)
          simp [ids, hid]
        rw [find?_append, find?_eq_none_iff.mpr hx, Option.none_or, h, hc]
      · rw [find?, if_neg e, ih hn h]
  | mask i m rest ih =>
      rw [find?] at h
      split_ifs at h with e
      · cases h
      rw [splice, find?, if_neg e, ih (List.nodup_cons.mp hn).2 h]
  | element i t' a' c' rest ihc ih =>
      obtain ⟨hc, hr, hcr⟩ := List.nodup_append.mp (List.nodup_cons.mp hn).2
      rw [find?] at h
      rw [splice, find?]
      split_ifs at h ⊢ with e
      · cases h
        rfl
      · rcases Option.or_eq_some_iff.mp h with h | ⟨hnone, h⟩
        · rw [ihc hc h, Option.some_or]
        · have hxc : x ∉ (splice id leaves c').ids := fun hmem =>
            (mem_ids_of_mem_splice hmem).elim (find?_eq_none_iff.mp hnone) hx
          rw [find?_eq_none_iff.mpr hxc, Option.none_or, ih hr h]

theorem ids_takeText_subset (f : Forest) : f.takeText.2.ids ⊆ f.ids := by
  cases f <;> simp [takeText, ids]

theorem mem_ids_of_mem_unmask {f : Forest} {id fresh x : NodeId}
    (h : x ∈ (f.unmask id fresh).ids) : x ∈ f.ids ∨ x = fresh := by
  induction f with
  | nil => exact .inl h
  | text i s rest ih =>
      by_cases hm : ∃ m more, rest = .mask id m more
      · obtain ⟨m, more, rfl⟩ := hm
        rw [unmask_text_mask] at h
        rcases List.mem_cons.mp h with rfl | h
        · exact .inl List.mem_cons_self
        · have := ids_takeText_subset more h
          exact .inl (by simp [ids, this])
      · rw [unmask_text fun m more e => hm ⟨m, more, e⟩] at h
        rcases List.mem_cons.mp h with rfl | h
        · exact .inl List.mem_cons_self
        · exact (ih h).imp_left (List.mem_cons_of_mem _)
  | mask i m rest ih =>
      rw [unmask] at h
      split_ifs at h
      · rcases List.mem_cons.mp h with rfl | h
        · exact .inr rfl
        · exact .inl (List.mem_cons_of_mem _ (ids_takeText_subset rest h))
      · rcases List.mem_cons.mp h with rfl | h
        · exact .inl List.mem_cons_self
        · exact (ih h).imp_left (List.mem_cons_of_mem _)
  | element i t a c rest ihc ih =>
      simp only [unmask, ids, List.mem_cons, List.mem_append] at h ⊢
      rcases h with h | h | h
      · exact .inl (.inl h)
      · exact (ihc h).imp_left fun h => .inr (.inl h)
      · exact (ih h).imp_left fun h => .inr (.inr h)

/-- Taking away the text in front does not lose an element. -/
theorem find?_takeText {f n : Forest} {x : NodeId} (h : f.find? x = some n)
    (hn : ∀ s, n ≠ .text x s .nil) : f.takeText.2.find? x = some n := by
  cases f with
  | text i s rest =>
      rw [find?] at h
      split_ifs at h with e
      · cases h
        exact absurd (e ▸ rfl) (hn s)
      · exact h
  | nil => exact h
  | mask => exact h
  | element => exact h

theorem find?_unmask {f c : Forest} (id : NodeId) {fresh x : NodeId} {t : String}
    {a : Attributes} (hn : f.ids.Nodup) (hx : x ≠ fresh)
    (h : f.find? x = some (.element x t a c .nil)) :
    (f.unmask id fresh).find? x = some (.element x t a (c.unmask id fresh) .nil) := by
  induction f with
  | nil => cases h
  | text i s rest ih =>
      obtain ⟨hi, hn⟩ := List.nodup_cons.mp hn
      rw [find?] at h
      split_ifs at h with e
      · cases h
      by_cases hm : ∃ m more, rest = .mask id m more
      · obtain ⟨m, more, rfl⟩ := hm
        have := ih hn h
        rw [unmask, if_pos rfl, find?, if_neg (Ne.symm hx)] at this
        rw [unmask_text_mask, find?, if_neg e, this]
      · rw [unmask_text fun m more e => hm ⟨m, more, e⟩, find?, if_neg e, ih hn h]
  | mask i m rest ih =>
      obtain ⟨hi, hn⟩ := List.nodup_cons.mp hn
      rw [find?] at h
      split_ifs at h with e
      · cases h
      rw [unmask]
      split_ifs with e'
      · have hc : c.unmask id fresh = c := by
          refine unmask_of_not_mem fun hid => hi (e' ▸ (ids_sublist_of_find? h).subset ?_)
          simp [ids, hid]
        rw [find?, if_neg (Ne.symm hx), hc]
        exact find?_takeText h (by simp)
      · rw [find?, if_neg e, ih hn h]
  | element i t' a' c' rest ihc ih =>
      obtain ⟨hc, hr, hcr⟩ := List.nodup_append.mp (List.nodup_cons.mp hn).2
      rw [find?] at h
      rw [unmask, find?]
      split_ifs at h ⊢ with e
      · cases h
        rfl
      · rcases Option.or_eq_some_iff.mp h with h | ⟨hnone, h⟩
        · rw [ihc hc h, Option.some_or]
        · have hxc : x ∉ (c'.unmask id fresh).ids := fun hmem =>
            (mem_ids_of_mem_unmask hmem).elim (find?_eq_none_iff.mp hnone) hx
          rw [find?_eq_none_iff.mpr hxc, Option.none_or, ih hr h]

/-! ### Masks among the nodes -/

/-- The number of a mask. -/
def maskId? : NodeId × NodeKind → Option NodeId
  | (i, .mask _) => some i
  | _ => none

theorem maskIds_eq_filterMap (f : Forest) : f.maskIds = f.shapes.filterMap maskId? := by
  induction f with
  | nil => rfl
  | text i s rest ih => exact ih
  | mask i m rest ih => exact congrArg (i :: ·) ih
  | element i t a c rest ihc ih =>
      rw [maskIds, ihc, ih, ← List.filterMap_append, shapes, shapes, ← List.map_append]
      rfl

/-- A text that is replaced brings the masks among the leaves. -/
theorem maskIds_splice_perm {f leaves : Forest} {id : NodeId} {s : String} (hn : f.ids.Nodup)
    (h : (id, .text s) ∈ f.nodes) :
    (splice id leaves f).maskIds.Perm (f.maskIds ++ leaves.maskIds) := by
  have := ((nodes_splice_perm leaves hn h).map
    fun n => (n.1, n.2.shape)).filterMap maskId?
  have htext : ([(id, NodeKind.text s)].map fun n => (n.1, n.2.shape)).filterMap maskId? = [] := rfl
  rw [List.map_append, List.map_append, List.filterMap_append, List.filterMap_append, htext,
    List.append_nil] at this
  rw [maskIds_eq_filterMap, maskIds_eq_filterMap, maskIds_eq_filterMap]
  exact this

/-- A mask that is turned back is gone, and the others stay. -/
theorem maskIds_unmask_perm {f : Forest} {id fresh : NodeId} (hn : f.ids.Nodup)
    (h : id ∈ f.maskIds) : ((f.unmask id fresh).maskIds ++ [id]).Perm f.maskIds := by
  obtain ⟨m, hm⟩ := mem_maskIds_iff.mp h
  have hnode := map_node_place? id f
  rw [(find?_mask_iff hn).mpr hm] at hnode
  obtain ⟨p, hp, hpm⟩ := Option.map_eq_some_iff.mp hnode
  have := (shapes_unmask_perm fresh hn hp hpm fun _ _ _ => rfl).filterMap maskId?
  have hhead : p.after.headText.filterMap maskId? = [] := by cases p.after <;> rfl
  have hnew : (if p.before.headText = [] then [(fresh, NodeKind.text "")] else []).filterMap
      maskId? = [] := by split_ifs <;> rfl
  rw [List.filterMap_append, List.filterMap_append, List.filterMap_append, hhead, hnew,
    ← maskIds_eq_filterMap, ← maskIds_eq_filterMap] at this
  simpa [maskId?] using this

/-- Where no mask is left, the forest shows what it reads as. -/
theorem shown_eq_unmasked {f : Forest} (h : f.maskIds = []) : f.shown = f.unmasked := by
  induction f with
  | nil => rfl
  | text i s rest ih => rw [shown, unmasked, ih h]
  | mask i m rest ih => cases h
  | element i t a c rest ihc ih =>
      obtain ⟨hc, hr⟩ := List.append_eq_nil_iff.mp h
      rw [shown, unmasked, ihc hc, ih hr]

end Forest

namespace Document

/-! ### Elements of a document -/

theorem maskIds_of_tree? {d : Document} {x : NodeId} {t : String} {a : Attributes} {c : Forest}
    (h : d.tree? x = some (.element x t a c .nil)) : d.maskIds x = c.maskIds := by
  rw [maskIds, h, Option.getD_some, Forest.maskIds, Forest.maskIds, List.append_nil]

theorem WellFormed.nodup_of_element {d : Document} (wf : d.WellFormed) {x : NodeId} {t : String}
    {a : Attributes} {c : Forest} (h : d.tree? x = some (.element x t a c .nil)) : c.ids.Nodup :=
  Forest.nodup_children (wf.nodup_of_tree? h)

/-- The children of an element after a text was taken apart. -/
theorem tree?_replaceText {d d' : Document} {id x : NodeId} {fragments : List Fragment}
    {new : List NodeId} {t : String} {a : Attributes} {c : Forest} (wf : d.WellFormed)
    (h : d.replaceText id fragments = .ok (new, d'))
    (hx : d.tree? x = some (.element x t a c .nil)) :
    d'.tree? x = some (.element x t a
      (Forest.splice id (Fragment.toForest d.fresh fragments) c) .nil) := by
  obtain ⟨f, hf, hxf, hfind⟩ := exists_tree_of_tree? hx
  have hleaves : x ∉ (Fragment.toForest d.fresh fragments).ids := by
    rw [Fragment.ids_toForest, List.mem_range'_1]
    exact fun hle => Nat.not_le_of_lt (wf.mem_ids_iff.mp (mem_ids_of_tree? hx)) hle.1
  have hfind' := Forest.find?_splice id (wf.tree_nodup hf) hleaves hfind
  obtain ⟨p, s, -, -, -, -, ht, -⟩ := replaceText_cases h
  have wf' := (Extends.replaceText wf h).wellFormed wf
  rw [wf'.tree?_of_mem (t := Forest.splice id _ f) (by rw [ht]; simp; exact .inl ⟨f, hf, rfl⟩)
    (Forest.mem_ids_of_find? hfind'), hfind']

/-- The children of an element after a mask was turned back. -/
theorem tree?_unmask {d d' : Document} {id x new : NodeId} {t : String} {a : Attributes}
    {c : Forest} (wf : d.WellFormed) (h : d.unmask id = .ok (new, d'))
    (hx : d.tree? x = some (.element x t a c .nil)) :
    d'.tree? x = some (.element x t a (c.unmask id d.fresh) .nil) := by
  obtain ⟨f, hf, hxf, hfind⟩ := exists_tree_of_tree? hx
  have hfresh : x ≠ d.fresh := by
    rintro rfl
    exact wf.fresh_not_mem (mem_ids_of_tree? hx)
  have hfind' := Forest.find?_unmask id (wf.tree_nodup hf) hfresh hfind
  obtain ⟨p, m, joined, hp, -, -, -, -, ht, -⟩ := unmask_cases h
  have wf' := (Extends.unmask wf hp h).wellFormed wf
  rw [wf'.tree?_of_mem (t := f.unmask id d.fresh) (by rw [ht]; simp; exact .inl ⟨f, hf, rfl⟩)
    (Forest.mem_ids_of_find? hfind'), hfind']

/-! ### Masks below the root -/

/-- The masks that a text was taken apart into are all below the root. -/
theorem length_maskIds_replaceText {d d' : Document} {id : NodeId} {fragments : List Fragment}
    {new : List NodeId} (wf : d.WellFormed) (h : d.replaceText id fragments = .ok (new, d')) :
    (d'.maskIds root).length =
      (d.maskIds root).length + (Fragment.toForest d.fresh fragments).maskIds.length := by
  obtain ⟨t, a, c, hroot⟩ := wf.exists_tree?_root
  obtain ⟨p, s, hp, hnode, -, hatt, -, -⟩ := replaceText_cases h
  have htext := tree?_of_place? hp
  rw [hnode] at htext
  have hid : (id, .text s) ∈ c.nodes := by
    rcases (wf.attached_iff hroot).mp hatt with rfl | hid
    · rw [hroot] at htext
      cases htext
    · exact wf.mem_nodes_children hroot (wf.tree?_text_iff.mp htext) hid
  rw [maskIds_of_tree? (tree?_replaceText wf h hroot), maskIds_of_tree? hroot,
    (Forest.maskIds_splice_perm (wf.nodup_of_element hroot) hid).length_eq, List.length_append]

/-- A mask below the root is turned back. -/
theorem maskIds_unmask {d : Document} {id : NodeId} (wf : d.WellFormed)
    (h : id ∈ d.maskIds root) : ∃ new d', d.unmask id = .ok (new, d') ∧
      (d'.maskIds root ++ [id]).Perm (d.maskIds root) := by
  obtain ⟨t, a, c, hroot⟩ := wf.exists_tree?_root
  rw [maskIds_of_tree? hroot] at h ⊢
  obtain ⟨m, hm⟩ := Forest.mem_maskIds_iff.mp h
  have hid : d.tree? id = some (.mask id m .nil) :=
    wf.tree?_mask_iff.mpr (nodes_subset_of_tree? hroot (by simp [Forest.nodes, hm]))
  obtain ⟨p, hp, hpm⟩ := Option.map_eq_some_iff.mp hid
  have habove : p.above ≠ [] := by
    have hroot' : root ∈ d.above id :=
      wf.mem_above_iff.mpr ⟨t, a, c, hroot, Forest.mem_ids_of_mem_nodes hm⟩
    rw [above, hp] at hroot'
    rintro e
    simp [e] at hroot'
  obtain ⟨new, d', hd'⟩ := exists_unmask hp hpm habove
  refine ⟨new, d', hd', ?_⟩
  rw [maskIds_of_tree? (tree?_unmask wf hd' hroot)]
  exact Forest.maskIds_unmask_perm (wf.nodup_of_element hroot) h

end Document

end TextMasking
