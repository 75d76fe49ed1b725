import TextMasking.Masking.Pass
import TextMasking.Proofs.Document.Attached
import TextMasking.Proofs.Document.Outline

/-! # Documents that differ in masks only

Taking texts apart and turning masks back keep the nodes, the outlines and the texts without a
parent (`Document.Remasked`).  Restoring a document turns back every mask below the root
(`Document.restore_root`). -/

namespace TextMasking

namespace Document

/-- The documents differ in what is masked only: every node is kept, the elements and the texts
between them are the same, and texts without a parent stay as they are. -/
structure Remasked (d d' : Document) : Prop where
  wellFormed : d'.WellFormed
  shapes_subset : d.shapes ⊆ d'.shapes
  outlines_eq : d'.outlines = d.outlines
  loose : ∀ id s, Forest.text id s .nil ∈ d.trees → Forest.text id s .nil ∈ d'.trees

namespace Remasked

variable {d d' d'' : Document}

theorem refl (wf : d.WellFormed) : Remasked d d :=
  ⟨wf, List.Subset.refl _, rfl, fun _ _ => id⟩

theorem trans (h : Remasked d d') (h' : Remasked d' d'') : Remasked d d'' where
  wellFormed := h'.wellFormed
  shapes_subset := List.Subset.trans h.shapes_subset h'.shapes_subset
  outlines_eq := h'.outlines_eq.trans h.outlines_eq
  loose := fun id s hs => h'.loose id s (h.loose id s hs)

/-- Every element has the outline that it had. -/
theorem outline?_eq (h : Remasked d d') (wf : d.WellFormed) (id : NodeId) :
    d'.outline? id = d.outline? id := by
  rw [h.wellFormed.outline?_eq, wf.outline?_eq, h.outlines_eq]

/-- Everything reads as it did. -/
theorem unmasked_root (h : Remasked d d') (wf : d.WellFormed) :
    d'.unmasked root = d.unmasked root := by
  obtain ⟨t, a, c, hroot⟩ := wf.exists_tree?_root
  have ho : d.outline? root = some (.element root t a c.outline .nil) := by
    rw [outline?, hroot]
    rfl
  rw [unmasked_eq_content ho, unmasked_eq_content ((h.outline?_eq wf root).trans ho)]

theorem replaceText {id : NodeId} {fragments : List Fragment} {new : List NodeId}
    (wf : d.WellFormed) (h : d.replaceText id fragments = .ok (new, d')) (hne : fragments ≠ [])
    (hs : (id, .text (String.join (fragments.map Fragment.unmasked))) ∈ d.nodes) :
    Remasked d d' := by
  have e := Extends.replaceText wf h
  refine ⟨e.wellFormed wf, ?_, outlines_replaceText wf h hne hs, ?_⟩
  · intro x hx
    exact e.shapes_perm.mem_iff.mpr (List.mem_append_left _ hx)
  · intro i s' hmem
    obtain ⟨p, s, hp, -, ha, -, ht, -⟩ := replaceText_cases h
    rw [ht, List.mem_append, List.mem_map]
    refine .inl ⟨_, hmem, ?_⟩
    rw [Forest.splice, if_neg (wf.ne_of_above_ne_nil hmem (.text s') hp ha), Forest.splice]

theorem unmask {id new : NodeId} (wf : d.WellFormed) (h : d.unmask id = .ok (new, d')) :
    Remasked d d' := by
  obtain ⟨p, m, joined, hp, -, -, -, -, ht, -⟩ := unmask_cases h
  have e := Extends.unmask wf hp h
  refine ⟨e.wellFormed wf, ?_, outlines_unmask wf h, ?_⟩
  · intro x hx
    exact e.shapes_perm.mem_iff.mpr (List.mem_append_left _ hx)
  · intro i s hmem
    rw [ht, List.append_assoc, List.mem_append, List.mem_map]
    exact .inl ⟨_, hmem, rfl⟩

end Remasked

/-! ### Restoring -/

/-- A mask is turned back, but its node stays a mask. -/
theorem mask_mem_unmask {d d' : Document} {id new i : NodeId} {m : Mask} (wf : d.WellFormed)
    (h : d.unmask id = .ok (new, d')) : (i, .mask m) ∈ d'.nodes ↔ (i, .mask m) ∈ d.nodes := by
  obtain ⟨p, -, -, hp, -⟩ := unmask_cases h
  rw [(Extends.unmask wf hp h).mask_mem_iff]
  split_ifs <;> simp

/-- All masks below the root are turned back one after the other. -/
theorem unmaskAll_root {d : Document} (wf : d.WellFormed) {ids : List NodeId}
    (hids : (d.maskIds root).Perm ids) : ∃ d', d.unmaskAll ids = (ids.length, d') ∧
      Remasked d d' ∧ d'.maskIds root = [] ∧
      ∀ i m, (i, .mask m) ∈ d'.nodes ↔ (i, .mask m) ∈ d.nodes := by
  induction ids generalizing d with
  | nil => exact ⟨d, rfl, .refl wf, List.perm_nil.mp hids, fun _ _ => Iff.rfl⟩
  | cons id ids ih =>
      obtain ⟨new, d₁, hd₁, hperm⟩ := maskIds_unmask wf (hids.mem_iff.mpr List.mem_cons_self)
      have hr := Remasked.unmask wf hd₁
      have hrest : (d₁.maskIds root).Perm ids := by
        refine List.Perm.cons_inv (a := id) ?_
        exact (List.perm_append_singleton _ _).symm.trans (hperm.trans hids)
      obtain ⟨d', hd', hr', hnone, hm⟩ := ih hr.wellFormed hrest
      refine ⟨d', ?_, hr.trans hr', hnone, fun i m => (hm i m).trans (mask_mem_unmask wf hd₁)⟩
      rw [unmaskAll, hd₁]
      simp only [hd', List.length_cons]

/-- **Restoring counts the masks below the root and leaves none of them.** -/
theorem restore_root {d : Document} (wf : d.WellFormed) :
    (d.restore root).1 = (d.maskIds root).length ∧ Remasked d (d.restore root).2 ∧
      (d.restore root).2.maskIds root = [] ∧
      ∀ i m, (i, .mask m) ∈ (d.restore root).2.nodes ↔ (i, .mask m) ∈ d.nodes := by
  obtain ⟨d', hd', hr, hnone, hm⟩ := unmaskAll_root wf (List.Perm.refl _)
  rw [restore, hd']
  exact ⟨rfl, hr, hnone, hm⟩

/-- Where no mask is below the root, the document shows what it reads as. -/
theorem shown_root_eq_unmasked {d : Document} (wf : d.WellFormed) (h : d.maskIds root = []) :
    d.shown root = d.unmasked root := by
  obtain ⟨t, a, c, hroot⟩ := wf.exists_tree?_root
  rw [shown, unmasked, hroot, Option.getD_some]
  rw [maskIds, hroot, Option.getD_some] at h
  exact Forest.shown_eq_unmasked h

end Document

end TextMasking
