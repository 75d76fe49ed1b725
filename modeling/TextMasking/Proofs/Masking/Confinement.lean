import TextMasking.Proofs.Document.Spots
import TextMasking.Proofs.Masking.Pass

/-! # A pass leaves alone what lies beyond its node

A pass over a node takes apart texts at or below it.  So all other nodes stand where they stood, and
a node below it is still there, or it is a text that was taken apart and has no parent any more
(`Engine.apply_confined`). -/

namespace TextMasking

/-- From `d` to `d'` the nodes beyond `x` stay where they are; those below `x` stay below it or
lose their parent. -/
structure Confined (x : NodeId) (d d' : Document) : Prop where
  wellFormed : d'.WellFormed
  fresh_le : d.fresh ≤ d'.fresh
  beyond : ∀ i s, i ≠ x → x ∉ d.above i → (i, s) ∈ d.spots → (i, s) ∈ d'.spots
  below : ∀ i, x ∈ d.above i → x ∈ d'.above i ∨ i ≠ Document.root ∧ d'.above i = []

namespace Confined

variable {x : NodeId} {d d' d'' : Document}

theorem refl (wf : d.WellFormed) : Confined x d d :=
  ⟨wf, Nat.le_refl _, fun _ _ _ _ h => h, fun _ h => .inl h⟩

/-- A node beyond `x` that is known has the same elements above it. -/
theorem above_eq (h : Confined x d d') (wf : d.WellFormed) {i : NodeId} (hi : i ∈ d.ids)
    (hne : i ≠ x) (hx : x ∉ d.above i) : d'.above i = d.above i := by
  obtain ⟨s, hs⟩ := Document.exists_spot hi
  exact (wf.eq_of_mem_spots h.wellFormed hs (h.beyond i s hne hx hs)).1

theorem mem_ids (h : Confined x d d') (wf : d.WellFormed) {i : NodeId} (hi : i ∈ d.ids) :
    i ∈ d'.ids :=
  h.wellFormed.mem_ids_iff.mpr (Nat.lt_of_lt_of_le (wf.mem_ids_iff.mp hi) h.fresh_le)

theorem trans (wf : d.WellFormed) (h : Confined x d d') (h' : Confined x d' d'') :
    Confined x d d'' where
  wellFormed := h'.wellFormed
  fresh_le := Nat.le_trans h.fresh_le h'.fresh_le
  beyond := by
    intro i s hne hx hs
    have hs' := h.beyond i s hne hx hs
    refine h'.beyond i s hne ?_ hs'
    rwa [(wf.eq_of_mem_spots h.wellFormed hs hs').1]
  below := by
    intro i hx
    have hi := Document.mem_ids_of_mem_above hx
    rcases h.below i hx with hx' | ⟨hroot, hnil⟩
    · exact h'.below i hx'
    · refine .inr ⟨hroot, ?_⟩
      rw [h'.above_eq h.wellFormed (h.mem_ids wf hi), hnil]
      · rintro rfl
        exact wf.not_mem_above_self hx
      · rw [hnil]
        exact List.not_mem_nil

/-- A text at or below `x` is taken apart. -/
theorem replaceText {id : NodeId} {fragments : List Fragment} {new : List NodeId}
    (wf : d.WellFormed) (h : d.replaceText id fragments = .ok (new, d'))
    (hid : id = x ∨ x ∈ d.above id) : Confined x d d' := by
  have e := Document.Extends.replaceText wf h
  have wf' := e.wellFormed wf
  refine ⟨wf', e.fresh_le, ?_, ?_⟩
  · intro i s hne hx hs
    refine wf.mem_spots_replaceText h ?_ hs
    rintro rfl
    exact hid.elim hne hx
  · intro i hx
    by_cases hi : i = id
    · subst hi
      exact .inr (wf.above_replaceText_self h)
    · obtain ⟨s, hs⟩ := Document.exists_spot (Document.mem_ids_of_mem_above hx)
      rw [(wf.eq_of_mem_spots wf' hs (wf.mem_spots_replaceText h hi hs)).1]
      exact .inl hx

end Confined

/-! ### Passes -/

namespace Matcher

variable {m : Matcher} {x : NodeId} {d : Document} {r : Report}

/-- Texts at or below `x` are replaced one after the other; one that has lost its parent
meanwhile is left as it is. -/
theorem foldl_replaceFound_confined {fs : List Finding} (wf : d.WellFormed)
    (h : ∀ f ∈ fs, f.id ∈ d.ids ∧ (f.id = x ∨ x ∈ d.above f.id ∨ d.above f.id = [])) :
    Confined x d (fs.foldl m.replaceFound (d, r)).1 := by
  induction fs generalizing d r with
  | nil => exact .refl wf
  | cons f fs ih =>
      obtain ⟨⟨-, hf⟩, hfs⟩ := List.forall_mem_cons.mp h
      rw [List.foldl_cons]
      rcases m.replaceFound_cases d r f with ⟨new, d', hrep, hstate⟩ | ⟨e, -, hstate⟩
      · rw [hstate]
        obtain ⟨p, s, hp, -, hne, -⟩ := Document.replaceText_cases hrep
        have habove : d.above f.id ≠ [] := by
          rw [Document.above, hp]
          exact mt List.map_eq_nil_iff.mp hne
        have hstep := Confined.replaceText wf hrep
          (hf.imp_right fun h => h.resolve_right habove)
        refine hstep.trans wf (ih hstep.wellFormed fun g hg => ?_)
        obtain ⟨hg, hplace⟩ := hfs g hg
        refine ⟨hstep.mem_ids wf hg, or_iff_not_imp_left.mpr fun hne => ?_⟩
        rcases hplace.resolve_left hne with hx | hnil
        · exact (hstep.below g.id hx).imp_right And.right
        · rw [hstep.above_eq wf hg hne (by simp [hnil])]
          exact .inr hnil
      · rw [hstate]
        exact ih wf hfs

theorem apply_confined (m : Matcher) (wf : d.WellFormed) (x : NodeId) (options : Options)
    (r : Report) : Confined x d (m.apply x options (d, r)).1 := by
  unfold apply
  dsimp only
  cases hfs : m.findings options (d.passages x options) with
  | error fault => exact .refl wf
  | ok fs =>
      refine foldl_replaceFound_confined wf fun f hf => ?_
      obtain ⟨p, hp, -⟩ := exists_passage_of_findings hfs hf
      obtain ⟨u, hu, hid, -⟩ := wf.mem_passages_iff.mp hp
      have hmem := Document.mem_ids_of_mem_nodes (wf.mem_nodes_of_mem_units hu)
      rw [wf.above_of_mem_units hu]
      exact ⟨hmem, ((wf.mem_textIds_iff hu).mp hid).imp_right .inl⟩

end Matcher

namespace Engine

/-- **A pass over a node changes nothing beyond it.** -/
theorem apply_confined (e : Engine) {d : Document} (wf : d.WellFormed) (x : NodeId) :
    Confined x d (e.apply d x).1 := by
  have hfold (ms : List Matcher) (d : Document) (wf : d.WellFormed) (r : Report) :
      Confined x d (ms.foldl (fun state m => m.apply x e.options state) (d, r)).1 := by
    induction ms generalizing d r with
    | nil => exact .refl wf
    | cons m ms ih =>
        have hm := m.apply_confined wf x e.options r
        exact hm.trans wf (ih _ hm.wellFormed _)
  exact hfold _ d wf _

end Engine

end TextMasking
