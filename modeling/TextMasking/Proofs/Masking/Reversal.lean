import Mathlib.Algebra.GroupWithZero.Nat
import TextMasking.Proofs.Document.History
import TextMasking.Proofs.Masking.Pass

/-! # Masking is reversible

However many passes mask a document that the host made, with whatever rules and wherever they begin,
restoring it at the root gives back what the host made: the masks are all counted and all gone, each
element has its children back with the texts between them, and the document shows the text that it
showed. -/

namespace TextMasking

namespace Document

/-- Passes in order, each with its engine and the node where it begins: their reports and the
document after them. -/
def passAll (d : Document) : List (Engine × NodeId) → List Report × Document
  | [] => ([], d)
  | (e, root) :: passes =>
    let (d, report) := e.apply d root
    let (reports, d) := d.passAll passes
    (report :: reports, d)

theorem passAll_cons (d : Document) (e : Engine) (x : NodeId) (passes : List (Engine × NodeId)) :
    d.passAll ((e, x) :: passes) =
      ((e.apply d x).2 :: ((e.apply d x).1.passAll passes).1, ((e.apply d x).1.passAll passes).2) :=
  rfl

/-- Passes in order differ from the document before in masks, and count them together. -/
theorem passAll_masks {d : Document} (wf : d.WellFormed) (passes : List (Engine × NodeId)) :
    Masks (passes.flatMap (·.1.placeholders)) d (d.passAll passes).2
      ((d.passAll passes).1.map (·.masksCreated)).sum := by
  induction passes generalizing d with
  | nil => exact .refl wf
  | cons pass passes ih =>
      obtain ⟨e, root⟩ := pass
      have h := e.apply_masks wf root
      have hrest := ih h.remasked.wellFormed
      refine (h.mono ?_).trans (hrest.mono ?_)
      · exact List.subset_append_left _ _
      · exact List.subset_append_right _ _

/-- **Masking is reversible.**  Passes over a document of the host and then restoring it turn back
as many masks as the passes made and leave none; every element has the outline that it had, and the
document shows the text that it showed. -/
theorem restore_passAll (s : String) (edits : List HostEdit) (passes : List (Engine × NodeId)) :
    let d := (ofPlainText s).editAll edits
    let (reports, masked) := d.passAll passes
    let (restored, d') := masked.restore root
    restored = (reports.map (·.masksCreated)).sum ∧ d'.maskIds root = [] ∧
      (∀ id, d'.outline? id = d.outline? id) ∧ d'.shown root = d.shown root := by
  intro d
  have wf : d.WellFormed := wellFormed_editAll (wellFormed_ofPlainText s) edits
  have hfree : d.MaskFree :=
    maskFree_editAll (wellFormed_ofPlainText s) (maskFree_ofPlainText s) edits
  have hnone := hfree.maskIds_eq_nil root
  have hm := passAll_masks wf passes
  obtain ⟨hcount, hr, hgone, -⟩ := restore_root hm.remasked.wellFormed
  have hall := hm.remasked.trans hr
  refine ⟨hcount.trans ?_, hgone, hall.outline?_eq wf, ?_⟩
  · rw [hm.maskCount, hnone, List.length_nil, Nat.zero_add]
  · calc _ = _ := shown_root_eq_unmasked hall.wellFormed hgone
      _ = d.unmasked root := hall.unmasked_root wf
      _ = d.shown root := (shown_root_eq_unmasked wf hnone).symm

end Document

end TextMasking
