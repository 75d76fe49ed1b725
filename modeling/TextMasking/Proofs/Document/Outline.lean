import TextMasking.Proofs.Document.Edits

/-! # Outlines

The outline of a forest keeps its elements and reads each maximal run of leaves between two of them
as one text, masks as what they hide (`Forest.outline`).  It is what masking must not change: a text
may be taken apart if its fragments read as the text (`outline_splice`), and a mask may be turned
back wherever it stands (`outline_unmask`). -/

namespace TextMasking

/-- Sibling elements in order, with the texts between them and everything below them. -/
inductive Outline where
  | nil
  | run (content : String) (rest : Outline)
  | element (id : NodeId) (tag : String) (attributes : Attributes) (children rest : Outline)
  deriving DecidableEq, Repr

namespace Outline

/-- Puts a text in front, as part of the run that begins there if there is one. -/
def joinText (s : String) : Outline → Outline
  | .nil => .run s .nil
  | .run s' rest => .run (s ++ s') rest
  | .element i t a children rest => .run s (.element i t a children rest)

/-- The text of all runs. -/
def content : Outline → String
  | .nil => ""
  | .run s rest => s ++ rest.content
  | .element _ _ _ children rest => children.content ++ rest.content

/-- The element with a number. -/
def find? (id : NodeId) : Outline → Option Outline
  | .nil => none
  | .run _ rest => rest.find? id
  | .element i t a children rest =>
    if i = id then some (.element i t a children .nil)
    else (children.find? id).or (rest.find? id)

@[simp] theorem joinText_joinText (s s' : String) (o : Outline) :
    joinText s (joinText s' o) = joinText (s ++ s') o := by
  cases o <;> simp [joinText, String.append_assoc]

@[simp] theorem content_joinText (s : String) (o : Outline) :
    (joinText s o).content = s ++ o.content := by
  cases o <;> simp [joinText, content, String.append_assoc]

@[simp] theorem find?_joinText (s : String) (o : Outline) (id : NodeId) :
    (joinText s o).find? id = o.find? id := by
  cases o <;> rfl

end Outline

namespace Forest

/-- The forest with its runs of leaves read as texts. -/
def outline : Forest → Outline
  | .nil => .nil
  | .text _ s rest => rest.outline.joinText s
  | .mask _ m rest => rest.outline.joinText m.hidden
  | .element i t a children rest => .element i t a children.outline rest.outline

@[simp] theorem content_outline (f : Forest) : f.outline.content = f.unmasked := by
  induction f with
  | nil => rfl
  | text i s rest ih => simp [outline, unmasked, ih]
  | mask i m rest ih => simp [outline, unmasked, ih]
  | element i t a c rest ihc ih => simp [outline, unmasked, Outline.content, ihc, ih]

/-- The leaves of fragments read as the text that the fragments were made from. -/
theorem outline_toForest_append {fragments : List Fragment} (h : fragments ≠ []) (fresh : NodeId)
    (rest : Forest) :
    (Fragment.toForest fresh fragments ++ rest).outline =
      rest.outline.joinText (String.join (fragments.map Fragment.unmasked)) := by
  induction fragments generalizing fresh with
  | nil => exact absurd rfl h
  | cons f more ih =>
      have hf : (Fragment.toForest fresh (f :: more) ++ rest).outline =
          (Fragment.toForest (fresh + 1) more ++ rest).outline.joinText f.unmasked := by
        cases f <;> rfl
      rw [hf]
      cases more with
      | nil => simp [Fragment.toForest, String.join_cons]
      | cons g more =>
          rw [ih (List.cons_ne_nil _ _), Outline.joinText_joinText, ← String.join_cons]
          rfl

/-- A text that is replaced by leaves which read as it keeps the outline. -/
theorem outline_splice {f : Forest} (id fresh : NodeId) {fragments : List Fragment}
    (hne : fragments ≠ [])
    (h : ∀ s, (id, .text s) ∈ f.nodes → String.join (fragments.map Fragment.unmasked) = s) :
    (splice id (Fragment.toForest fresh fragments) f).outline = f.outline := by
  induction f with
  | nil => rfl
  | text i s rest ih =>
      rw [splice]
      split_ifs with e
      · rw [outline_toForest_append hne, outline, h s (by simp [nodes, e])]
      · rw [outline, outline, ih fun s hs => h s (List.mem_cons_of_mem _ hs)]
  | mask i m rest ih =>
      rw [splice, outline, outline, ih fun s hs => h s (List.mem_cons_of_mem _ hs)]
  | element i t a c rest ihc ih =>
      rw [splice, outline, outline, ihc, ih]
      · intro s hs
        exact h s (by simp [nodes, hs])
      · intro s hs
        exact h s (by simp [nodes, hs])

/-- Joining a text to the one that begins a forest does not show in the outline. -/
theorem outline_takeText (f : Forest) (s : String) :
    f.takeText.2.outline.joinText (s ++ f.takeText.1) = f.outline.joinText s := by
  cases f <;> simp [takeText, outline]

/-- A mask that is turned back keeps the outline. -/
theorem outline_unmask (f : Forest) (id fresh : NodeId) :
    (f.unmask id fresh).outline = f.outline := by
  induction f with
  | nil => rfl
  | text i s rest ih =>
      by_cases h : ∃ m more, rest = .mask id m more
      · obtain ⟨m, more, rfl⟩ := h
        rw [unmask_text_mask, outline, outline, outline, Outline.joinText_joinText,
          ← String.append_assoc, outline_takeText]
      · rw [unmask_text fun m more e => h ⟨m, more, e⟩, outline, outline, ih]
  | mask i m rest ih =>
      rw [unmask]
      split_ifs
      · rw [outline, outline, outline_takeText]
      · rw [outline, outline, ih]
  | element i t a c rest ihc ih => rw [unmask, outline, outline, ihc, ih]

/-! ### Elements -/

/-- The outline of an element. -/
def elementOutline? : Forest → Option Outline
  | .element i t a children _ => some (.element i t a children.outline .nil)
  | _ => none

theorem find?_outline_eq_none {f : Forest} {id : NodeId} (h : id ∉ f.ids) :
    f.outline.find? id = none := by
  induction f with
  | nil => rfl
  | text i s rest ih =>
      rw [outline, Outline.find?_joinText, ih fun hr => h (by simp [ids, hr])]
  | mask i m rest ih =>
      rw [outline, Outline.find?_joinText, ih fun hr => h (by simp [ids, hr])]
  | element i t a c rest ihc ih =>
      simp only [ids, List.mem_cons, List.mem_append, not_or] at h
      rw [outline, Outline.find?, if_neg (Ne.symm h.1), ihc h.2.1, ih h.2.2, Option.or_none]

/-- The outline of an element is found in the outline. -/
theorem elementOutline?_find? {f : Forest} (hn : f.ids.Nodup) (id : NodeId) :
    (f.find? id).bind elementOutline? = f.outline.find? id := by
  induction f with
  | nil => rfl
  | text i s rest ih | mask i m rest ih =>
      obtain ⟨hi, hn⟩ := List.nodup_cons.mp hn
      rw [find?, outline, Outline.find?_joinText]
      split_ifs with e
      · rw [find?_outline_eq_none (e ▸ hi)]
        rfl
      · exact ih hn
  | element i t a c rest ihc ih =>
      obtain ⟨hi, hn⟩ := List.nodup_cons.mp hn
      obtain ⟨hc, hr, hcr⟩ := List.nodup_append.mp hn
      rw [find?, outline, Outline.find?]
      split_ifs with e
      · rfl
      · rw [← ihc hc, ← ih hr]
        cases h : c.find? id with
        | none => rfl
        | some n =>
            have hid : id ∉ rest.ids := fun h' => hcr id (mem_ids_of_find? h) id h' rfl
            rw [find?_eq_none_iff.mpr hid]
            simp

end Forest

namespace Document

open Forest (IsNode)

/-- The outline of an element of a document. -/
def outline? (d : Document) (id : NodeId) : Option Outline :=
  (d.tree? id).bind Forest.elementOutline?

/-- The outlines of the elements without a parent. -/
def outlines (d : Document) : List Outline :=
  d.trees.filterMap Forest.elementOutline?

theorem findSome?_outlines {ts : List Forest} (h : ∀ t ∈ ts, ∃ i, IsNode i t) (id : NodeId) :
    (ts.filterMap Forest.elementOutline?).findSome? (·.find? id) =
      ts.findSome? fun t => t.outline.find? id := by
  induction ts with
  | nil => rfl
  | cons t ts ih =>
      rw [List.filterMap_cons, List.findSome?_cons,
        ← ih fun u hu => h u (List.mem_cons_of_mem _ hu)]
      obtain ⟨i, hi⟩ := h t List.mem_cons_self
      cases hi <;> rfl

/-- The outlines of the elements without a parent tell that of each element. -/
theorem WellFormed.outline?_eq {d : Document} (wf : d.WellFormed) (id : NodeId) :
    d.outline? id = d.outlines.findSome? (·.find? id) := by
  rw [outlines, findSome?_outlines wf.isNode, outline?]
  by_cases h : id ∈ d.ids
  · obtain ⟨pre, t, post, ht, hid, hn, hpre, hpost⟩ := Forest.exists_tree wf.ids_nodup h
    have hnone : ∀ us : List Forest, (∀ u ∈ us, id ∉ u.ids) →
        us.findSome? (fun t => t.outline.find? id) = none := by
      intro us hus
      rw [List.findSome?_eq_none_iff]
      exact fun u hu => Forest.find?_outline_eq_none (hus u hu)
    rw [wf.tree?_of_mem (by simp [ht]) hid, Forest.elementOutline?_find? hn, ht,
      List.findSome?_append, hnone pre hpre, List.findSome?_cons, hnone post hpost]
    cases t.outline.find? id <;> rfl
  · rw [tree?_eq_none_iff.mpr h]
    refine (List.findSome?_eq_none_iff.mpr fun t ht => Forest.find?_outline_eq_none ?_).symm
    exact fun hid => h (List.mem_flatMap.mpr ⟨t, ht, hid⟩)

/-- What an element reads as is the content of its outline. -/
theorem unmasked_eq_content {d : Document} {id : NodeId} {o : Outline}
    (h : d.outline? id = some o) : d.unmasked id = o.content := by
  obtain ⟨n, hn, ho⟩ := Option.bind_eq_some_iff.mp h
  rw [unmasked, hn, Option.getD_some]
  cases isNode_of_tree? hn with
  | text s => cases ho
  | mask m => cases ho
  | element t a c =>
      cases ho
      simp [Forest.unmasked, Outline.content]

/-! ### Masking keeps the outline -/

/-- A text is taken apart into fragments that read as it. -/
theorem outlines_replaceText {d d' : Document} {id : NodeId} {fragments : List Fragment}
    {new : List NodeId} (wf : d.WellFormed) (h : d.replaceText id fragments = .ok (new, d'))
    (hne : fragments ≠ [])
    (hs : (id, .text (String.join (fragments.map Fragment.unmasked))) ∈ d.nodes) :
    d'.outlines = d.outlines := by
  obtain ⟨p, s, hp, -, ha, -, ht, -⟩ := replaceText_cases h
  rw [outlines, ht, List.filterMap_append, outlines, List.filterMap_map]
  have htext : [Forest.text id s .nil].filterMap Forest.elementOutline? = [] := rfl
  rw [htext, List.append_nil]
  refine List.filterMap_congr fun t ht => ?_
  obtain ⟨i, hi⟩ := wf.isNode t ht
  have hread : ∀ s, (id, .text s) ∈ t.nodes →
      String.join (fragments.map Fragment.unmasked) = s := by
    intro s hs'
    have := wf.kind_unique hs (List.mem_flatMap.mpr ⟨t, ht, hs'⟩)
    exact NodeKind.text.inj this
  have hid := wf.ne_of_above_ne_nil ht hi hp ha
  cases hi with
  | text s => rw [Function.comp_apply, Forest.splice, if_neg hid, Forest.splice]
  | mask m => rfl
  | element tag a c =>
      have hc := Forest.outline_splice id d.fresh (f := c) hne fun s hs' =>
        hread s (by simp [Forest.nodes, hs'])
      rw [Function.comp_apply, Forest.splice, Forest.elementOutline?, hc, Forest.elementOutline?]

/-- A mask is turned back. -/
theorem outlines_unmask {d d' : Document} {id new : NodeId} (wf : d.WellFormed)
    (h : d.unmask id = .ok (new, d')) : d'.outlines = d.outlines := by
  obtain ⟨p, m, joined, hp, -, ha, hj, -, ht, -⟩ := unmask_cases h
  rw [outlines, ht, List.filterMap_append, List.filterMap_append, outlines, List.filterMap_map]
  have hjoined : joined.filterMap Forest.elementOutline? = [] := by
    rw [List.filterMap_eq_nil_iff]
    intro t ht
    obtain ⟨i, s, rfl⟩ := hj t ht
    rfl
  have hmask : [Forest.mask id m .nil].filterMap Forest.elementOutline? = [] := rfl
  rw [hjoined, hmask, List.append_nil, List.append_nil]
  refine List.filterMap_congr fun t ht => ?_
  obtain ⟨i, hi⟩ := wf.isNode t ht
  have hid := wf.ne_of_above_ne_nil ht hi hp ha
  cases hi with
  | text s => rfl
  | mask m => rw [Function.comp_apply, Forest.unmask, if_neg hid, Forest.unmask]
  | element tag a c =>
      rw [Function.comp_apply, Forest.unmask, Forest.elementOutline?, Forest.outline_unmask,
        Forest.elementOutline?]

end Document

end TextMasking
