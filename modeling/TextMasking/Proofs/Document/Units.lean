import TextMasking.Masking.Pass
import TextMasking.Proofs.Document.Edits

/-! # The texts of a document and what stands around them

A text is listed with the elements above it and with the unmasked text just before and just after it
(`Document.units`).  What a pass reads of a text, whether the text lies below a node and whether it
is attached depend on nothing else (`Document.mem_passages_iff`, `WellFormed.mem_textIds_iff`,
`WellFormed.attached_iff_of_mem_units`).

When a text is taken apart, the texts among the fragments come in its place, and what stands around
the other texts still reads the same (`Document.mem_units_replaceText`). -/

namespace TextMasking

/-- A text with what stands around it and the elements above it, nearest first. -/
structure TextUnit where
  above : List Forest.Ancestor
  passage : Passage

namespace TextUnit

/-- The text as a pass reads it, unless passes leave it alone. -/
def passage? (u : TextUnit) (options : Options) : Option Passage :=
  if (u.above.any fun a => excludes a.tag a.attributes) ||
      (options.skipBlank && Text.blank u.passage.text) then none
  else some u.passage

theorem eq_of_passage? {u : TextUnit} {options : Options} {p : Passage}
    (h : u.passage? options = some p) : u.passage = p := by
  unfold passage? at h
  split_ifs at h
  exact Option.some.inj h

end TextUnit

namespace Forest

/-- The texts of a forest below `above` and after the text `before`. -/
def unitsFrom (above : List Ancestor) (before : String) : Forest → List (NodeId × TextUnit)
  | .nil => []
  | .text i s rest =>
    (i, ⟨above, before, s, rest.leading⟩) :: unitsFrom above (before ++ s) rest
  | .mask _ m rest => unitsFrom above (before ++ m.hidden) rest
  | .element i t a children rest =>
    unitsFrom (⟨i, t, a⟩ :: above) "" children ++ unitsFrom above "" rest

/-- The text at a place. -/
def Place.toUnit (p : Place) (s : String) : TextUnit :=
  ⟨p.above, p.before.trailing, s, p.after.leading⟩

theorem Place.passage?_eq {p : Place} {id : NodeId} {s : String} (hp : p.node = .text id s .nil)
    (options : Options) : p.passage? options = (p.toUnit s).passage? options := by
  rw [passage?, TextUnit.passage?, Place.excluded, hp]
  rfl

theorem mem_unitsFrom_of_placeFrom {f before : Forest} {above : List Ancestor} {id : NodeId}
    {p : Place} {s : String} (h : placeFrom above before id f = some p)
    (hp : p.node = .text id s .nil) :
    (id, p.toUnit s) ∈ unitsFrom above before.trailing f := by
  induction f generalizing above before with
  | nil => cases h
  | text i s' rest ih =>
      rw [placeFrom] at h
      split_ifs at h with e
      · cases h
        cases hp
        exact List.mem_cons_self
      · exact List.mem_cons_of_mem _ (ih h)
  | mask i m rest ih =>
      rw [placeFrom] at h
      split_ifs at h with e
      · cases h
        cases hp
      · exact ih h
  | element i t a c rest ihc ih =>
      rw [placeFrom] at h
      split_ifs at h with e
      · cases h
        cases hp
      · cases hc : placeFrom (⟨i, t, a⟩ :: above) .nil id c with
        | some q =>
            rw [hc] at h
            cases h
            exact List.mem_append_left _ (ihc hc)
        | none =>
            rw [hc] at h
            exact List.mem_append_right _ (ih h)

theorem mem_ids_of_mem_unitsFrom {f : Forest} {above : List Ancestor} {before : String}
    {id : NodeId} {u : TextUnit} (h : (id, u) ∈ unitsFrom above before f) : id ∈ f.ids := by
  induction f generalizing above before with
  | nil => cases h
  | text i s rest ih =>
      rcases List.mem_cons.mp h with e | h
      · cases e
        exact List.mem_cons_self
      · exact List.mem_cons_of_mem _ (ih h)
  | mask i m rest ih => exact List.mem_cons_of_mem _ (ih h)
  | element i t a c rest ihc ih =>
      refine List.mem_cons_of_mem _ (List.mem_append.mpr ?_)
      exact (List.mem_append.mp h).imp ihc ih

theorem exists_placeFrom_of_mem_unitsFrom {f before : Forest} {above : List Ancestor}
    {id : NodeId} {u : TextUnit} (hn : f.ids.Nodup)
    (h : (id, u) ∈ unitsFrom above before.trailing f) :
    ∃ p s, placeFrom above before id f = some p ∧ p.node = .text id s .nil ∧ u = p.toUnit s := by
  induction f generalizing above before with
  | nil => cases h
  | text i s rest ih =>
      obtain ⟨hi, hn⟩ := List.nodup_cons.mp hn
      rw [placeFrom]
      rcases List.mem_cons.mp h with e | h
      · cases e
        exact ⟨_, s, if_pos rfl, rfl, rfl⟩
      · have hne : i ≠ id := by
          rintro rfl
          exact hi (mem_ids_of_mem_unitsFrom h)
        rw [if_neg hne]
        exact ih hn h
  | mask i m rest ih =>
      obtain ⟨hi, hn⟩ := List.nodup_cons.mp hn
      have hne : i ≠ id := by
        rintro rfl
        exact hi (mem_ids_of_mem_unitsFrom h)
      rw [placeFrom, if_neg hne]
      exact ih hn h
  | element i t a c rest ihc ih =>
      obtain ⟨hi, hn⟩ := List.nodup_cons.mp hn
      obtain ⟨hc, hr, hcr⟩ := List.nodup_append.mp hn
      have hne : i ≠ id := by
        rintro rfl
        exact hi (List.mem_append.mpr
          ((List.mem_append.mp h).imp mem_ids_of_mem_unitsFrom mem_ids_of_mem_unitsFrom))
      rw [placeFrom, if_neg hne]
      rcases List.mem_append.mp h with h | h
      · obtain ⟨p, s, hp, hu⟩ := @ihc .nil _ hc h
        rw [hp]
        exact ⟨p, s, rfl, hu⟩
      · have hno : placeFrom (⟨i, t, a⟩ :: above) .nil id c = none :=
          placeFrom_eq_none_iff.mpr fun hid => hcr id hid id (mem_ids_of_mem_unitsFrom h) rfl
        rw [hno]
        exact ih hr h

end Forest

namespace Document

/-- Every text of the document. -/
def units (d : Document) : List (NodeId × TextUnit) :=
  d.trees.flatMap (Forest.unitsFrom [] "")

theorem mem_units_of_place? {d : Document} {id : NodeId} {p : Forest.Place} {s : String}
    (h : d.place? id = some p) (hp : p.node = .text id s .nil) :
    (id, p.toUnit s) ∈ d.units := by
  obtain ⟨t, ht, -, htp⟩ := exists_tree_of_place? h
  exact List.mem_flatMap.mpr ⟨t, ht, Forest.mem_unitsFrom_of_placeFrom htp hp⟩

namespace WellFormed

variable {d : Document} (wf : d.WellFormed)
include wf

theorem exists_place_of_mem_units {id : NodeId} {u : TextUnit} (h : (id, u) ∈ d.units) :
    ∃ p s, d.place? id = some p ∧ p.node = .text id s .nil ∧ u = p.toUnit s := by
  obtain ⟨t, ht, hu⟩ := List.mem_flatMap.mp h
  rw [wf.place?_of_mem ht (Forest.mem_ids_of_mem_unitsFrom hu)]
  exact Forest.exists_placeFrom_of_mem_unitsFrom (wf.tree_nodup ht) hu

theorem unit_unique {id : NodeId} {u v : TextUnit} (h : (id, u) ∈ d.units)
    (h' : (id, v) ∈ d.units) : u = v := by
  obtain ⟨p, s, hp, hnode, rfl⟩ := wf.exists_place_of_mem_units h
  obtain ⟨p', s', hp', hnode', rfl⟩ := wf.exists_place_of_mem_units h'
  rw [hp] at hp'
  cases hp'
  rw [hnode] at hnode'
  cases hnode'
  rfl

theorem mem_nodes_of_mem_units {id : NodeId} {u : TextUnit} (h : (id, u) ∈ d.units) :
    (id, .text u.passage.text) ∈ d.nodes := by
  obtain ⟨p, s, hp, hnode, rfl⟩ := wf.exists_place_of_mem_units h
  have htext := tree?_of_place? hp
  rw [hnode] at htext
  exact wf.tree?_text_iff.mp htext

/-- The texts are those among the nodes. -/
theorem exists_unit_iff {id : NodeId} :
    (∃ u, (id, u) ∈ d.units) ↔ ∃ s, (id, .text s) ∈ d.nodes := by
  constructor
  · rintro ⟨u, hu⟩
    exact ⟨u.passage.text, wf.mem_nodes_of_mem_units hu⟩
  · rintro ⟨s, hs⟩
    obtain ⟨p, hp, hnode⟩ := Option.map_eq_some_iff.mp (wf.tree?_text_iff.mpr hs)
    exact ⟨_, mem_units_of_place? hp hnode⟩

theorem above_of_mem_units {id : NodeId} {u : TextUnit} (h : (id, u) ∈ d.units) :
    d.above id = u.above.map (·.id) := by
  obtain ⟨p, s, hp, -, rfl⟩ := wf.exists_place_of_mem_units h
  rw [above, hp]
  rfl

/-- A text is attached if the root is above it. -/
theorem attached_iff_of_mem_units {id : NodeId} {u : TextUnit} (h : (id, u) ∈ d.units) :
    d.attached id = true ↔ root ∈ u.above.map (·.id) := by
  have hid : id ≠ root := by
    rintro rfl
    obtain ⟨t, a, c, hroot⟩ := wf.exists_tree?_root
    rw [wf.tree?_text_iff.mpr (wf.mem_nodes_of_mem_units h)] at hroot
    cases hroot
  rw [attached, wf.above_of_mem_units h, Bool.or_eq_true, beq_iff_eq, List.contains_iff_mem]
  exact or_iff_right hid

/-- A text lies at or below a node if it is the node or the node is above it. -/
theorem mem_textIds_iff {id x : NodeId} {u : TextUnit} (h : (id, u) ∈ d.units) :
    id ∈ d.textIds x ↔ id = x ∨ x ∈ u.above.map (·.id) := by
  have hmem := wf.mem_nodes_of_mem_units h
  obtain ⟨p, s, hp, hnode, rfl⟩ := wf.exists_place_of_mem_units h
  have habove : x ∈ (p.toUnit s).above.map (·.id) ↔ d.Below x id := by
    rw [← wf.mem_above_iff, above, hp]
    rfl
  have hne (h : d.tree? x ≠ some (.text id s .nil)) : id ≠ x := by
    rintro rfl
    exact h (wf.tree?_text_iff.mpr hmem)
  have hnot (h : ∀ t a c, d.tree? x ≠ some (.element x t a c .nil)) : ¬ d.Below x id := by
    rintro ⟨t, a, c, e, -⟩
    exact h t a c e
  rw [habove, textIds]
  cases hx : d.tree? x with
  | none =>
      simp only [Option.getD_none, Forest.textIds, List.not_mem_nil, false_iff, not_or]
      exact ⟨hne (by simp [hx]), hnot (by simp [hx])⟩
  | some n =>
      rw [Option.getD_some]
      cases isNode_of_tree? hx with
      | text s' =>
          simp only [Forest.textIds, List.mem_singleton]
          exact (or_iff_left (hnot (by simp [hx]))).symm
      | mask m =>
          simp only [Forest.textIds, List.not_mem_nil, false_iff, not_or]
          exact ⟨hne (by simp [hx]), hnot (by simp [hx])⟩
      | element t a c =>
          simp only [Forest.textIds, List.append_nil]
          constructor
          · intro hid
            exact .inr ⟨t, a, c, hx, c.textIds_sublist.subset hid⟩
          · rintro (e | ⟨t', a', c', e, hid⟩)
            · exact absurd e (hne (by simp [hx]))
            · have hs := wf.mem_nodes_children e hmem hid
              rw [hx] at e
              cases e
              exact Forest.mem_textIds_iff.mpr ⟨s, hs⟩

/-- **A pass reads the texts at or below the node that it does not leave alone.** -/
theorem mem_passages_iff {id x : NodeId} {options : Options} {p : Passage} :
    (id, p) ∈ d.passages x options ↔
      ∃ u, (id, u) ∈ d.units ∧ id ∈ d.textIds x ∧ u.passage? options = some p := by
  rw [passages, List.mem_filterMap]
  constructor
  · rintro ⟨i, hi, h⟩
    obtain ⟨q, hq, e⟩ := Option.map_eq_some_iff.mp h
    cases e
    obtain ⟨place, hplace, hp⟩ := Option.bind_eq_some_iff.mp hq
    have hnode := isNode_of_tree? (tree?_of_place? hplace)
    have htext := hp
    rw [Forest.Place.passage?] at htext
    split at htext
    · rename_i j s rest hs
      rw [hs] at hnode
      cases hnode
      rw [Forest.Place.passage?_eq hs] at hp
      exact ⟨_, mem_units_of_place? hplace hs, hi, hp⟩
    · cases htext
  · rintro ⟨u, hu, hid, hp⟩
    obtain ⟨place, s, hplace, hs, rfl⟩ := wf.exists_place_of_mem_units hu
    rw [← Forest.Place.passage?_eq hs] at hp
    refine ⟨id, hid, ?_⟩
    rw [hplace, Option.bind_some, hp]
    rfl

end WellFormed

end Document

/-! ### Texts in the place of a text -/

namespace Fragment

/-- The texts among the leaves of fragments that stand between two others. -/
def units (above : List Forest.Ancestor) (before after : String) (fresh : NodeId) :
    List Fragment → List (NodeId × TextUnit)
  | [] => []
  | .text s :: rest =>
    (fresh, ⟨above, before, s, String.join (rest.map unmasked) ++ after⟩) ::
      units above (before ++ s) after (fresh + 1) rest
  | .mask m :: rest => units above (before ++ m.hidden) after (fresh + 1) rest

theorem leading_toForest (fresh : NodeId) (fragments : List Fragment) (rest : Forest) :
    (toForest fresh fragments ++ rest).leading =
      String.join (fragments.map unmasked) ++ rest.leading := by
  induction fragments generalizing fresh with
  | nil => simp [toForest]
  | cons f fragments ih =>
      cases f with
      | text s => simp [toForest, Forest.leading, unmasked, ih, String.append_assoc]
      | mask m => simp [toForest, Forest.leading, unmasked, ih, String.append_assoc]

theorem unitsFrom_toForest (above : List Forest.Ancestor) (before : String) (fresh : NodeId)
    (fragments : List Fragment) (rest : Forest) :
    Forest.unitsFrom above before (toForest fresh fragments ++ rest) =
      units above before rest.leading fresh fragments ++
        Forest.unitsFrom above (before ++ String.join (fragments.map unmasked)) rest := by
  induction fragments generalizing fresh before with
  | nil => simp [toForest, units]
  | cons f fragments ih =>
      cases f with
      | text s =>
          simp [toForest, Forest.unitsFrom, units, unmasked, ih, leading_toForest,
            String.append_assoc]
      | mask m => simp [toForest, Forest.unitsFrom, units, unmasked, ih, String.append_assoc]

end Fragment

namespace Forest

/-- What a text is taken apart into reads like the text from outside. -/
theorem leading_splice {f : Forest} {id fresh : NodeId} {fragments : List Fragment}
    (h : ∀ s, (id, .text s) ∈ f.nodes → String.join (fragments.map Fragment.unmasked) = s) :
    (splice id (Fragment.toForest fresh fragments) f).leading = f.leading := by
  induction f with
  | nil => rfl
  | text i s rest ih =>
      rw [splice]
      split_ifs with e
      · subst e
        rw [Fragment.leading_toForest, h s List.mem_cons_self, leading]
      · rw [leading, leading, ih fun s hs => h s (List.mem_cons_of_mem _ hs)]
  | mask i m rest ih =>
      rw [splice, leading, leading, ih fun s hs => h s (List.mem_cons_of_mem _ hs)]
  | element => rfl

/-- **The texts after a text was taken apart:** those among the fragments in its place, and the
others as before. -/
theorem mem_unitsFrom_splice {f : Forest} {id fresh i : NodeId} {fragments : List Fragment}
    (hn : f.ids.Nodup)
    (h : ∀ s, (id, .text s) ∈ f.nodes → String.join (fragments.map Fragment.unmasked) = s)
    {above : List Ancestor} {before : String} {v : TextUnit}
    (hv : (i, v) ∈ unitsFrom above before (splice id (Fragment.toForest fresh fragments) f)) :
    i ≠ id ∧ (i, v) ∈ unitsFrom above before f ∨
      ∃ u, (id, u) ∈ unitsFrom above before f ∧
        (i, v) ∈ Fragment.units u.above u.passage.before u.passage.after fresh fragments := by
  induction f generalizing above before with
  | nil => cases hv
  | text j s rest ih =>
      obtain ⟨hj, hn⟩ := List.nodup_cons.mp hn
      rw [splice] at hv
      split_ifs at hv with e
      · subst e
        rw [Fragment.unitsFrom_toForest, List.mem_append, h s List.mem_cons_self] at hv
        rcases hv with hv | hv
        · exact .inr ⟨_, List.mem_cons_self, hv⟩
        · refine .inl ⟨?_, List.mem_cons_of_mem _ hv⟩
          rintro rfl
          exact hj (mem_ids_of_mem_unitsFrom hv)
      · have hrest := fun s hs => h s (List.mem_cons_of_mem _ hs)
        rcases List.mem_cons.mp hv with hv | hv
        · rw [leading_splice hrest] at hv
          cases hv
          exact .inl ⟨e, List.mem_cons_self⟩
        · refine (ih hn hrest hv).imp (fun h => ⟨h.1, List.mem_cons_of_mem _ h.2⟩) ?_
          rintro ⟨u, hu, hv⟩
          exact ⟨u, List.mem_cons_of_mem _ hu, hv⟩
  | mask j m rest ih =>
      exact ih (List.nodup_cons.mp hn).2 (fun s hs => h s (List.mem_cons_of_mem _ hs)) hv
  | element j t a c rest ihc ih =>
      obtain ⟨hc, hr, -⟩ := List.nodup_append.mp (List.nodup_cons.mp hn).2
      rcases List.mem_append.mp hv with hv | hv
      · have hin := ihc hc
          (fun s hs => h s (List.mem_cons_of_mem _ (List.mem_append_left _ hs))) hv
        refine hin.imp (fun h => ⟨h.1, List.mem_append_left _ h.2⟩) ?_
        rintro ⟨u, hu, hv⟩
        exact ⟨u, List.mem_append_left _ hu, hv⟩
      · have hin := ih hr
          (fun s hs => h s (List.mem_cons_of_mem _ (List.mem_append_right _ hs))) hv
        refine hin.imp (fun h => ⟨h.1, List.mem_append_right _ h.2⟩) ?_
        rintro ⟨u, hu, hv⟩
        exact ⟨u, List.mem_append_right _ hu, hv⟩

end Forest

/-- **The texts of a document after one was taken apart:** those among the fragments in its place,
the others as before, and the text itself, which is not attached any more. -/
theorem Document.mem_units_replaceText {d d' : Document} {id : NodeId}
    {fragments : List Fragment} {new : List NodeId} {u : TextUnit} (wf : d.WellFormed)
    (h : d.replaceText id fragments = .ok (new, d')) (hu : (id, u) ∈ d.units)
    (hread : String.join (fragments.map Fragment.unmasked) = u.passage.text) {i : NodeId}
    {v : TextUnit} (hv : (i, v) ∈ d'.units) :
    i = id ∧ v.above = [] ∨ i ≠ id ∧ (i, v) ∈ d.units ∨
      (i, v) ∈ Fragment.units u.above u.passage.before u.passage.after d.fresh fragments := by
  obtain ⟨p, s, -, -, -, -, ht, -⟩ := replaceText_cases h
  rw [units, ht, List.flatMap_append, List.mem_append] at hv
  rcases hv with hv | hv
  · obtain ⟨t', ht', hv⟩ := List.mem_flatMap.mp hv
    obtain ⟨t, htmem, rfl⟩ := List.mem_map.mp ht'
    have hread' : ∀ s', (id, .text s') ∈ t.nodes →
        String.join (fragments.map Fragment.unmasked) = s' := by
      intro s' hs'
      have hkind := wf.kind_unique (wf.mem_nodes_of_mem_units hu)
        (List.mem_flatMap.mpr ⟨t, htmem, hs'⟩)
      rw [hread]
      exact NodeKind.text.inj hkind
    rcases Forest.mem_unitsFrom_splice (wf.tree_nodup htmem) hread' hv with ⟨hi, hv⟩ | ⟨w, hw, hv⟩
    · exact .inr (.inl ⟨hi, List.mem_flatMap.mpr ⟨t, htmem, hv⟩⟩)
    · rw [wf.unit_unique (List.mem_flatMap.mpr ⟨t, htmem, hw⟩) hu] at hv
      exact .inr (.inr hv)
  · simp only [List.flatMap_cons, List.flatMap_nil, List.append_nil, Forest.unitsFrom,
      List.mem_singleton] at hv
    cases hv
    exact .inl ⟨rfl, rfl⟩

theorem Fragment.le_of_mem_units {above : List Forest.Ancestor} {before after : String}
    {fresh i : NodeId} {fragments : List Fragment} {v : TextUnit}
    (h : (i, v) ∈ units above before after fresh fragments) : fresh ≤ i := by
  induction fragments generalizing before fresh with
  | nil => cases h
  | cons f rest ih =>
      cases f with
      | text s =>
          rcases List.mem_cons.mp h with e | h
          · cases e
            exact Nat.le_refl _
          · exact Nat.le_of_succ_le (ih h)
      | mask m => exact Nat.le_of_succ_le (ih h)

/-- A text that is not taken apart is still there. -/
theorem Document.mem_units_of_replaceText {d d' : Document} {id i : NodeId}
    {fragments : List Fragment} {new : List NodeId} {u v : TextUnit} (wf : d.WellFormed)
    (h : d.replaceText id fragments = .ok (new, d')) (hu : (id, u) ∈ d.units)
    (hread : String.join (fragments.map Fragment.unmasked) = u.passage.text)
    (hv : (i, v) ∈ d.units) (hne : i ≠ id) : (i, v) ∈ d'.units := by
  have wf' := (Extends.replaceText wf h).wellFormed wf
  obtain ⟨s, hs⟩ := wf.exists_unit_iff.mp ⟨v, hv⟩
  have hs' : (i, .text s) ∈ d'.nodes :=
    (nodes_replaceText_perm wf h).mem_iff.mpr (List.mem_append_left _ hs)
  obtain ⟨w, hw⟩ := wf'.exists_unit_iff.mpr ⟨s, hs'⟩
  rcases mem_units_replaceText wf h hu hread hw with ⟨e, -⟩ | ⟨-, hwd⟩ | hwd
  · exact absurd e hne
  · rwa [wf.unit_unique hv hwd]
  · have hlt := wf.mem_ids_iff.mp (mem_ids_of_mem_nodes hs)
    exact absurd (Fragment.le_of_mem_units hwd) (Nat.not_le_of_lt hlt)

end TextMasking
