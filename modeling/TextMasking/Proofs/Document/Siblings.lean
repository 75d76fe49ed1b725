import TextMasking.Proofs.Document.Entries

/-! # The siblings of a node

The place of a node has the siblings before it, nearest first, and those after it; put together
around the node they are the children of its parent (`Document.WellFormed.children_of_place?`).  A
mask that is turned back is replaced by what it hides, when the text after it has been taken out
(`Forest.unmask_eq_fill`). -/

namespace TextMasking

namespace Forest

/-- The nodes of the first forest, the last one first, and then those of the second. -/
def onto : Forest → Forest → Forest
  | .nil, g => g
  | .text i s rest, g => rest.onto (.text i s g)
  | .mask i m rest, g => rest.onto (.mask i m g)
  | .element i t a c rest, g => rest.onto (.element i t a c g)

variable {f g before : Forest} {above : List Ancestor} {id i j : NodeId} {p : Place}
  {q : Option NodeId}

@[simp] theorem siblings_onto (f g : Forest) :
    (f.onto g).siblings = f.siblings.reverse ++ g.siblings := by
  induction f generalizing g with
  | nil => rfl
  | text i s rest ih => simp [onto, siblings, ih]
  | mask i m rest ih => simp [onto, siblings, ih]
  | element i t a c rest _ ih => simp [onto, siblings, ih]

theorem mem_entries_onto {x : NodeId × NodeEntry} :
    x ∈ (f.onto g).entries q ↔ x ∈ f.entries q ∨ x ∈ g.entries q := by
  induction f generalizing g with
  | nil => simp [onto, entries]
  | text i s rest ih => rw [onto, ih, entries, entries, List.mem_cons, List.mem_cons]; tauto
  | mask i m rest ih => rw [onto, ih, entries, entries, List.mem_cons, List.mem_cons]; tauto
  | element i t a c rest _ ih =>
      rw [onto, ih]
      simp only [entries, List.mem_cons, List.mem_append]
      tauto

/-- **The siblings of a node around it** are the forest itself, or the children of an element in it,
which is then the nearest one above the node. -/
theorem onto_of_placeFrom (hn : f.ids.Nodup) (h : placeFrom above before id f = some p) :
    p.above = above ∧ before.onto f = p.before.onto (p.node ++ p.after) ∨
      ∃ x t a rest, p.above = ⟨x, t, a⟩ :: rest ∧
        f.find? x = some (.element x t a (p.before.onto (p.node ++ p.after)) .nil) := by
  induction f generalizing above before with
  | nil => cases h
  | text i s rest ih | mask i m rest ih =>
      obtain ⟨hi, hn⟩ := List.nodup_cons.mp hn
      rw [placeFrom] at h
      split_ifs at h
      · cases h
        exact .inl ⟨rfl, rfl⟩
      · refine (ih hn h).imp_right ?_
        rintro ⟨x, t, a, above', habove, hfind⟩
        have hne : i ≠ x := fun e => hi (e ▸ mem_ids_of_find? hfind)
        exact ⟨x, t, a, above', habove, by rw [find?, if_neg hne, hfind]⟩
  | element i t a c rest ihc ih =>
      obtain ⟨hi, hn⟩ := List.nodup_cons.mp hn
      obtain ⟨hc, hr, hcr⟩ := List.nodup_append.mp hn
      rw [placeFrom] at h
      split_ifs at h
      · cases h
        exact .inl ⟨rfl, rfl⟩
      · cases hp : placeFrom (⟨i, t, a⟩ :: above) .nil id c with
        | some p' =>
            rw [hp] at h
            cases h
            refine .inr ?_
            rcases ihc hc hp with ⟨habove, honto⟩ | ⟨x, t', a', above', habove, hfind⟩
            · exact ⟨i, t, a, above, habove, by rw [find?, if_pos rfl, ← honto]; rfl⟩
            · have hx := mem_ids_of_find? hfind
              have hne : i ≠ x := fun e => hi (e ▸ List.mem_append_left _ hx)
              exact ⟨x, t', a', above', habove, by rw [find?, if_neg hne, hfind, Option.some_or]⟩
        | none =>
            rw [hp] at h
            refine (ih hr h).imp_right ?_
            rintro ⟨x, t', a', above', habove, hfind⟩
            have hx := mem_ids_of_find? hfind
            have hne : i ≠ x := fun e => hi (e ▸ List.mem_append_right _ hx)
            have hno : c.find? x = none := find?_eq_none_iff.mpr fun hxc => hcr x hxc x hx rfl
            exact ⟨x, t', a', above', habove, by
              rw [find?, if_neg hne, hno, hfind, Option.none_or]⟩

/-- The text that begins a forest. -/
def firstText : Forest → Option (NodeId × String)
  | .text i s _ => some (i, s)
  | _ => none

/-- The text that begins a forest, as a tree of its own. -/
def firstTree : Forest → List Forest
  | .text i s _ => [.text i s .nil]
  | _ => []

theorem exists_eq_text {s : String} (h : f.firstText = some (i, s)) :
    ∃ rest, f = .text i s rest := by
  cases f <;> cases h
  exact ⟨_, rfl⟩

theorem takeText_of_firstText (h : f.firstText = none) : f.takeText.1 = "" ∧ f.firstTree = [] := by
  cases f with
  | text i s rest => cases h
  | _ => exact ⟨rfl, rfl⟩

theorem mem_entries_of_firstText {s : String} (h : f.firstText = some (i, s))
    (q : Option NodeId) : (i, ⟨.text s, q, []⟩) ∈ f.entries q := by
  cases f <;> cases h
  exact List.mem_cons_self

theorem mem_siblings_of_firstText {s : String} (h : f.firstText = some (i, s)) :
    i ∈ f.siblings := by
  cases f <;> cases h
  exact List.mem_cons_self

/-! ### Turning a mask back -/

theorem substitute_of_not_mem {new : Forest} (h : id ∉ f.ids) : substitute id new f = f := by
  induction f with
  | nil => rfl
  | text i s rest ih =>
      simp only [ids, List.mem_cons, not_or] at h
      rw [substitute, if_neg (Ne.symm h.1), ih h.2]
  | mask i m rest ih =>
      simp only [ids, List.mem_cons, not_or] at h
      rw [substitute, if_neg (Ne.symm h.1), ih h.2]
  | element i t a c rest ihc ih =>
      simp only [ids, List.mem_cons, List.mem_append, not_or] at h
      rw [substitute, if_neg (Ne.symm h.1), ihc h.2.1, ih h.2.2]

/-- The forest without a text. -/
def without (text : Option (NodeId × String)) (f : Forest) : Forest :=
  match text with
  | some (j, _) => substitute j .nil f
  | none => f

/-- The forest with `s` in the place of the mask `id`: behind a text, or as the text `fresh`. -/
def fill (text : Option (NodeId × String)) (id fresh : NodeId) (s : String) (f : Forest) :
    Forest :=
  match text with
  | some (i, before) => substitute id .nil (substitute i (.text i (before ++ s) .nil) f)
  | none => substitute id (.text fresh s .nil) f

variable {prev next : Option (NodeId × String)} {s : String} {fresh : NodeId} {m : Mask}

theorem fill_of_not_mem (hid : id ∉ f.ids) (hprev : ∀ k c, prev = some (k, c) → k ∉ f.ids) :
    fill prev id fresh s f = f := by
  cases prev with
  | none => exact substitute_of_not_mem hid
  | some n =>
      obtain ⟨i, c⟩ := n
      rw [fill, substitute_of_not_mem (hprev _ _ rfl), substitute_of_not_mem hid]

theorem without_of_not_mem (hnext : ∀ k c, next = some (k, c) → k ∉ f.ids) :
    without next f = f := by
  cases next with
  | none => rfl
  | some n => exact substitute_of_not_mem (hnext _ _ rfl)

theorem fill_without_of_not_mem (hid : id ∉ f.ids) (hprev : ∀ k c, prev = some (k, c) → k ∉ f.ids)
    (hnext : ∀ k c, next = some (k, c) → k ∉ f.ids) :
    fill prev id fresh s (without next f) = f := by
  rw [without_of_not_mem hnext, fill_of_not_mem hid hprev]

theorem ids_after_subset (h : placeFrom above before id f = some p) : p.after.ids ⊆ f.ids := by
  induction f generalizing above before with
  | nil => cases h
  | text i s rest ih | mask i m rest ih =>
      rw [placeFrom] at h
      split_ifs at h
      · cases h
        exact List.subset_cons_self _ _
      · exact List.subset_cons_of_subset _ (ih h)
  | element i t a c rest ihc ih =>
      rw [placeFrom] at h
      split_ifs at h
      · cases h
        exact List.subset_cons_of_subset _ (List.subset_append_right _ _)
      · cases hp : placeFrom (⟨i, t, a⟩ :: above) .nil id c with
        | some p' =>
            rw [hp] at h
            cases h
            exact List.subset_cons_of_subset _ (List.subset_append_of_subset_left _ (ihc hp))
        | none =>
            rw [hp] at h
            exact List.subset_cons_of_subset _ (List.subset_append_of_subset_right _ (ih h))

/-- A node begins the forest, or the text before it is in the forest. -/
theorem before_cases (h : placeFrom above before id f = some p) :
    (p.before = before ∧ ∃ rest, f = p.node ++ rest) ∨
      ∀ k c, p.before.firstText = some (k, c) → k ∈ f.ids := by
  induction f generalizing above before with
  | nil => cases h
  | text i s rest ih =>
      rw [placeFrom] at h
      split_ifs at h
      · cases h
        exact .inl ⟨rfl, rest, rfl⟩
      · refine .inr fun k c hk => ?_
        rcases ih h with ⟨hb, -⟩ | hmem
        · rw [hb] at hk
          cases hk
          exact List.mem_cons_self
        · exact List.mem_cons_of_mem _ (hmem k c hk)
  | mask i m rest ih =>
      rw [placeFrom] at h
      split_ifs at h
      · cases h
        exact .inl ⟨rfl, rest, rfl⟩
      · refine .inr fun k c hk => ?_
        rcases ih h with ⟨hb, -⟩ | hmem
        · rw [hb] at hk
          cases hk
        · exact List.mem_cons_of_mem _ (hmem k c hk)
  | element i t a c rest ihc ih =>
      rw [placeFrom] at h
      split_ifs at h
      · cases h
        exact .inl ⟨rfl, rest, rfl⟩
      · refine .inr fun k s hk => ?_
        cases hp : placeFrom (⟨i, t, a⟩ :: above) .nil id c with
        | some p' =>
            rw [hp] at h
            cases h
            rcases ihc hp with ⟨hb, -⟩ | hmem
            · rw [hb] at hk
              cases hk
            · exact List.mem_cons_of_mem _ (List.mem_append_left _ (hmem k s hk))
        | none =>
            rw [hp] at h
            rcases ih h with ⟨hb, -⟩ | hmem
            · rw [hb] at hk
              cases hk
            · exact List.mem_cons_of_mem _ (List.mem_append_right _ (hmem k s hk))

theorem mem_ids_of_firstText {k : NodeId} {c : String} (h : f.firstText = some (k, c)) :
    k ∈ f.ids := by
  cases f <;> cases h
  exact List.mem_cons_self

theorem mem_ids_of_before (h : placeFrom above before id f = some p)
    (hb : before.firstText = none) (k : NodeId) (c : String)
    (hk : p.before.firstText = some (k, c)) : k ∈ f.ids := by
  rcases before_cases h with ⟨hbefore, -⟩ | hmem
  · rw [hbefore, hb] at hk
    cases hk
  · exact hmem k c hk

theorem mem_ids_of_after (h : placeFrom above before id f = some p) (k : NodeId) (c : String)
    (hk : p.after.firstText = some (k, c)) : k ∈ f.ids :=
  ids_after_subset h (mem_ids_of_firstText hk)

/-- A node is neither the mask nor a text beside it. -/
def Apart (prev next : Option (NodeId × String)) (id i : NodeId) : Prop :=
  i ≠ id ∧ prev.map Prod.fst ≠ some i ∧ next.map Prod.fst ≠ some i

theorem apart_of_not_mem (hi : i ∉ f.ids) (hid : i ≠ id)
    (hprev : ∀ k c, prev = some (k, c) → k ∈ f.ids)
    (hnext : ∀ k c, next = some (k, c) → k ∈ f.ids) : Apart prev next id i := by
  refine ⟨hid, fun h => ?_, fun h => ?_⟩
  · obtain ⟨⟨k, c⟩, hk, rfl⟩ := Option.map_eq_some_iff.mp h
    exact hi (hprev k c hk)
  · obtain ⟨⟨k, c⟩, hk, rfl⟩ := Option.map_eq_some_iff.mp h
    exact hi (hnext k c hk)

theorem fill_without_text {c : String} (h : Apart prev next id i) :
    fill prev id fresh s (without next (.text i c f)) =
      .text i c (fill prev id fresh s (without next f)) := by
  obtain ⟨hid, hprev, hnext⟩ := h
  rcases prev with _ | ⟨k, b⟩ <;> rcases next with _ | ⟨l, b'⟩ <;>
    simp_all [fill, without, substitute, eq_comm]

theorem fill_without_mask {m : Mask} (h : Apart prev next id i) :
    fill prev id fresh s (without next (.mask i m f)) =
      .mask i m (fill prev id fresh s (without next f)) := by
  obtain ⟨hid, hprev, hnext⟩ := h
  rcases prev with _ | ⟨k, b⟩ <;> rcases next with _ | ⟨l, b'⟩ <;>
    simp_all [fill, without, substitute, eq_comm]

theorem fill_without_element {t : String} {a : Attributes} {c : Forest}
    (h : Apart prev next id i) :
    fill prev id fresh s (without next (.element i t a c f)) =
      .element i t a (fill prev id fresh s (without next c))
        (fill prev id fresh s (without next f)) := by
  obtain ⟨hid, hprev, hnext⟩ := h
  rcases prev with _ | ⟨k, b⟩ <;> rcases next with _ | ⟨l, b'⟩ <;>
    simp_all [fill, without, substitute, eq_comm]

/-- A mask that begins a forest is replaced, and the text after it is left out. -/
theorem fill_none_mask (h : id ∉ f.ids) :
    fill none id fresh s (without f.firstText (.mask id m f)) = .text fresh s f.takeText.2 := by
  cases f with
  | text j c rest =>
      have hne : j ≠ id := fun e => h (e ▸ List.mem_cons_self)
      simp [fill, without, firstText, takeText, substitute, hne.symm]
  | _ => simp [fill, without, firstText, takeText, substitute]

/-- A text that begins a forest takes what the mask right after it hides, and the text after that is
left out. -/
theorem fill_some_mask {c : String} (hi : i ∉ (mask id m f).ids) (h : id ∉ f.ids) :
    fill (some (i, c)) id fresh s (without f.firstText (.text i c (.mask id m f))) =
      .text i (c ++ s) f.takeText.2 := by
  simp only [ids, List.mem_cons, not_or] at hi
  cases f with
  | text j b rest =>
      simp only [ids, List.mem_cons, not_or] at hi h
      simp [fill, without, firstText, takeText, substitute, hi, h]
  | _ => simp [fill, without, firstText, takeText, substitute, hi]

/-- **A mask that is turned back** is filled in when the text after it has been taken out. -/
theorem unmask_eq_fill (fresh : NodeId) (hn : f.ids.Nodup)
    (h : placeFrom above before id f = some p) (hm : p.node = .mask id m .nil)
    (hb : ∀ m' rest, f = .mask id m' rest → before.firstText = none) :
    f.unmask id fresh = fill p.before.firstText id fresh (m.hidden ++ p.after.takeText.1)
      (without p.after.firstText f) := by
  induction f generalizing above before with
  | nil => cases h
  | text i c rest ih =>
      obtain ⟨hi, hn⟩ := List.nodup_cons.mp hn
      rw [placeFrom] at h
      split_ifs at h with hid
      · cases h
        cases hm
      · by_cases hr : ∃ m' more, rest = .mask id m' more
        · obtain ⟨m', more, rfl⟩ := hr
          rw [placeFrom, if_pos rfl] at h
          cases h
          cases hm
          exact unmask_text_mask.trans (fill_some_mask hi (List.nodup_cons.mp hn).1).symm
        · have hprev : ∀ k c, p.before.firstText = some (k, c) → k ∈ rest.ids := by
            refine (before_cases h).resolve_left ?_
            rintro ⟨-, more, hmore⟩
            exact hr ⟨m, more, by rw [hmore, hm]; rfl⟩
          rw [unmask_text fun m' more e => hr ⟨m', more, e⟩,
            ih hn h fun m' more e => absurd ⟨m', more, e⟩ hr,
            fill_without_text (apart_of_not_mem hi hid hprev (mem_ids_of_after h))]
  | mask i m' rest ih =>
      obtain ⟨hi, hn⟩ := List.nodup_cons.mp hn
      rw [placeFrom] at h
      split_ifs at h with hid
      · subst hid
        cases h
        cases hm
        rw [unmask, if_pos rfl, hb _ _ rfl, fill_none_mask hi]
      · rw [unmask, if_neg hid, ih hn h fun _ _ _ => rfl, fill_without_mask
          (apart_of_not_mem hi hid (mem_ids_of_before h rfl) (mem_ids_of_after h))]
  | element i t a c rest ihc ih =>
      obtain ⟨hi, hn⟩ := List.nodup_cons.mp hn
      obtain ⟨hc, hr, hcr⟩ := List.nodup_append.mp hn
      simp only [List.mem_append, not_or] at hi
      rw [placeFrom] at h
      split_ifs at h with hid
      · cases h
        cases hm
      · rw [unmask]
        cases hp : placeFrom (⟨i, t, a⟩ :: above) .nil id c with
        | some p' =>
            rw [hp] at h
            cases h
            have hidc : id ∈ c.ids := by
              by_contra hno
              rw [placeFrom_eq_none_iff.mpr hno] at hp
              cases hp
            have hrest {k : NodeId} (hk : k ∈ c.ids) : k ∉ rest.ids := fun h => hcr k hk k h rfl
            have hprev := mem_ids_of_before hp rfl
            have hnext := mem_ids_of_after hp
            rw [fill_without_element (apart_of_not_mem hi.1 hid hprev hnext),
              ihc hc hp fun _ _ _ => rfl, unmask_of_not_mem (hrest hidc),
              fill_without_of_not_mem (hrest hidc) (fun k b hk => hrest (hprev k b hk))
                fun k b hk => hrest (hnext k b hk)]
        | none =>
            rw [hp] at h
            have hidc := placeFrom_eq_none_iff.mp hp
            have hfirst {k : NodeId} (hk : k ∈ rest.ids) : k ∉ c.ids := fun h => hcr k h k hk rfl
            have hprev := mem_ids_of_before h rfl
            have hnext := mem_ids_of_after h
            rw [fill_without_element (apart_of_not_mem hi.2 hid hprev hnext),
              ih hr h fun _ _ _ => rfl, unmask_of_not_mem hidc,
              fill_without_of_not_mem hidc (fun k b hk => hfirst (hprev k b hk))
                fun k b hk => hfirst (hnext k b hk)]

end Forest

namespace Document.WellFormed

variable {d : Document} (wf : d.WellFormed) {id : NodeId} {p : Forest.Place}
include wf

/-- **The children of the parent of a node** are the node and its siblings around it. -/
theorem children_of_place? (hp : d.place? id = some p) (ha : p.above ≠ []) :
    ∃ x, d.parent? id = some x ∧
      d.children x = p.before.siblings.reverse ++ id :: p.after.siblings ∧
      p.before.entries (some x) ⊆ d.entries ∧ p.after.entries (some x) ⊆ d.entries := by
  obtain ⟨u, hu, -, hup⟩ := exists_tree_of_place? hp
  rcases Forest.onto_of_placeFrom (wf.tree_nodup hu) hup with ⟨hnil, -⟩ | ⟨x, t, a, rest, habove,
    hfind⟩
  · exact absurd hnil ha
  · have hnode := (isNode_of_tree? (tree?_of_place? hp)).siblings_eq
    have htree := wf.tree?_of_mem hu (Forest.mem_ids_of_find? hfind)
    obtain ⟨q, hq⟩ := Forest.entries_subset_of_find? hfind none
    have hlisted {y : NodeId × NodeEntry} (hy : y ∈ p.before.entries (some x) ∨
        y ∈ p.after.entries (some x)) : y ∈ d.entries := by
      refine List.mem_flatMap.mpr ⟨u, hu, hq ?_⟩
      rw [Forest.entries, Forest.entries, List.append_nil, List.mem_cons, Forest.mem_entries_onto,
        Forest.entries_append, List.mem_append]
      tauto
    refine ⟨x, ?_, ?_, fun y hy => hlisted (.inl hy), fun y hy => hlisted (.inr hy)⟩
    · rw [parent?, above, hp]
      simp [habove]
    · rw [children, htree, hfind]
      dsimp only
      rw [Forest.siblings_onto, Forest.siblings_append, hnode, List.singleton_append]

/-- **A document with a mask turned back** is filled in, tree by tree, when the text after the mask
has been taken out. -/
theorem map_unmask_eq_fill {m : Mask} (fresh : NodeId) (hp : d.place? id = some p)
    (hnode : p.node = .mask id m .nil) :
    d.trees.map (·.unmask id fresh) = d.trees.map fun t =>
      Forest.fill p.before.firstText id fresh (m.hidden ++ p.after.takeText.1)
        (Forest.without p.after.firstText t) := by
  obtain ⟨u, hu, hid, hup⟩ := exists_tree_of_place? hp
  refine List.map_congr_left fun t ht => ?_
  by_cases htu : t = u
  · subst htu
    exact Forest.unmask_eq_fill fresh (wf.tree_nodup ht) hup hnode fun _ _ _ => rfl
  · have hother {k : NodeId} (hk : k ∈ u.ids) : k ∉ t.ids := fun h =>
      htu (wf.tree_unique ht hu h hk)
    rw [Forest.unmask_of_not_mem (hother hid), Forest.fill_without_of_not_mem (hother hid)
      (fun k c hk => hother (Forest.mem_ids_of_before hup rfl k c hk))
      fun k c hk => hother (Forest.mem_ids_of_after hup k c hk)]

end Document.WellFormed

end TextMasking
