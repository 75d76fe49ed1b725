import TextMasking.Proofs.Document.Spots

/-! # What is kept when leaves change

A document is read with some of its leaves left out (`Document.kept`): its elements stay as they
are, and so does the order of what is left.  A node that is not left out keeps its place in this
reading (`Document.place?_of_kept`), so two documents that read alike agree on where it stands, what
it is and in which order it comes among its siblings (`Document.Agree`).

A text that is taken apart is no longer there and its leaves are new, so where these are left out
the document reads as before (`Document.kept_replaceText`). -/

namespace TextMasking

namespace Forest

/-- The forest without the leaves that are not to be kept. -/
def prune (keeps : NodeId → Bool) : Forest → Forest
  | .nil => .nil
  | .text i s rest => if keeps i then .text i s (rest.prune keeps) else rest.prune keeps
  | .mask i m rest => if keeps i then .mask i m (rest.prune keeps) else rest.prune keeps
  | .element i t a children rest => .element i t a (children.prune keeps) (rest.prune keeps)

/-- The first node with what is kept below it. -/
def pruneBelow (keeps : NodeId → Bool) : Forest → Forest
  | .element i t a children rest => .element i t a (children.prune keeps) rest
  | f => f

/-- A place among what is kept. -/
def Place.prune (keeps : NodeId → Bool) (p : Place) : Place :=
  ⟨p.above, p.before.prune keeps, p.node.pruneBelow keeps, p.after.prune keeps⟩

variable {keeps : NodeId → Bool} {f g : Forest} {above : List Ancestor} {id i : NodeId}

@[simp] theorem prune_append (f g : Forest) :
    (f ++ g).prune keeps = f.prune keeps ++ g.prune keeps := by
  induction f with
  | nil => rfl
  | text i s rest ih =>
      simp only [text_append, prune, ih]
      split_ifs <;> rfl
  | mask i m rest ih =>
      simp only [mask_append, prune, ih]
      split_ifs <;> rfl
  | element i t a c rest _ ih => simp only [element_append, prune, ih]

/-- What is kept keeps its place. -/
theorem placeFrom_prune (h : keeps id = true) (before : Forest) :
    placeFrom above (before.prune keeps) id (f.prune keeps) =
      (placeFrom above before id f).map (Place.prune keeps) := by
  induction f generalizing above before with
  | nil => rfl
  | text i s rest ih =>
      rw [placeFrom, prune]
      by_cases e : i = id
      · simp [e, h, placeFrom, Place.prune, pruneBelow]
      · by_cases hi : keeps i = true
        · have := @ih above (.text i s before)
          rw [prune, if_pos hi] at this
          rw [if_pos hi, if_neg e, placeFrom, if_neg e, this]
        · have := @ih above (.text i s before)
          rw [prune, if_neg hi] at this
          rw [if_neg hi, if_neg e, this]
  | mask i m rest ih =>
      rw [placeFrom, prune]
      by_cases e : i = id
      · simp [e, h, placeFrom, Place.prune, pruneBelow]
      · by_cases hi : keeps i = true
        · have := @ih above (.mask i m before)
          rw [prune, if_pos hi] at this
          rw [if_pos hi, if_neg e, placeFrom, if_neg e, this]
        · have := @ih above (.mask i m before)
          rw [prune, if_neg hi] at this
          rw [if_neg hi, if_neg e, this]
  | element i t a c rest ihc ih =>
      rw [placeFrom, prune, placeFrom]
      by_cases e : i = id
      · rw [if_pos e, if_pos e]
        rfl
      · have hc : placeFrom (⟨i, t, a⟩ :: above) .nil id (c.prune keeps) = _ := ihc .nil
        have hrest : placeFrom above (.element i t a (c.prune keeps) (before.prune keeps)) id
            (rest.prune keeps) = _ := ih (.element i t a c before)
        rw [if_neg e, if_neg e, hc, hrest]
        cases placeFrom (⟨i, t, a⟩ :: above) .nil id c <;> rfl

/-- The order of what is kept stays. -/
theorem filter_siblings_prune (f : Forest) :
    (f.prune keeps).siblings.filter keeps = f.siblings.filter keeps := by
  induction f with
  | nil => rfl
  | text i s rest ih =>
      by_cases hi : keeps i = true <;> simp [prune, siblings, hi, ih]
  | mask i m rest ih =>
      by_cases hi : keeps i = true <;> simp [prune, siblings, hi, ih]
  | element i t a c rest _ ih =>
      by_cases hi : keeps i = true <;> simp [prune, siblings, hi, ih]

/-- Leaves of fragments that are not kept leave nothing behind. -/
theorem prune_toForest {fresh : NodeId} (h : ∀ i, fresh ≤ i → keeps i = false)
    (fragments : List Fragment) : (Fragment.toForest fresh fragments).prune keeps = .nil := by
  induction fragments generalizing fresh with
  | nil => rfl
  | cons f rest ih =>
      have hrest := @ih (fresh + 1) fun i hi => h i (Nat.le_of_succ_le hi)
      have hfirst := h fresh (Nat.le_refl _)
      cases f <;> simp [Fragment.toForest, prune, hfirst, hrest]

/-- A text that is not kept may be taken apart. -/
theorem prune_splice (hid : keeps id = false) (hg : g.prune keeps = .nil) :
    (splice id g f).prune keeps = f.prune keeps := by
  induction f with
  | nil => rfl
  | text i s rest ih =>
      rw [splice]
      split_ifs with e
      · rw [prune_append, hg, nil_append, prune, e, hid, if_neg Bool.false_ne_true]
      · rw [prune, prune, ih]
  | mask i m rest ih => rw [splice, prune, prune, ih]
  | element i t a c rest ihc ih => rw [splice, prune, prune, ihc, ih]

/-- Leaves of fragments stand below the same elements. -/
theorem above_of_mem_toForest {fresh : NodeId} {fragments : List Fragment} {s : Spot}
    (h : (i, s) ∈ (Fragment.toForest fresh fragments).spotsFrom above) : s.above = above := by
  induction fragments generalizing fresh with
  | nil => cases h
  | cons f rest ih =>
      cases f with
      | text c | mask m =>
          cases List.mem_cons.mp h with
          | inl e => rw [(Prod.mk.inj e).2]
          | inr h => exact ih h

/-- A spot that is in a list, or lies where one of the spots of `id` in it does, does so in every
longer list. -/
theorem mem_or_above_of_subset {l l' : List (NodeId × Spot)} {s : Spot} (hl : l ⊆ l')
    (h : (i, s) ∈ l ∨ ∃ s₀, (id, s₀) ∈ l ∧ s.above = s₀.above) :
    (i, s) ∈ l' ∨ ∃ s₀, (id, s₀) ∈ l' ∧ s.above = s₀.above := by
  obtain h | ⟨s₀, hs₀, ha⟩ := h
  · exact .inl (hl h)
  · exact .inr ⟨s₀, hl hs₀, ha⟩

/-- The leaves in the place of a text stand below the elements that it stood below. -/
theorem above_of_mem_splice {fresh : NodeId} {fragments : List Fragment} {s : Spot}
    (h : (i, s) ∈ (splice id (Fragment.toForest fresh fragments) f).spotsFrom above) :
    (i, s) ∈ f.spotsFrom above ∨ ∃ s₀, (id, s₀) ∈ f.spotsFrom above ∧ s.above = s₀.above := by
  induction f generalizing above with
  | nil => cases h
  | text j c rest ih =>
      rw [splice] at h
      split_ifs at h with e
      · rw [spotsFrom_append] at h
        cases List.mem_append.mp h with
        | inl h =>
            refine .inr ⟨⟨above, false⟩, ?_, above_of_mem_toForest h⟩
            rw [← e]
            exact List.mem_cons_self
        | inr h => exact .inl (List.mem_cons_of_mem _ h)
      · cases List.mem_cons.mp h with
        | inl e => exact .inl (e ▸ List.mem_cons_self)
        | inr h =>
            exact mem_or_above_of_subset (List.subset_cons_self _ _) (ih h)
  | mask j m rest ih =>
      cases List.mem_cons.mp h with
      | inl e => exact .inl (e ▸ List.mem_cons_self)
      | inr h =>
          exact mem_or_above_of_subset (List.subset_cons_self _ _) (ih h)
  | element j t a c rest ihc ih =>
      cases List.mem_cons.mp h with
      | inl e => exact .inl (e ▸ List.mem_cons_self)
      | inr h =>
          cases List.mem_append.mp h with
          | inl h =>
              exact mem_or_above_of_subset
                (fun _ h => List.mem_cons_of_mem _ (List.mem_append_left _ h)) (ihc h)
          | inr h =>
              exact mem_or_above_of_subset
                (fun _ h => List.mem_cons_of_mem _ (List.mem_append_right _ h)) (ih h)

end Forest

namespace Document

open Forest (Place)

/-- The trees of a document without the leaves that are not to be kept. -/
def kept (keeps : NodeId → Bool) (d : Document) : List Forest :=
  (d.trees.map (·.prune keeps)).filter (· != .nil)

variable {keeps : NodeId → Bool} {d d' : Document} {id i : NodeId}

theorem place?_kept (h : keeps id = true) :
    (d.kept keeps).findSome? (·.place? id) = (d.place? id).map (Place.prune keeps) := by
  unfold kept place?
  induction d.trees with
  | nil => rfl
  | cons t ts ih =>
      have ht : (t.prune keeps).place? id = (t.place? id).map (Place.prune keeps) :=
        Forest.placeFrom_prune h .nil
      rw [List.map_cons, List.findSome?_cons]
      by_cases hnil : t.prune keeps = .nil
      · rw [List.filter_cons_of_neg (by simp [hnil]), ih]
        rw [hnil] at ht
        cases hp : t.place? id with
        | none => rfl
        | some p =>
            rw [hp] at ht
            cases ht
      · rw [List.filter_cons_of_pos (by simpa using hnil), List.findSome?_cons, ht, ih]
        cases t.place? id <;> rfl

/-- **What is kept has its place in both of two documents that read alike.** -/
theorem place?_of_kept (he : d'.kept keeps = d.kept keeps) (h : keeps id = true) :
    (d'.place? id).map (Place.prune keeps) = (d.place? id).map (Place.prune keeps) := by
  rw [← place?_kept h, ← place?_kept h, he]

/-- Of a text that is taken apart and of its leaves nothing is kept. -/
theorem kept_replaceText {fragments : List Fragment} {new : List NodeId}
    (h : d.replaceText id fragments = .ok (new, d')) (hid : keeps id = false)
    (hfresh : ∀ i, d.fresh ≤ i → keeps i = false) : d'.kept keeps = d.kept keeps := by
  obtain ⟨p, s, -, -, -, -, ht, -⟩ := replaceText_cases h
  have hsplice (f : Forest) :
      (Forest.splice id (Fragment.toForest d.fresh fragments) f).prune keeps = f.prune keeps :=
    Forest.prune_splice hid (Forest.prune_toForest hfresh fragments)
  have hloose : (Forest.text id s .nil).prune keeps = .nil := by
    rw [Forest.prune, hid]
    rfl
  unfold kept
  rw [ht, List.map_append, List.map_map, List.filter_append]
  simp [Function.comp_def, hsplice, hloose]

/-- The nodes after a text was taken apart are those before, where they were, and others that stand
below no element or below the elements that the text stood below. -/
theorem above_of_mem_replaceText {fragments : List Fragment} {new : List NodeId}
    (h : d.replaceText id fragments = .ok (new, d')) {s : Spot} (hs : (i, s) ∈ d'.spots) :
    (i, s) ∈ d.spots ∨ s.above = [] ∨ ∃ s₀, (id, s₀) ∈ d.spots ∧ s.above = s₀.above := by
  obtain ⟨p, c, -, -, -, -, ht, -⟩ := replaceText_cases h
  rw [spots, ht, List.flatMap_append, List.mem_append, List.flatMap_map] at hs
  cases hs with
  | inl hs =>
      obtain ⟨f, hf, hs⟩ := List.mem_flatMap.mp hs
      cases Forest.above_of_mem_splice hs with
      | inl hs => exact .inl (List.mem_flatMap.mpr ⟨f, hf, hs⟩)
      | inr hs =>
          obtain ⟨s₀, hs₀, ha⟩ := hs
          exact .inr (.inr ⟨s₀, List.mem_flatMap.mpr ⟨f, hf, hs₀⟩, ha⟩)
  | inr hs =>
      rw [List.flatMap_singleton, Forest.spotsFrom] at hs
      obtain ⟨-, rfl⟩ := Prod.mk.inj (List.mem_singleton.mp hs)
      exact .inr (.inl rfl)

/-! ### What can be seen of a node -/

/-- Two documents agree on a node: on where it stands, on what it is and on what it holds. -/
structure Agree (d d' : Document) (id : NodeId) : Prop where
  above_eq : d'.above id = d.above id
  excluded_eq : d'.excluded id = d.excluded id
  tag?_eq : d'.tag? id = d.tag? id
  attribute?_eq : ∀ name, d'.attribute? id name = d.attribute? id name
  text?_eq : d'.text? id = d.text? id
  mask?_eq : d'.mask? id = d.mask? id

theorem Agree.parent?_eq (h : d.Agree d' id) : d'.parent? id = d.parent? id :=
  congrArg List.head? h.above_eq

/-- Documents that read alike agree on what is kept. -/
theorem agree_of_kept (he : d'.kept keeps = d.kept keeps) (h : keeps id = true) :
    d.Agree d' id := by
  have hplace := place?_of_kept he h
  cases hp : d.place? id with
  | none =>
      rw [hp, Option.map_none, Option.map_eq_none_iff] at hplace
      constructor <;> simp [above, excluded, tag?, attribute?, text?, mask?, tree?, hp, hplace]
  | some p =>
      rw [hp, Option.map_some, Option.map_eq_some_iff] at hplace
      obtain ⟨p', hp', hprune⟩ := hplace
      obtain ⟨habove, -, hnode, -⟩ := Place.mk.inj hprune
      have hhead : p'.node.headExcluded = p.node.headExcluded := by
        cases hn : p.node <;> cases hn' : p'.node <;>
          simp_all [Forest.pruneBelow, Forest.headExcluded]
      constructor <;>
        simp only [above, excluded, Place.excluded, tag?, attribute?, text?, mask?, tree?, hp, hp',
          habove, hhead, Option.map_some]
      all_goals
        cases hn : p.node <;> cases hn' : p'.node <;> simp_all [Forest.pruneBelow]

/-- Taking a text apart changes nothing about the other nodes. -/
theorem agree_replaceText {fragments : List Fragment} {new : List NodeId} (wf : d.WellFormed)
    (h : d.replaceText id fragments = .ok (new, d')) (hi : i ∈ d.ids) (hne : i ≠ id) :
    d.Agree d' i := by
  have hlt := wf.mem_ids_iff.mp hi
  have hkept : d'.kept (· == i) = d.kept (· == i) := by
    refine kept_replaceText h ?_ ?_
    · simpa using hne.symm
    · intro j hj
      simpa using (Nat.ne_of_lt (Nat.lt_of_lt_of_le hlt hj)).symm
  exact agree_of_kept hkept (beq_self_eq_true i)

/-- The kept children of a kept element come in the same order. -/
theorem filter_children_of_kept (he : d'.kept keeps = d.kept keeps) (h : keeps id = true) :
    (d'.children id).filter keeps = (d.children id).filter keeps := by
  have hplace := place?_of_kept he h
  cases hp : d.place? id with
  | none =>
      rw [hp, Option.map_none, Option.map_eq_none_iff] at hplace
      simp [children, tree?, hp, hplace]
  | some p =>
      rw [hp, Option.map_some, Option.map_eq_some_iff] at hplace
      obtain ⟨p', hp', hprune⟩ := hplace
      obtain ⟨-, -, hnode, -⟩ := Place.mk.inj hprune
      simp only [children, tree?, hp, hp', Option.map_some]
      cases hn : p.node <;> cases hn' : p'.node <;> rw [hn, hn'] at hnode <;>
        simp only [Forest.pruneBelow, Forest.element.injEq, reduceCtorEq] at hnode ⊢
      rw [← Forest.filter_siblings_prune, hnode.2.2.2.1, Forest.filter_siblings_prune]

end Document

end TextMasking
