import TextMasking.Proofs.Document.History
import TextMasking.Proofs.Document.Outline

/-! # Host edits on outlines

Each edit of the host acts on the outlines of a document by an operation of their own: taking an
element out joins the runs on both sides of it (`Outline.erase`), putting one below another joins it
to the end of the last run (`Outline.appendUnder`).  Whether an edit is refused can be told from the
outlines too.  All operations commute with giving the elements other numbers (`Outline.rename`). -/

namespace TextMasking

namespace Outline

/-! ### Operations -/

/-- Both outlines, the last run of the first joined to the first run of the second. -/
def append : Outline → Outline → Outline
  | .nil, o => o
  | .run s rest, o => joinText s (rest.append o)
  | .element i t a children rest, o => .element i t a children (rest.append o)

/-- The outline without an element and what lies below it. -/
def erase (id : NodeId) : Outline → Outline
  | .nil => .nil
  | .run s rest => joinText s (rest.erase id)
  | .element i t a children rest =>
    if i = id then rest else .element i t a (children.erase id) (rest.erase id)

/-- The outline with `o` at the end of the children of an element. -/
def appendUnder (parent : NodeId) (o : Outline) : Outline → Outline
  | .nil => .nil
  | .run s rest => joinText s (appendUnder parent o rest)
  | .element i t a children rest =>
    if i = parent then .element i t a (children.append o) rest
    else .element i t a (appendUnder parent o children) (appendUnder parent o rest)

/-- The outline with an attribute of an element set. -/
def setAttribute (id : NodeId) (name value : String) : Outline → Outline
  | .nil => .nil
  | .run s rest => joinText s (rest.setAttribute id name value)
  | .element i t a children rest =>
    if i = id then .element i t (Forest.setAttributes name value a) children rest
    else .element i t a (children.setAttribute id name value) (rest.setAttribute id name value)

/-- The outline with other numbers. -/
def rename (ν : NodeId → NodeId) : Outline → Outline
  | .nil => .nil
  | .run s rest => joinText s (rest.rename ν)
  | .element i t a children rest => .element (ν i) t a (children.rename ν) (rest.rename ν)

/-- The elements in document order. -/
def ids : Outline → List NodeId
  | .nil => []
  | .run _ rest => rest.ids
  | .element i _ _ children rest => i :: (children.ids ++ rest.ids)

@[simp] theorem append_joinText (s : String) (o p : Outline) :
    (joinText s o).append p = joinText s (o.append p) := by
  cases o with
  | nil => rfl
  | run s' rest => rw [joinText, append, append, joinText_joinText]
  | element => rfl

@[simp] theorem erase_joinText (s : String) (o : Outline) (id : NodeId) :
    (joinText s o).erase id = joinText s (o.erase id) := by
  cases o with
  | nil => rfl
  | run s' rest => rw [joinText, erase, erase, joinText_joinText]
  | element => rfl

@[simp] theorem appendUnder_joinText (s : String) (o p : Outline) (id : NodeId) :
    appendUnder id p (joinText s o) = joinText s (appendUnder id p o) := by
  cases o with
  | nil => rfl
  | run s' rest => rw [joinText, appendUnder, appendUnder, joinText_joinText]
  | element => rfl

@[simp] theorem setAttribute_joinText (s : String) (o : Outline) (id : NodeId)
    (name value : String) :
    (joinText s o).setAttribute id name value = joinText s (o.setAttribute id name value) := by
  cases o with
  | nil => rfl
  | run s' rest => rw [joinText, setAttribute, setAttribute, joinText_joinText]
  | element => rfl

@[simp] theorem rename_joinText (s : String) (o : Outline) (ν : NodeId → NodeId) :
    (joinText s o).rename ν = joinText s (o.rename ν) := by
  cases o with
  | nil => rfl
  | run s' rest => rw [joinText, rename, rename, joinText_joinText]
  | element => rfl

@[simp] theorem ids_joinText (s : String) (o : Outline) : (joinText s o).ids = o.ids := by
  cases o <;> rfl

@[simp] theorem joinText_ne_nil (s : String) (o : Outline) : joinText s o ≠ .nil := by
  cases o <;> simp [joinText]

/-! ### Renaming -/

variable {ν : NodeId → NodeId}

theorem rename_append (o p : Outline) :
    (o.append p).rename ν = (o.rename ν).append (p.rename ν) := by
  induction o with
  | nil => rfl
  | run s rest ih => rw [append, rename_joinText, ih, rename, append_joinText]
  | element i t a c rest _ ih => rw [append, rename, ih, rename, append]

@[simp] theorem ids_rename (o : Outline) : (o.rename ν).ids = o.ids.map ν := by
  induction o with
  | nil => rfl
  | run s rest ih => rw [rename, ids_joinText, ih, ids]
  | element i t a c rest ihc ih => simp [rename, ids, ihc, ih]

@[simp] theorem content_rename (o : Outline) : (o.rename ν).content = o.content := by
  induction o with
  | nil => rfl
  | run s rest ih => rw [rename, content_joinText, ih, content]
  | element i t a c rest ihc ih => simp [rename, content, ihc, ih]

/-- Numbers that agree on the elements rename alike. -/
theorem rename_congr {ν' : NodeId → NodeId} {o : Outline} (h : ∀ i ∈ o.ids, ν i = ν' i) :
    o.rename ν = o.rename ν' := by
  induction o with
  | nil => rfl
  | run s rest ih => rw [rename, rename, ih h]
  | element i t a c rest ihc ih =>
      simp only [ids, List.mem_cons, List.mem_append] at h
      rw [rename, rename, h i (.inl rfl), ihc fun j hj => h j (.inr (.inl hj)),
        ih fun j hj => h j (.inr (.inr hj))]

/-- The new number of `id` is that of no other element. -/
def Separates (ν : NodeId → NodeId) (o : Outline) (id : NodeId) : Prop :=
  ∀ i ∈ o.ids, ν i = ν id → i = id

section

variable {i id : NodeId} {t : String} {a : Attributes} {c rest : Outline}

theorem Separates.head (h : Separates ν (.element i t a c rest) id) : ν i = ν id ↔ i = id :=
  ⟨h i List.mem_cons_self, congrArg ν⟩

theorem Separates.children (h : Separates ν (.element i t a c rest) id) : Separates ν c id :=
  fun j hj => h j (List.mem_cons_of_mem _ (List.mem_append_left _ hj))

theorem Separates.after (h : Separates ν (.element i t a c rest) id) : Separates ν rest id :=
  fun j hj => h j (List.mem_cons_of_mem _ (List.mem_append_right _ hj))

end

theorem rename_erase {o : Outline} {id : NodeId} (h : Separates ν o id) :
    (o.erase id).rename ν = (o.rename ν).erase (ν id) := by
  induction o with
  | nil => rfl
  | run s rest ih => rw [erase, rename_joinText, ih h, rename, erase_joinText]
  | element i t a c rest ihc ih =>
      rw [erase, rename, erase]
      simp only [h.head]
      split_ifs
      · rfl
      · rw [rename, ihc h.children, ih h.after]

theorem rename_appendUnder {o p : Outline} {id : NodeId} (h : Separates ν o id) :
    (appendUnder id p o).rename ν = appendUnder (ν id) (p.rename ν) (o.rename ν) := by
  induction o with
  | nil => rfl
  | run s rest ih => rw [appendUnder, rename_joinText, ih h, rename, appendUnder_joinText]
  | element i t a c rest ihc ih =>
      rw [appendUnder, rename, appendUnder]
      simp only [h.head]
      split_ifs
      · rw [rename, rename_append]
      · rw [rename, ihc h.children, ih h.after]

theorem rename_setAttribute {o : Outline} {id : NodeId} {name value : String}
    (h : Separates ν o id) :
    (o.setAttribute id name value).rename ν = (o.rename ν).setAttribute (ν id) name value := by
  induction o with
  | nil => rfl
  | run s rest ih => rw [setAttribute, rename_joinText, ih h, rename, setAttribute_joinText]
  | element i t a c rest ihc ih =>
      rw [setAttribute, rename, setAttribute]
      simp only [h.head]
      split_ifs
      · rfl
      · rw [rename, ihc h.children, ih h.after]

theorem find?_rename {o : Outline} {id : NodeId} (h : Separates ν o id) :
    (o.rename ν).find? (ν id) = (o.find? id).map (rename ν) := by
  induction o with
  | nil => rfl
  | run s rest ih => rw [rename, find?_joinText, ih h, find?]
  | element i t a c rest ihc ih =>
      rw [rename, find?, find?]
      simp only [h.head]
      split_ifs
      · rfl
      · rw [ihc h.children, ih h.after]
        cases c.find? id <;> rfl

/-- The number of the element that an outline begins with. -/
def head? : Outline → Option NodeId
  | .element i _ _ _ _ => some i
  | _ => none

end Outline

namespace Forest

/-! ### Edits of forests -/

theorem outline_append (f g : Forest) : (f ++ g).outline = f.outline.append g.outline := by
  induction f with
  | nil => rfl
  | text i s rest ih => rw [text_append, outline, ih, outline, Outline.append_joinText]
  | mask i m rest ih => rw [mask_append, outline, ih, outline, Outline.append_joinText]
  | element i t a c rest _ ih => rw [element_append, outline, ih, outline, Outline.append]

/-- Every node with the number `id` is an element. -/
def OnlyElement (f : Forest) (id : NodeId) : Prop :=
  ∀ k, (id, k) ∈ f.nodes → ∃ t, k = .element t

theorem outline_erase {f : Forest} {id : NodeId} (h : f.OnlyElement id) :
    (f.erase id).outline = f.outline.erase id := by
  induction f with
  | nil => rfl
  | text i s rest ih =>
      have hi : i ≠ id := by
        rintro rfl
        obtain ⟨t, e⟩ := h (.text s) List.mem_cons_self
        cases e
      rw [erase, if_neg hi, outline, ih fun k hk => h k (List.mem_cons_of_mem _ hk), outline,
        Outline.erase_joinText]
  | mask i m rest ih =>
      have hi : i ≠ id := by
        rintro rfl
        obtain ⟨t, e⟩ := h (.mask m) List.mem_cons_self
        cases e
      rw [erase, if_neg hi, outline, ih fun k hk => h k (List.mem_cons_of_mem _ hk), outline,
        Outline.erase_joinText]
  | element i t a c rest ihc ih =>
      rw [erase, outline, Outline.erase]
      split_ifs
      · rfl
      · rw [outline, ihc fun k hk => h k (by simp [nodes, hk]),
          ih fun k hk => h k (by simp [nodes, hk])]

theorem outline_appendChild (f tree : Forest) (parent : NodeId) :
    (appendChild parent tree f).outline = Outline.appendUnder parent tree.outline f.outline := by
  induction f with
  | nil => rfl
  | text i s rest ih => rw [appendChild, outline, ih, outline, Outline.appendUnder_joinText]
  | mask i m rest ih => rw [appendChild, outline, ih, outline, Outline.appendUnder_joinText]
  | element i t a c rest ihc ih =>
      rw [appendChild, outline, Outline.appendUnder]
      split_ifs
      · rw [outline, outline_append]
      · rw [outline, ihc, ih]

theorem outline_setAttribute (f : Forest) (id : NodeId) (name value : String) :
    (f.setAttribute id name value).outline = f.outline.setAttribute id name value := by
  induction f with
  | nil => rfl
  | text i s rest ih => rw [setAttribute, outline, ih, outline, Outline.setAttribute_joinText]
  | mask i m rest ih => rw [setAttribute, outline, ih, outline, Outline.setAttribute_joinText]
  | element i t a c rest ihc ih =>
      rw [setAttribute, outline, Outline.setAttribute]
      split_ifs
      · rfl
      · rw [outline, ihc, ih]

/-- The elements of an outline are those of its forest. -/
theorem mem_ids_outline {f : Forest} {id : NodeId} :
    id ∈ f.outline.ids ↔ ∃ t, (id, .element t) ∈ f.nodes := by
  induction f with
  | nil => simp [outline, Outline.ids, nodes]
  | text i s rest ih => simp [outline, nodes, ih]
  | mask i m rest ih => simp [outline, nodes, ih]
  | element i t a c rest ihc ih => simp [outline, Outline.ids, nodes, ihc, ih, exists_or]

end Forest

/-! ### Outlines of the elements without a parent -/

namespace Outline

/-- The outlines without an element; one that was nothing else is gone. -/
def eraseFrom (id : NodeId) (os : List Outline) : List Outline :=
  (os.map (·.erase id)).filter (· != .nil)

theorem mem_ids_of_mem_erase {o : Outline} {id i : NodeId} (h : i ∈ (o.erase id).ids) :
    i ∈ o.ids := by
  induction o with
  | nil => exact h
  | run s rest ih =>
      rw [erase, ids_joinText] at h
      exact ih h
  | element j t a c rest ihc ih =>
      rw [erase] at h
      split_ifs at h
      · exact List.mem_cons_of_mem _ (List.mem_append_right _ h)
      · simp only [ids, List.mem_cons, List.mem_append] at h ⊢
        exact h.imp_right (Or.imp ihc ih)

theorem head?_joinText (s : String) (o : Outline) : (joinText s o).head? = none := by
  cases o <;> rfl

/-- Whether the element has no parent. -/
def IsTop (os : List Outline) (id : NodeId) : Prop :=
  some id ∈ os.map head?

theorem rename_ne_nil_iff {ν : NodeId → NodeId} {o : Outline} : o.rename ν = .nil ↔ o = .nil := by
  cases o <;> simp [rename]

theorem map_rename_eraseFrom {ν : NodeId → NodeId} {os : List Outline} {id : NodeId}
    (h : ∀ o ∈ os, Separates ν o id) :
    (eraseFrom id os).map (rename ν) = eraseFrom (ν id) (os.map (rename ν)) := by
  induction os with
  | nil => rfl
  | cons o os ih =>
      have ih := ih fun p hp => h p (List.mem_cons_of_mem _ hp)
      have ho := rename_erase (h o List.mem_cons_self)
      unfold eraseFrom at ih ⊢
      simp only [List.map_cons, List.filter_cons, ← ho, bne_iff_ne, ne_eq, rename_ne_nil_iff]
      split_ifs
      · exact ih
      · rw [List.map_cons, ih]

end Outline

namespace Forest

theorem elementOutline?_eq_some {t : Forest} {i : NodeId} {o : Outline} (hi : IsNode i t)
    (h : t.elementOutline? = some o) : o = t.outline ∧ o.head? = some i := by
  cases hi with
  | text s => cases h
  | mask m => cases h
  | element tag a c =>
      cases h
      exact ⟨rfl, rfl⟩

theorem filterMap_erase {ts : List Forest} {id : NodeId} (hi : ∀ t ∈ ts, ∃ i, IsNode i t)
    (h : ∀ t ∈ ts, t.OnlyElement id) :
    ((ts.map (·.erase id)).filter (· != nil)).filterMap elementOutline? =
      Outline.eraseFrom id (ts.filterMap elementOutline?) := by
  induction ts with
  | nil => rfl
  | cons t ts ih =>
      have ih := ih (fun u hu => hi u (List.mem_cons_of_mem _ hu))
        fun u hu => h u (List.mem_cons_of_mem _ hu)
      have ht := h t List.mem_cons_self
      obtain ⟨i, hi⟩ := hi t List.mem_cons_self
      unfold Outline.eraseFrom at ih ⊢
      cases hi with
      | text s =>
          have hid : i ≠ id := by
            rintro rfl
            obtain ⟨t, e⟩ := ht (.text s) List.mem_cons_self
            cases e
          rw [List.map_cons, erase, if_neg hid, List.filter_cons_of_pos rfl]
          exact ih
      | mask m =>
          have hid : i ≠ id := by
            rintro rfl
            obtain ⟨t, e⟩ := ht (.mask m) List.mem_cons_self
            cases e
          rw [List.map_cons, erase, if_neg hid, List.filter_cons_of_pos rfl]
          exact ih
      | element tag a c =>
          have hc : (c.erase id).outline = c.outline.erase id :=
            outline_erase fun k hk => ht k (by simp [nodes, hk])
          by_cases hid : i = id
          · simpa [erase, hid, elementOutline?, Outline.erase] using ih
          · simpa [erase, hid, elementOutline?, Outline.erase, hc] using ih

theorem filterMap_erase_text {ts : List Forest} {id : NodeId} {s : String}
    (h : ∀ t ∈ ts, id ∈ t.ids → t = .text id s .nil) :
    ((ts.map (·.erase id)).filter (· != nil)).filterMap elementOutline? =
      ts.filterMap elementOutline? := by
  induction ts with
  | nil => rfl
  | cons t ts ih =>
      have ih := ih fun u hu => h u (List.mem_cons_of_mem _ hu)
      by_cases hid : id ∈ t.ids
      · obtain rfl := h t List.mem_cons_self hid
        rw [List.map_cons, erase, if_pos rfl]
        exact ih
      · rw [List.map_cons, erase_of_not_mem hid]
        by_cases hne : t = nil
        · rw [hne]
          exact ih
        · rw [List.filter_cons_of_pos (by simpa using hne), List.filterMap_cons,
            List.filterMap_cons, ih]

theorem filterMap_appendChild {ts : List Forest} (parent : NodeId) (tree : Forest)
    (hi : ∀ t ∈ ts, ∃ i, IsNode i t) :
    (ts.map (appendChild parent tree)).filterMap elementOutline? =
      (ts.filterMap elementOutline?).map (Outline.appendUnder parent tree.outline) := by
  rw [List.filterMap_map, List.map_filterMap]
  refine List.filterMap_congr fun t ht => ?_
  obtain ⟨i, hi⟩ := hi t ht
  rw [Function.comp_apply]
  cases hi with
  | text s => rfl
  | mask m => rfl
  | element tag a c =>
      rw [appendChild]
      split_ifs with hid
      · rw [elementOutline?, outline_append, elementOutline?, Option.map_some,
          Outline.appendUnder, if_pos hid]
      · rw [elementOutline?, outline_appendChild, elementOutline?, Option.map_some,
          Outline.appendUnder, if_neg hid]
        rfl

theorem filterMap_setAttribute {ts : List Forest} (id : NodeId) (name value : String)
    (hi : ∀ t ∈ ts, ∃ i, IsNode i t) :
    (ts.map (·.setAttribute id name value)).filterMap elementOutline? =
      (ts.filterMap elementOutline?).map (·.setAttribute id name value) := by
  rw [List.filterMap_map, List.map_filterMap]
  refine List.filterMap_congr fun t ht => ?_
  obtain ⟨i, hi⟩ := hi t ht
  rw [Function.comp_apply]
  cases hi with
  | text s => rfl
  | mask m => rfl
  | element tag a c =>
      rw [setAttribute]
      split_ifs with hid
      · rw [elementOutline?, elementOutline?, Option.map_some, Outline.setAttribute, if_pos hid]
      · rw [elementOutline?, outline_setAttribute, elementOutline?, Option.map_some,
          Outline.setAttribute, if_neg hid]
        rfl

/-! ### Texts without a parent -/

section

variable {ts : List Forest} {n : NodeId} {s : String} (hi : ∀ t ∈ ts, ∃ i, IsNode i t)
include hi

theorem text_mem_map_appendChild {parent : NodeId} {tree : Forest} :
    .text n s .nil ∈ ts.map (appendChild parent tree) ↔ .text n s .nil ∈ ts := by
  rw [List.mem_map]
  refine ⟨?_, fun h => ⟨_, h, rfl⟩⟩
  rintro ⟨t, ht, e⟩
  obtain ⟨i, hi⟩ := hi t ht
  cases hi with
  | text s' => rwa [← e]
  | mask m => cases e
  | element tag a c =>
      rw [appendChild] at e
      split_ifs at e

theorem text_mem_map_setAttribute {id : NodeId} {name value : String} :
    .text n s .nil ∈ ts.map (·.setAttribute id name value) ↔ .text n s .nil ∈ ts := by
  rw [List.mem_map]
  refine ⟨?_, fun h => ⟨_, h, rfl⟩⟩
  rintro ⟨t, ht, e⟩
  obtain ⟨i, hi⟩ := hi t ht
  cases hi with
  | text s' => rwa [← e]
  | mask m => cases e
  | element tag a c =>
      rw [setAttribute] at e
      split_ifs at e

theorem text_mem_filter_erase {id : NodeId} :
    .text n s .nil ∈ (ts.map (·.erase id)).filter (· != nil) ↔ .text n s .nil ∈ ts ∧ n ≠ id := by
  rw [List.mem_filter, List.mem_map]
  constructor
  · rintro ⟨⟨t, ht, e⟩, -⟩
    obtain ⟨i, hi⟩ := hi t ht
    cases hi with
    | text s' =>
        rw [erase] at e
        split_ifs at e with hid
        cases e
        exact ⟨ht, hid⟩
    | mask m =>
        rw [erase] at e
        split_ifs at e
    | element tag a c =>
        rw [erase] at e
        split_ifs at e
  · rintro ⟨ht, hne⟩
    exact ⟨⟨_, ht, by rw [erase, if_neg hne, erase]⟩, rfl⟩

end

end Forest

namespace Document

variable {d d' : Document}

/-- An element has an outline. -/
theorem outline?_eq_some_iff {id : NodeId} {o : Outline} :
    d.outline? id = some o ↔
      ∃ t a c, d.tree? id = some (.element id t a c .nil) ∧ o = .element id t a c.outline .nil := by
  rw [outline?, Option.bind_eq_some_iff]
  constructor
  · rintro ⟨n, hn, ho⟩
    cases isNode_of_tree? hn with
    | text s => cases ho
    | mask m => cases ho
    | element t a c =>
        cases ho
        exact ⟨t, a, c, hn, rfl⟩
  · rintro ⟨t, a, c, ht, rfl⟩
    exact ⟨_, ht, rfl⟩

namespace WellFormed

variable (wf : d.WellFormed)
include wf

theorem onlyElement {id : NodeId} {o : Outline} (h : d.outline? id = some o) :
    ∀ t ∈ d.trees, t.OnlyElement id := by
  obtain ⟨tag, a, c, hn, -⟩ := outline?_eq_some_iff.mp h
  intro t ht k hk
  refine ⟨tag, wf.kind_unique (List.mem_flatMap.mpr ⟨t, ht, hk⟩) ?_⟩
  exact nodes_subset_of_tree? hn (by simp [Forest.nodes])

/-- A number that was not given out yet is that of no element. -/
theorem outline?_eq_none {id : NodeId} (h : d.fresh ≤ id) : d.outline? id = none := by
  rw [outline?, tree?_eq_none_iff.mpr (mt wf.mem_ids_iff.mp (Nat.not_lt_of_le h))]
  rfl

/-- Whether an element has a parent can be told from the outlines. -/
theorem above_eq_nil_iff {id : NodeId} {o : Outline} {p : Forest.Place}
    (h : d.outline? id = some o) (hp : d.place? id = some p) :
    p.above = [] ↔ Outline.IsTop d.outlines id := by
  unfold Outline.IsTop
  constructor
  · intro ha
    obtain ⟨-, hmem⟩ := wf.place?_of_above_eq_nil hp ha
    have hn := tree?_of_place? hp
    rw [outline?, hn, Option.bind_some] at h
    refine List.mem_map.mpr ⟨o, List.mem_filterMap.mpr ⟨_, hmem, h⟩, ?_⟩
    exact (Forest.elementOutline?_eq_some (isNode_of_tree? hn) h).2
  · intro htop
    obtain ⟨u, hu, hid⟩ := List.mem_map.mp htop
    obtain ⟨t, ht, hut⟩ := List.mem_filterMap.mp hu
    obtain ⟨i, hi⟩ := wf.isNode t ht
    obtain rfl : i = id := by
      rw [(Forest.elementOutline?_eq_some hi hut).2] at hid
      exact Option.some.inj hid
    rw [wf.place?_of_mem_trees ht hi] at hp
    cases hp
    rfl

/-! ### Edits of documents -/

/-- Without an element. -/
theorem outlines_erase {id : NodeId} {o : Outline} (h : d.outline? id = some o) :
    (d.erase id).outlines = Outline.eraseFrom id d.outlines :=
  Forest.filterMap_erase wf.isNode (wf.onlyElement h)

/-- Without a text that has no parent. -/
theorem outlines_erase_text {id : NodeId} {s : String} (h : .text id s .nil ∈ d.trees) :
    (d.erase id).outlines = d.outlines :=
  Forest.filterMap_erase_text fun _ ht hid => wf.tree_unique ht h hid List.mem_cons_self

/-- Removing an element makes it one of those without a parent. -/
theorem outlines_remove {id : NodeId} {o : Outline} (ho : d.outline? id = some o)
    (h : d.remove id = .ok d') :
    Outline.IsTop d.outlines id ∧ d'.outlines = d.outlines ∨
      ¬ Outline.IsTop d.outlines id ∧ d'.outlines = Outline.eraseFrom id d.outlines ++ [o] := by
  obtain ⟨p, hp, ⟨ha, rfl⟩ | ⟨ha, ht, -⟩⟩ := remove_cases h
  · exact .inl ⟨(wf.above_eq_nil_iff ho hp).mp ha, rfl⟩
  · refine .inr ⟨mt (wf.above_eq_nil_iff ho hp).mpr ha, ?_⟩
    rw [outline?, tree?_of_place? hp, Option.bind_some] at ho
    have hn : [p.node].filterMap Forest.elementOutline? = [o] := by
      rw [List.filterMap_cons, ho]
      rfl
    have he : d.outline? id = some o := by rw [outline?, tree?_of_place? hp, Option.bind_some, ho]
    rw [outlines, ht, List.filterMap_append, hn, ← wf.outlines_erase he]
    rfl

/-- An element is moved with its outline. -/
theorem outlines_appendChild {parent child : NodeId} {o : Outline} (ho : d.outline? child = some o)
    (h : d.appendChild parent child = .ok d') :
    d'.outlines = (Outline.eraseFrom child d.outlines).map (Outline.appendUnder parent o) := by
  obtain ⟨t, a, c, tree, -, hc, -, -, ht, -⟩ := appendChild_cases h
  rw [outlines, ht, Forest.filterMap_appendChild parent tree fun _ => wf.isNode_erase]
  have htree : o = tree.outline := by
    rw [outline?, hc, Option.bind_some] at ho
    exact (Forest.elementOutline?_eq_some (isNode_of_tree? hc) ho).1
  rw [htree, ← wf.outlines_erase ho]
  rfl

/-- A text without a parent becomes a run. -/
theorem outlines_appendChild_text {parent child : NodeId} {s : String}
    (hs : .text child s .nil ∈ d.trees) (h : d.appendChild parent child = .ok d') :
    d'.outlines = d.outlines.map (Outline.appendUnder parent (.run s .nil)) := by
  obtain ⟨t, a, c, tree, -, hc, -, -, ht, -⟩ := appendChild_cases h
  have htree : tree = .text child s .nil := by
    rw [tree?_of_place? (wf.place?_of_mem_trees hs (.text s))] at hc
    exact (Option.some.inj hc).symm
  rw [outlines, ht, Forest.filterMap_appendChild parent tree fun _ => wf.isNode_erase, htree]
  rw [← wf.outlines_erase_text hs]
  rfl

/-- An attribute is set in the outline. -/
theorem outlines_setAttribute {id : NodeId} {name value : String}
    (h : d.setAttribute id name value = .ok d') :
    d'.outlines = d.outlines.map (·.setAttribute id (lowerAscii name) value) := by
  obtain ⟨-, -, -, -, ht, -⟩ := setAttribute_cases h
  rw [outlines, ht, Forest.filterMap_setAttribute _ _ _ wf.isNode]
  rfl

end WellFormed

/-! ### Refused edits -/

theorem exists_remove_iff {id : NodeId} : (∃ d', d.remove id = .ok d') ↔ id ∈ d.ids := by
  rw [remove]
  cases hp : d.place? id with
  | none => simpa using place?_eq_none_iff.mp hp
  | some p =>
      have hid := mem_ids_of_tree? (tree?_of_place? hp)
      simp only [hid, iff_true]
      split_ifs <;> exact ⟨_, rfl⟩

theorem exists_setAttribute_iff {id : NodeId} {name value : String} :
    (∃ d', d.setAttribute id name value = .ok d') ↔ (d.outline? id).isSome := by
  rw [setAttribute, outline?]
  cases hn : d.tree? id with
  | none => simp
  | some n => cases isNode_of_tree? hn <;> simp [Forest.elementOutline?]

/-- A node is moved below an element that is neither it nor below it. -/
theorem WellFormed.exists_appendChild_iff (wf : d.WellFormed) {parent child : NodeId} :
    (∃ d', d.appendChild parent child = .ok d') ↔ (d.outline? parent).isSome ∧ child ∈ d.ids ∧
      ∀ o, d.outline? child = some o → parent ∉ o.ids := by
  constructor
  · rintro ⟨d', h⟩
    obtain ⟨t, a, c, tree, hp, hc, hne, hab, -, -⟩ := appendChild_cases h
    refine ⟨?_, mem_ids_of_tree? hc, ?_⟩
    · rw [outline?_eq_some_iff.mpr ⟨t, a, c, hp, rfl⟩]
      rfl
    · intro o ho hmem
      rw [outline?, hc, Option.bind_some] at ho
      rw [(Forest.elementOutline?_eq_some (isNode_of_tree? hc) ho).1] at hmem
      obtain ⟨t', ht'⟩ := Forest.mem_ids_outline.mp hmem
      exact wf.not_mem_ids_of_tree? hc hne hab (Forest.mem_ids_of_mem_nodes ht')
  · rintro ⟨hp, hc, hcycle⟩
    obtain ⟨o, ho⟩ := Option.isSome_iff_exists.mp hp
    obtain ⟨t, a, c, hparent, -⟩ := outline?_eq_some_iff.mp ho
    obtain ⟨tree, htree⟩ := exists_tree?_iff.mpr hc
    have hmem : (parent, .element t) ∈ d.nodes :=
      nodes_subset_of_tree? hparent (by simp [Forest.nodes])
    have hne : parent ≠ child := by
      rintro rfl
      obtain ⟨t', a', c', -, rfl⟩ := outline?_eq_some_iff.mp ho
      exact hcycle _ ho List.mem_cons_self
    have hab : child ∉ d.above parent := by
      rw [wf.mem_above_iff]
      rintro ⟨t', a', c', hchild, hbelow⟩
      refine hcycle _ (outline?_eq_some_iff.mpr ⟨t', a', c', hchild, rfl⟩) ?_
      have hk := wf.mem_nodes_children hchild hmem hbelow
      exact List.mem_cons_of_mem _ (List.mem_append_left _ (Forest.mem_ids_outline.mpr ⟨t, hk⟩))
    rw [appendChild, hparent, htree]
    simp only [hne, hab, decide_false, List.contains_eq_mem, Bool.or_self, Bool.false_eq_true,
      if_false]
    exact ⟨_, rfl⟩

end Document

end TextMasking
