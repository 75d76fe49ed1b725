import TextMasking.Proofs.Document.Remasked
import TextMasking.Proofs.Document.Rewriting

/-! # What is left when masks are turned back

A mask that is turned back is joined to the texts beside it.  In which order masks are turned back
does not matter: all of them leave one row of texts (`Forest.restored`), and turning back one of
them leaves the same row to the others (`Forest.restored_unmask`).  So restoring a document leaves
below the root what is left there of the whole content at once (`Document.inside?_restore`).

The content of an element is found together with the elements that it lies below
(`Forest.inside?`), which masking does not touch. -/

namespace TextMasking

namespace Forest

variable {n : NodeId}

/-! ### All masks at once -/

/-- A text in front of a forest, joined to the text that begins it if there is one. -/
def joinText (i : NodeId) (s : String) (f : Forest) : Forest :=
  .text i (s ++ f.takeText.1) f.takeText.2

/-- Whether a forest begins with a mask. -/
def startsMasked : Forest → Bool
  | .mask .. => true
  | _ => false

/-- The forest with every mask turned back; the leaves all get the number `n`. -/
def restored (n : NodeId) : Forest → Forest
  | .nil => .nil
  | .text _ s rest =>
    if rest.startsMasked then (rest.restored n).joinText n s else .text n s (rest.restored n)
  | .mask _ m rest => (rest.restored n).joinText n m.hidden
  | .element i t a children rest => .element i t a (children.restored n) (rest.restored n)

@[simp] theorem joinText_joinText (i j : NodeId) (s s' : String) (f : Forest) :
    (f.joinText j s').joinText i s = f.joinText i (s ++ s') := by
  simp [joinText, takeText, String.append_assoc]

/-- A text is joined to a text, or it stands in front of the forest. -/
theorem joinText_cases (i : NodeId) (s : String) (f : Forest) :
    (f.joinText i s).textIds.length = f.textIds.length ∨ f.joinText i s = .text i s f := by
  cases f with
  | text j s' rest => exact .inl rfl
  | nil => exact .inr (by simp [joinText, takeText])
  | mask j m rest => exact .inr (by simp [joinText, takeText])
  | element j t a c rest => exact .inr (by simp [joinText, takeText])

/-- Joining a text first and turning the masks back, or the other way round, leaves the same. -/
theorem restored_joinText (i : NodeId) (s : String) (f : Forest) :
    (f.joinText i s).restored n = (f.restored n).joinText n s := by
  cases f with
  | nil => rfl
  | text j s' rest =>
      simp only [joinText, takeText, restored]
      split_ifs
      · simp [String.append_assoc]
      · rfl
  | mask j m rest => simp [joinText, takeText, restored, startsMasked]
  | element j t a c rest => rfl

/-- Turning a mask back does not change whether a forest begins with a mask, unless it is the first
node. -/
theorem startsMasked_unmask {f : Forest} {id : NodeId} (h : ∀ m rest, f ≠ .mask id m rest)
    (fresh : NodeId) : (f.unmask id fresh).startsMasked = f.startsMasked := by
  cases f with
  | nil => rfl
  | text i s rest =>
      by_cases hm : ∃ m more, rest = .mask id m more
      · obtain ⟨m, more, rfl⟩ := hm
        rw [unmask_text_mask]
        rfl
      · rw [unmask_text fun m more e => hm ⟨m, more, e⟩]
        rfl
  | mask i m rest =>
      rw [unmask, if_neg]
      · rfl
      · rintro rfl
        exact h m rest rfl
  | element i t a c rest => rfl

/-- **Turning one mask back** leaves the same when the others are turned back too. -/
theorem restored_unmask (f : Forest) (id fresh : NodeId) :
    (f.unmask id fresh).restored n = f.restored n := by
  induction f with
  | nil => rfl
  | text i s rest ih =>
      by_cases h : ∃ m more, rest = .mask id m more
      · -- the text takes in what the mask hides, and the text after it
        obtain ⟨m, more, rfl⟩ := h
        rw [unmask_text_mask, ← String.append_assoc]
        change (more.joinText i (s ++ m.hidden)).restored n = _
        rw [restored_joinText]
        simp [restored, startsMasked]
      · have hother : ∀ m more, rest ≠ .mask id m more := fun m more e => h ⟨m, more, e⟩
        rw [unmask_text hother, restored, restored, startsMasked_unmask hother, ih]
  | mask i m rest ih =>
      rw [unmask]
      split_ifs
      · exact restored_joinText fresh m.hidden rest
      · rw [restored, restored, ih]
  | element i t a c rest ihc ih => rw [unmask, restored, restored, ihc, ih]

@[simp] theorem startsMasked_blur (f : Forest) (m : NodeId) :
    (f.blur m).startsMasked = f.startsMasked := by
  cases f <;> rfl

@[simp] theorem restored_blur (f : Forest) (m : NodeId) : (f.blur m).restored n = f.restored n := by
  induction f with
  | nil => rfl
  | text i s rest ih => simp [blur, restored, ih]
  | mask i m rest ih => simp [blur, restored, ih]
  | element i t a c rest ihc ih => simp [blur, restored, ihc, ih]

/-! ### Where no mask is left -/

theorem startsMasked_of_maskFree {f : Forest} (h : f.maskIds = []) : f.startsMasked = false := by
  cases f with
  | mask i m rest => cases h
  | nil => rfl
  | text => rfl
  | element => rfl

theorem restored_text {i : NodeId} {s : String} {rest : Forest} (h : rest.maskIds = []) :
    (text i s rest).restored n = .text n s (rest.restored n) := by
  simp [restored, startsMasked_of_maskFree h]

/-- Without masks the leaves stay as they are, up to their numbers. -/
theorem restored_eq_blur {f : Forest} (h : f.maskIds = []) (hn : ∀ i ∈ f.ids, n ≤ i) :
    f.restored n = f.blur n := by
  induction f with
  | nil => rfl
  | text i s rest ih =>
      obtain ⟨hi, hrest⟩ := List.forall_mem_cons.mp hn
      have hfree : rest.maskIds = [] := h
      rw [restored_text hfree, blur, ih hfree hrest, Nat.min_eq_right hi]
  | mask i m rest ih => cases h
  | element i t a c rest ihc ih =>
      obtain ⟨hc, hr⟩ := List.append_eq_nil_iff.mp h
      obtain ⟨-, hrest⟩ := List.forall_mem_cons.mp hn
      obtain ⟨hnc, hnr⟩ := List.forall_mem_append.mp hrest
      rw [restored, blur, ihc hc hnc, ih hr hnr]

@[simp] theorem textIds_blur (f : Forest) : (f.blur n).textIds = f.textIds.map (min · n) := by
  induction f with
  | nil => rfl
  | text i s rest ih => simp [blur, textIds, ih]
  | mask i m rest ih => simp [blur, textIds, ih]
  | element i t a c rest ihc ih => simp [blur, textIds, ihc, ih]

@[simp] theorem maskIds_blur (f : Forest) : (f.blur n).maskIds = f.maskIds.map (min · n) := by
  induction f with
  | nil => rfl
  | text i s rest ih => simp [blur, maskIds, ih]
  | mask i m rest ih => simp [blur, maskIds, ih]
  | element i t a c rest ihc ih => simp [blur, maskIds, ihc, ih]

@[simp] theorem shown_blur (f : Forest) : (f.blur n).shown = f.shown := by
  induction f with
  | nil => rfl
  | text i s rest ih => simp [blur, shown, ih]
  | mask i m rest ih => simp [blur, shown, ih]
  | element i t a c rest ihc ih => simp [blur, shown, ihc, ih]

/-! ### The content of an element -/

/-- The content of an element, with the elements that it lies below, which are the element itself
and those above it; the forest lies below `above`. -/
def inside? (x : NodeId) (above : List Ancestor) : Forest → Option (List Ancestor × Forest)
  | .nil => none
  | .text _ _ rest => rest.inside? x above
  | .mask _ _ rest => rest.inside? x above
  | .element i t a children rest =>
    if i = x then some (⟨i, t, a⟩ :: above, children)
    else (children.inside? x (⟨i, t, a⟩ :: above)).or (rest.inside? x above)

variable {x : NodeId} {above : List Ancestor} {before after : String}

theorem mem_ids_of_inside? {f : Forest} {p : List Ancestor × Forest}
    (h : f.inside? x above = some p) : x ∈ f.ids := by
  induction f generalizing above with
  | nil => cases h
  | text i s rest ih => exact List.mem_cons_of_mem _ (ih h)
  | mask i m rest ih => exact List.mem_cons_of_mem _ (ih h)
  | element i t a c rest ihc ih =>
      rw [inside?] at h
      split_ifs at h with e
      · exact e ▸ List.mem_cons_self
      · refine List.mem_cons_of_mem _ (List.mem_append.mpr ?_)
        rcases Option.or_eq_some_iff.mp h with h | ⟨-, h⟩
        · exact .inl (ihc h)
        · exact .inr (ih h)

/-- An element that is found has its content. -/
theorem exists_inside?_of_find? {f c : Forest} {t : String} {a : Attributes}
    (h : f.find? x = some (.element x t a c .nil)) : ∃ A, f.inside? x above = some (A, c) := by
  induction f generalizing above with
  | nil => cases h
  | text i s rest ih | mask i m rest ih =>
      rw [find?] at h
      split_ifs at h
      · cases h
      · exact ih h
  | element i t' a' c' rest ihc ih =>
      rw [find?] at h
      rw [inside?]
      split_ifs at h ⊢ with e
      · cases h
        exact ⟨_, rfl⟩
      · rcases Option.or_eq_some_iff.mp h with h | ⟨hnone, h⟩
        · have hc : ∃ A, c'.inside? x (⟨i, t', a'⟩ :: above) = some (A, c) := ihc h
          obtain ⟨A, hA⟩ := hc
          exact ⟨A, by rw [hA, Option.some_or]⟩
        · have hc : c'.inside? x (⟨i, t', a'⟩ :: above) = none := by
            cases hc : c'.inside? x (⟨i, t', a'⟩ :: above) with
            | none => rfl
            | some p => exact absurd (mem_ids_of_inside? hc) (find?_eq_none_iff.mp hnone)
          rw [hc, Option.none_or]
          exact ih h

@[simp] theorem inside?_joinText (f : Forest) (i : NodeId) (s : String) :
    (f.joinText i s).inside? x above = f.inside? x above := by
  cases f <;> rfl

theorem inside?_blur (f : Forest) : (f.blur n).inside? x above =
    (f.inside? x above).map fun p => (p.1, p.2.blur n) := by
  induction f generalizing above with
  | nil => rfl
  | text i s rest ih => exact ih
  | mask i m rest ih => exact ih
  | element i t a c rest ihc ih =>
      rw [blur, inside?, inside?, ihc, ih]
      split_ifs
      · rfl
      · rw [Option.map_or]

/-- What is left inside an element stays when one mask is turned back. -/
theorem inside?_unmask (f : Forest) (id fresh : NodeId) :
    ((f.unmask id fresh).inside? x above).map (fun p => (p.1, p.2.restored n)) =
      (f.inside? x above).map fun p => (p.1, p.2.restored n) := by
  induction f generalizing above with
  | nil => rfl
  | text i s rest ih =>
      by_cases h : ∃ m more, rest = .mask id m more
      · obtain ⟨m, more, rfl⟩ := h
        rw [unmask_text_mask, ← String.append_assoc]
        exact congrArg _ (inside?_joinText more i (s ++ m.hidden))
      · rw [unmask_text fun m more e => h ⟨m, more, e⟩]
        exact ih
  | mask i m rest ih =>
      rw [unmask]
      split_ifs
      · exact congrArg _ (inside?_joinText rest fresh _)
      · exact ih
  | element i t a c rest ihc ih =>
      rw [unmask, inside?, inside?]
      split_ifs
      · simp [restored_unmask]
      · rw [Option.map_or, Option.map_or, ihc, ih]

/-- What is found in one of some trees when each is changed. -/
theorem map_findSome?_inside? {α : Type} {change : Forest → Forest}
    {k k' : List Ancestor × Forest → α}
    (h : ∀ f : Forest, ((change f).inside? x []).map k = (f.inside? x []).map k')
    (ts : List Forest) : ((ts.map change).findSome? (·.inside? x [])).map k =
      (ts.findSome? (·.inside? x [])).map k' := by
  induction ts with
  | nil => rfl
  | cons f ts ih =>
      have hf := h f
      rw [List.map_cons, List.findSome?_cons, List.findSome?_cons]
      cases h₁ : (change f).inside? x [] with
      | none =>
          cases h₂ : f.inside? x [] with
          | none => exact ih
          | some p =>
              rw [h₁, h₂] at hf
              cases hf
      | some p =>
          cases h₂ : f.inside? x [] with
          | none =>
              rw [h₁, h₂] at hf
              cases hf
          | some q =>
              rw [h₁, h₂] at hf
              exact hf

theorem findSome?_map_inside? {change : Forest → Forest}
    {k : List Ancestor × Forest → List Ancestor × Forest}
    (h : ∀ f : Forest, (change f).inside? x [] = (f.inside? x []).map k) (ts : List Forest) :
    (ts.map change).findSome? (·.inside? x []) = (ts.findSome? (·.inside? x [])).map k := by
  rw [← map_findSome?_inside? (k := id) (fun f => by rw [Option.map_id, id, h f]) ts]
  exact (congrFun Option.map_id _).symm

end Forest

namespace Document

/-! ### The content of an element of a document -/

/-- The content of an element, with the elements that it lies below. -/
def inside? (d : Document) (x : NodeId) : Option (List Forest.Ancestor × Forest) :=
  d.trees.findSome? (·.inside? x [])

variable {d d' : Document} {x : NodeId}

theorem WellFormed.exists_inside? (wf : d.WellFormed) {t : String} {a : Attributes} {c : Forest}
    (h : d.tree? x = some (.element x t a c .nil)) : ∃ A, d.inside? x = some (A, c) := by
  obtain ⟨pre, f, post, htrees, hx, -, hpre, -⟩ :=
    Forest.exists_tree wf.ids_nodup (mem_ids_of_tree? h)
  rw [wf.tree?_of_mem (by simp [htrees]) hx] at h
  have hin : ∃ A, f.inside? x [] = some (A, c) := Forest.exists_inside?_of_find? h
  obtain ⟨A, hA⟩ := hin
  have hnone : pre.findSome? (·.inside? x []) = none := by
    rw [List.findSome?_eq_none_iff]
    intro g hg
    rw [Option.eq_none_iff_forall_ne_some]
    exact fun p hp => hpre g hg (Forest.mem_ids_of_inside? hp)
  refine ⟨A, ?_⟩
  rw [inside?, htrees, List.findSome?_append, hnone, Option.none_or, List.findSome?_cons, hA]

/-- **One mask is turned back:** what is left inside an element stays. -/
theorem inside?_unmask {id new : NodeId} (h : d.unmask id = .ok (new, d')) (n x : NodeId) :
    (d'.inside? x).map (fun p => (p.1, p.2.restored n)) =
      (d.inside? x).map fun p => (p.1, p.2.restored n) := by
  obtain ⟨p, m, joined, -, -, -, hj, -, ht, -⟩ := unmask_cases h
  have hnone : (joined ++ [Forest.mask id m .nil]).findSome? (·.inside? x []) = none := by
    rw [List.findSome?_eq_none_iff]
    intro f hf
    rcases List.mem_append.mp hf with hf | hf
    · obtain ⟨i, s, rfl⟩ := hj f hf
      rfl
    · rw [List.mem_singleton.mp hf]
      rfl
  rw [inside?, ht, List.append_assoc, List.findSome?_append, hnone, Option.or_none]
  exact Forest.map_findSome?_inside? (fun f => f.inside?_unmask id d.fresh) d.trees

theorem inside?_unmaskAll (d : Document) (ids : List NodeId) (n x : NodeId) :
    ((d.unmaskAll ids).2.inside? x).map (fun p => (p.1, p.2.restored n)) =
      (d.inside? x).map fun p => (p.1, p.2.restored n) := by
  induction ids generalizing d with
  | nil => rfl
  | cons id ids ih =>
      rw [unmaskAll]
      cases h : d.unmask id with
      | error e => exact ih d
      | ok r => exact (ih r.2).trans (inside?_unmask h n x)

/-- **Restoring leaves in an element** what is left there when all masks are turned back. -/
theorem inside?_restore (d : Document) (n x y : NodeId) :
    ((d.restore y).2.inside? x).map (fun p => (p.1, p.2.restored n)) =
      (d.inside? x).map fun p => (p.1, p.2.restored n) :=
  inside?_unmaskAll d (d.maskIds y) n x

end Document

end TextMasking
