import TextMasking.Proofs.Document.Units

/-! # Texts that give way to others

Each text of a forest is replaced by a forest that may depend on the text and on what stands around
it (`Forest.rewrite`).  Where every text gives way to leaves that read like it (`Forest.Reads`),
what stands around the others still reads the same.  So two rewritings in a row are one that treats
each text by itself (`Forest.rewrite_rewrite`, `Forest.textsIn_rewrite`).

New leaves are told apart from old nodes by a number only: `Forest.blur` gives one and the same
number to all leaves from a number on, so forests that are equal then differ in the numbers of new
leaves at most. -/

namespace TextMasking

namespace Forest

/-! ### Texts in their surroundings -/

/-- The unmasked text from the start of a forest up to the first element; `after` follows the
forest. -/
def textAfter (after : String) : Forest → String
  | .nil => after
  | .text _ s rest => s ++ rest.textAfter after
  | .mask _ m rest => m.hidden ++ rest.textAfter after
  | .element .. => ""

/-- The unmasked text from the last element of a forest up to its end; `before` stands before the
forest. -/
def textBefore (before : String) : Forest → String
  | .nil => before
  | .text _ s rest => rest.textBefore (before ++ s)
  | .mask _ m rest => rest.textBefore (before ++ m.hidden)
  | .element _ _ _ _ rest => rest.textBefore ""

/-- The texts of a forest that stands below `above` between two texts. -/
def textsIn (above : List Ancestor) (before after : String) : Forest → List (NodeId × TextUnit)
  | .nil => []
  | .text i s rest =>
    (i, ⟨above, before, s, rest.textAfter after⟩) :: rest.textsIn above (before ++ s) after
  | .mask _ m rest => rest.textsIn above (before ++ m.hidden) after
  | .element i t a children rest =>
    children.textsIn (⟨i, t, a⟩ :: above) "" "" ++ rest.textsIn above "" after

/-- The forest with each text replaced by what it gives way to in its surroundings. -/
def rewrite (y : NodeId → TextUnit → Forest) (above : List Ancestor) (before after : String) :
    Forest → Forest
  | .nil => .nil
  | .text i s rest =>
    y i ⟨above, before, s, rest.textAfter after⟩ ++ rest.rewrite y above (before ++ s) after
  | .mask i m rest => .mask i m (rest.rewrite y above (before ++ m.hidden) after)
  | .element i t a children rest =>
    .element i t a (children.rewrite y (⟨i, t, a⟩ :: above) "" "") (rest.rewrite y above "" after)

/-- The text as it is. -/
def keep (i : NodeId) (u : TextUnit) : Forest := .text i u.passage.text .nil

@[simp] theorem textAfter_append (after : String) (f g : Forest) :
    (f ++ g).textAfter after = f.textAfter (g.textAfter after) := by
  induction f with
  | nil => rfl
  | text i s rest ih => simp [textAfter, ih]
  | mask i m rest ih => simp [textAfter, ih]
  | element i t a c rest _ _ => rfl

theorem leading_eq (f : Forest) : f.leading = f.textAfter "" := by
  induction f with
  | nil => rfl
  | text i s rest ih => simp [leading, textAfter, ih]
  | mask i m rest ih => simp [leading, textAfter, ih]
  | element i t a c rest _ _ => rfl

theorem unitsFrom_eq (above : List Ancestor) (before : String) (f : Forest) :
    unitsFrom above before f = f.textsIn above before "" := by
  induction f generalizing above before with
  | nil => rfl
  | text i s rest ih => simp [unitsFrom, textsIn, ih, leading_eq]
  | mask i m rest ih => simp [unitsFrom, textsIn, ih]
  | element i t a c rest ihc ih => simp [unitsFrom, textsIn, ihc, ih]

variable {y y' c : NodeId → TextUnit → Forest} {above : List Ancestor} {before after : String}

theorem textsIn_append (f g : Forest) :
    (f ++ g).textsIn above before after =
      f.textsIn above before (g.textAfter after) ++
        g.textsIn above (f.textBefore before) after := by
  induction f generalizing before with
  | nil => rfl
  | text i s rest ih => simp [textsIn, textBefore, ih]
  | mask i m rest ih => simp [textsIn, textBefore, ih]
  | element i t a c rest _ ih => simp [textsIn, textBefore, ih]

theorem rewrite_append (f g : Forest) :
    (f ++ g).rewrite y above before after =
      f.rewrite y above before (g.textAfter after) ++
        g.rewrite y above (f.textBefore before) after := by
  induction f generalizing before with
  | nil => rfl
  | text i s rest ih => simp [rewrite, textBefore, ih, append_assoc]
  | mask i m rest ih => simp [rewrite, textBefore, ih]
  | element i t a c rest _ ih => simp [rewrite, textBefore, ih]

/-- Rewriting looks at the texts of the forest only. -/
theorem rewrite_congr {f : Forest}
    (h : ∀ p ∈ f.textsIn above before after, y p.1 p.2 = y' p.1 p.2) :
    f.rewrite y above before after = f.rewrite y' above before after := by
  induction f generalizing above before after with
  | nil => rfl
  | text i s rest ih =>
      rw [textsIn, List.forall_mem_cons] at h
      rw [rewrite, rewrite, ih h.2, h.1]
  | mask i m rest ih => rw [rewrite, rewrite, ih h]
  | element i t a c rest ihc ih =>
      rw [textsIn, List.forall_mem_append] at h
      rw [rewrite, rewrite, ihc h.1, ih h.2]

@[simp] theorem rewrite_keep (f : Forest) : f.rewrite keep above before after = f := by
  induction f generalizing above before after with
  | nil => rfl
  | text i s rest ih => simp [rewrite, keep, ih]
  | mask i m rest ih => simp [rewrite, ih]
  | element i t a c rest ihc ih => simp [rewrite, ihc, ih]

/-- A text by itself gives way to what it gives way to. -/
theorem rewrite_keep_self (i : NodeId) (u : TextUnit) :
    (keep i u).rewrite y u.above u.passage.before u.passage.after = y i u := by
  simp [keep, rewrite, textAfter]

/-! ### Rewriting in leaves that read the same -/

/-- The forest is a row of leaves that reads like the text. -/
def Reads (f : Forest) (s : String) : Prop :=
  (∀ after, f.textAfter after = s ++ after) ∧ ∀ before, f.textBefore before = before ++ s

theorem reads_keep (i : NodeId) (u : TextUnit) : (keep i u).Reads u.passage.text :=
  ⟨fun _ => rfl, fun _ => rfl⟩

/-- Each text of the forest gives way to leaves that read like it. -/
def ReadsIn (c : NodeId → TextUnit → Forest) (ps : List (NodeId × TextUnit)) : Prop :=
  ∀ p ∈ ps, (c p.1 p.2).Reads p.2.passage.text

theorem textAfter_rewrite {f : Forest} (h : ReadsIn c (f.textsIn above before after)) :
    (f.rewrite c above before after).textAfter after = f.textAfter after := by
  induction f generalizing before with
  | nil => rfl
  | text i s rest ih =>
      obtain ⟨hs, hrest⟩ := List.forall_mem_cons.mp h
      rw [rewrite, textAfter_append, ih hrest, hs.1, textAfter]
  | mask i m rest ih => rw [rewrite, textAfter, textAfter, ih h]
  | element i t a c rest _ _ => rfl

/-- **Two rewritings in a row** treat each text by itself: what it gives way to in the first one is
rewritten in the surroundings of the text. -/
theorem rewrite_rewrite {f : Forest} (h : ReadsIn c (f.textsIn above before after)) :
    (f.rewrite c above before after).rewrite y above before after =
      f.rewrite (fun i u => (c i u).rewrite y u.above u.passage.before u.passage.after)
        above before after := by
  induction f generalizing above before after with
  | nil => rfl
  | text i s rest ih =>
      obtain ⟨hs, hrest⟩ := List.forall_mem_cons.mp h
      rw [rewrite, rewrite_append, textAfter_rewrite hrest, hs.2, ih hrest, rewrite]
  | mask i m rest ih => rw [rewrite, rewrite, rewrite, ih h]
  | element i t a c rest ihc ih =>
      obtain ⟨hc, hrest⟩ := List.forall_mem_append.mp h
      rw [rewrite, rewrite, rewrite, ihc hc, ih hrest]

/-- **The texts after a rewriting** are those of what each text gives way to. -/
theorem textsIn_rewrite {f : Forest} (h : ReadsIn c (f.textsIn above before after)) :
    (f.rewrite c above before after).textsIn above before after =
      (f.textsIn above before after).flatMap fun p =>
        (c p.1 p.2).textsIn p.2.above p.2.passage.before p.2.passage.after := by
  induction f generalizing above before after with
  | nil => rfl
  | text i s rest ih =>
      obtain ⟨hs, hrest⟩ := List.forall_mem_cons.mp h
      rw [rewrite, textsIn_append, textAfter_rewrite hrest, hs.2, ih hrest, textsIn,
        List.flatMap_cons]
  | mask i m rest ih => rw [rewrite, textsIn, textsIn, ih h]
  | element i t a c rest ihc ih =>
      obtain ⟨hc, hrest⟩ := List.forall_mem_append.mp h
      rw [rewrite, textsIn, textsIn, ihc hc, ih hrest, List.flatMap_append]

/-! ### New leaves -/

/-- The forest with one number for all leaves from a number on. -/
def blur (n : NodeId) : Forest → Forest
  | .nil => .nil
  | .text i s rest => .text (min i n) s (rest.blur n)
  | .mask i m rest => .mask (min i n) m (rest.blur n)
  | .element i t a children rest => .element i t a (children.blur n) (rest.blur n)

variable {n : NodeId}

@[simp] theorem blur_append (f g : Forest) : (f ++ g).blur n = f.blur n ++ g.blur n := by
  induction f with
  | nil => rfl
  | text i s rest ih => simp [blur, ih]
  | mask i m rest ih => simp [blur, ih]
  | element i t a c rest _ ih => simp [blur, ih]

/-- Where all numbers are smaller, nothing is blurred. -/
theorem blur_of_lt {f : Forest} (h : ∀ i ∈ f.ids, i < n) : f.blur n = f := by
  induction f with
  | nil => rfl
  | text i s rest ih =>
      obtain ⟨hi, hrest⟩ := List.forall_mem_cons.mp h
      rw [blur, ih hrest, Nat.min_eq_left (Nat.le_of_lt hi)]
  | mask i m rest ih =>
      obtain ⟨hi, hrest⟩ := List.forall_mem_cons.mp h
      rw [blur, ih hrest, Nat.min_eq_left (Nat.le_of_lt hi)]
  | element i t a c rest ihc ih =>
      obtain ⟨-, hrest⟩ := List.forall_mem_cons.mp h
      obtain ⟨hc, hrest⟩ := List.forall_mem_append.mp hrest
      rw [blur, ihc hc, ih hrest]

/-- Blurring leaves the nodes with smaller numbers where they are. -/
theorem find?_blur {f : Forest} {i : NodeId} (h : i < n) :
    (f.blur n).find? i = (f.find? i).map (blur n) := by
  have hmin (j : NodeId) : min j n = i ↔ j = i := by grind
  induction f with
  | nil => rfl
  | text j s rest ih =>
      simp only [blur, find?, hmin, ih]
      split_ifs <;> rfl
  | mask j m rest ih =>
      simp only [blur, find?, hmin, ih]
      split_ifs <;> rfl
  | element j t a c rest ihc ih =>
      simp only [blur, find?, ihc, ih]
      split_ifs
      · rfl
      · cases c.find? i <;> rfl

@[simp] theorem textAfter_blur (f : Forest) : (f.blur n).textAfter after = f.textAfter after := by
  induction f with
  | nil => rfl
  | text i s rest ih => simp [blur, textAfter, ih]
  | mask i m rest ih => simp [blur, textAfter, ih]
  | element i t a c rest _ _ => rfl

@[simp] theorem textBefore_blur (f : Forest) :
    (f.blur n).textBefore before = f.textBefore before := by
  induction f generalizing before with
  | nil => rfl
  | text i s rest ih => simp [blur, textBefore, ih]
  | mask i m rest ih => simp [blur, textBefore, ih]
  | element i t a c rest _ ih => simp [blur, textBefore, ih]

theorem Reads.blur {f : Forest} {s : String} (h : f.Reads s) (n : NodeId) : (f.blur n).Reads s :=
  ⟨fun after => (textAfter_blur f).trans (h.1 after),
    fun before => (textBefore_blur f).trans (h.2 before)⟩

theorem textsIn_blur (f : Forest) : (f.blur n).textsIn above before after =
    (f.textsIn above before after).map fun p => (min p.1 n, p.2) := by
  induction f generalizing above before after with
  | nil => rfl
  | text i s rest ih => simp [blur, textsIn, ih]
  | mask i m rest ih => simp [blur, textsIn, ih]
  | element i t a c rest ihc ih => simp [blur, textsIn, ihc, ih]

/-- A blurred rewriting depends on what the texts blur to. -/
theorem blur_rewrite_congr {f : Forest}
    (h : ∀ p ∈ f.textsIn above before after, (y p.1 p.2).blur n = (y' p.1 p.2).blur n) :
    (f.rewrite y above before after).blur n = (f.rewrite y' above before after).blur n := by
  induction f generalizing above before after with
  | nil => rfl
  | text i s rest ih =>
      obtain ⟨hs, hrest⟩ := List.forall_mem_cons.mp h
      rw [rewrite, rewrite, blur_append, blur_append, ih hrest, hs]
  | mask i m rest ih => rw [rewrite, rewrite, blur, blur, ih h]
  | element i t a c rest ihc ih =>
      obtain ⟨hc, hrest⟩ := List.forall_mem_append.mp h
      rw [rewrite, rewrite, blur, blur, ihc hc, ih hrest]

/-- Blurring may come first. -/
theorem blur_rewrite {f : Forest}
    (h : ∀ p ∈ f.textsIn above before after, (y p.1 p.2).blur n = y' (min p.1 n) p.2) :
    (f.rewrite y above before after).blur n = (f.blur n).rewrite y' above before after := by
  induction f generalizing above before after with
  | nil => rfl
  | text i s rest ih =>
      obtain ⟨hs, hrest⟩ := List.forall_mem_cons.mp h
      rw [rewrite, blur, rewrite, blur_append, ih hrest, hs, textAfter_blur]
  | mask i m rest ih => rw [rewrite, blur, blur, rewrite, ih h]
  | element i t a c rest ihc ih =>
      obtain ⟨hc, hrest⟩ := List.forall_mem_append.mp h
      rw [rewrite, blur, blur, rewrite, ihc hc, ih hrest]

/-! ### Taking one text apart -/

@[simp] theorem map_fst_textsIn (f : Forest) :
    (f.textsIn above before after).map Prod.fst = f.textIds := by
  induction f generalizing above before after with
  | nil => rfl
  | text i s rest ih => simp [textsIn, textIds, ih]
  | mask i m rest ih => simp [textsIn, textIds, ih]
  | element i t a c rest ihc ih => simp [textsIn, textIds, ihc, ih]

theorem mem_ids_of_mem_textsIn {f : Forest} {p : NodeId × TextUnit}
    (h : p ∈ f.textsIn above before after) : p.1 ∈ f.ids := by
  have hmem := List.mem_map_of_mem (f := Prod.fst) h
  rw [map_fst_textsIn] at hmem
  exact f.textIds_sublist.subset hmem

/-- A rewriting that keeps the texts of a forest changes nothing. -/
theorem rewrite_eq_self {f : Forest}
    (h : ∀ p ∈ f.textsIn above before after, y p.1 p.2 = keep p.1 p.2) :
    f.rewrite y above before after = f := by
  rw [rewrite_congr h]
  exact rewrite_keep f

/-- Taking a text apart rewrites that text and keeps the others. -/
theorem splice_eq_rewrite {f leaves : Forest} {id : NodeId} (hn : f.ids.Nodup) :
    splice id leaves f =
      f.rewrite (fun i u => if i = id then leaves else keep i u) above before after := by
  have hother {g : Forest} (hid : id ∉ g.ids) (above : List Ancestor) (before after : String) :
      g.rewrite (fun i u => if i = id then leaves else keep i u) above before after = g := by
    refine rewrite_eq_self fun p hp => if_neg ?_
    rintro rfl
    exact hid (mem_ids_of_mem_textsIn hp)
  induction f generalizing above before after with
  | nil => rfl
  | text i s rest ih =>
      obtain ⟨hi, hrest⟩ := List.nodup_cons.mp hn
      rw [splice, rewrite]
      split_ifs with e
      · rw [hother (e ▸ hi)]
      · rw [← ih hrest]
        rfl
  | mask i m rest ih => rw [splice, rewrite, ← ih (List.nodup_cons.mp hn).2]
  | element i t a c rest ihc ih =>
      obtain ⟨hc, hrest, -⟩ := List.nodup_append.mp (List.nodup_cons.mp hn).2
      rw [splice, rewrite, ← ihc hc, ← ih hrest]

end Forest

/-- The texts of a document are those of its trees. -/
theorem Document.units_eq (d : Document) : d.units = d.trees.flatMap (·.textsIn [] "" "") :=
  List.flatMap_congr fun f _ => Forest.unitsFrom_eq [] "" f

theorem Document.mem_units_of_mem_textsIn {d : Document} {f : Forest} {p : NodeId × TextUnit}
    (hf : f ∈ d.trees) (hp : p ∈ f.textsIn [] "" "") : p ∈ d.units := by
  rw [units_eq]
  exact List.mem_flatMap.mpr ⟨f, hf, hp⟩

/-! ### Leaves with one number -/

namespace Fragment

/-- The leaves of fragments, all with the same number. -/
def leaves (n : NodeId) : List Fragment → Forest
  | [] => .nil
  | .text s :: rest => .text n s (leaves n rest)
  | .mask m :: rest => .mask n m (leaves n rest)

variable {n fresh : NodeId} {above : List Forest.Ancestor} {before after : String}

theorem blur_toForest (h : n ≤ fresh) (fragments : List Fragment) :
    (toForest fresh fragments).blur n = leaves n fragments := by
  induction fragments generalizing fresh with
  | nil => rfl
  | cons f rest ih =>
      cases f with
      | text s =>
          rw [toForest, Forest.blur, leaves, ih (Nat.le_succ_of_le h), Nat.min_eq_right h]
      | mask m =>
          rw [toForest, Forest.blur, leaves, ih (Nat.le_succ_of_le h), Nat.min_eq_right h]

@[simp] theorem blur_leaves (n : NodeId) (fragments : List Fragment) :
    (leaves n fragments).blur n = leaves n fragments := by
  induction fragments with
  | nil => rfl
  | cons f rest ih => cases f <;> simp [leaves, Forest.blur, ih]

/-- Leaves read like the text that was taken apart. -/
theorem reads_toForest (fresh : NodeId) (fragments : List Fragment) :
    (toForest fresh fragments).Reads (String.join (fragments.map unmasked)) := by
  induction fragments generalizing fresh with
  | nil => exact ⟨fun _ => by simp [toForest, Forest.textAfter],
      fun _ => by simp [toForest, Forest.textBefore]⟩
  | cons f rest ih =>
      obtain ⟨hafter, hbefore⟩ := ih (fresh + 1)
      cases f with
      | text s | mask m =>
          refine ⟨fun after => ?_, fun before => ?_⟩
          · simp [toForest, Forest.textAfter, hafter, unmasked, String.append_assoc]
          · simp [toForest, Forest.textBefore, hbefore, unmasked, String.append_assoc]

theorem reads_leaves (n : NodeId) (fragments : List Fragment) :
    (leaves n fragments).Reads (String.join (fragments.map unmasked)) := by
  rw [← blur_toForest (Nat.le_refl n) fragments]
  exact (reads_toForest n fragments).blur n

/-- The texts among the leaves are those among the fragments. -/
theorem textsIn_leaves (n fresh : NodeId) (fragments : List Fragment) :
    (leaves n fragments).textsIn above before after =
      (units above before after fresh fragments).map fun p => (n, p.2) := by
  induction fragments generalizing before fresh with
  | nil => rfl
  | cons f rest ih =>
      cases f with
      | text s =>
          simp [leaves, Forest.textsIn, units, ih (fresh + 1), (reads_leaves n rest).1]
      | mask m => simp [leaves, Forest.textsIn, units, ih (fresh + 1)]

theorem above_of_mem_units {fragments : List Fragment} {i : NodeId} {v : TextUnit}
    (h : (i, v) ∈ units above before after fresh fragments) : v.above = above := by
  induction fragments generalizing before fresh with
  | nil => cases h
  | cons f rest ih =>
      cases f with
      | text s =>
          rcases List.mem_cons.mp h with e | h
          · cases e
            rfl
          · exact ih h
      | mask m => exact ih h

end Fragment

end TextMasking
