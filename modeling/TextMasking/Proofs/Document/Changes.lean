import TextMasking.Proofs.Document.Nodes

/-! # What changes of a forest do to its nodes

One lemma for each change says which nodes it takes away and which it brings, as a permutation of
the lists `Forest.nodes`; a change that names a node which is not there changes nothing
(`erase_of_not_mem` and its like).  Turning a mask back rewrites the text beside it, so there the
permutation is one of `Forest.shapes`, which forget the content of texts. -/

namespace TextMasking

/-- What a node is, without the content of a text. -/
def NodeKind.shape : NodeKind → NodeKind
  | .text _ => .text ""
  | k => k

namespace Forest

/-- All nodes with what they are, without the contents of texts. -/
def shapes (f : Forest) : List (NodeId × NodeKind) :=
  f.nodes.map fun n => (n.1, n.2.shape)

@[simp] theorem map_fst_shapes (f : Forest) : f.shapes.map Prod.fst = f.ids := by
  rw [shapes, List.map_map, ← map_fst_nodes]
  rfl

theorem mem_shapes_mask {f : Forest} {id : NodeId} {m : Mask} :
    (id, .mask m) ∈ f.shapes ↔ (id, .mask m) ∈ f.nodes := by
  constructor
  · intro h
    obtain ⟨⟨i, k⟩, hk, e⟩ := List.mem_map.mp h
    cases k <;> cases e
    exact hk
  · intro h
    exact List.mem_map.mpr ⟨_, h, rfl⟩

theorem mem_shapes_element {f : Forest} {id : NodeId} {t : String} :
    (id, .element t) ∈ f.shapes ↔ (id, .element t) ∈ f.nodes := by
  constructor
  · intro h
    obtain ⟨⟨i, k⟩, hk, e⟩ := List.mem_map.mp h
    cases k <;> cases e
    exact hk
  · intro h
    exact List.mem_map.mpr ⟨_, h, rfl⟩

/-! ### Erasing a node -/

theorem erase_of_not_mem {f : Forest} {id : NodeId} (h : id ∉ f.ids) : f.erase id = f := by
  induction f with
  | nil => rfl
  | text i s rest ih =>
      simp only [ids, List.mem_cons, not_or] at h
      rw [erase, if_neg (Ne.symm h.1), ih h.2]
  | mask i m rest ih =>
      simp only [ids, List.mem_cons, not_or] at h
      rw [erase, if_neg (Ne.symm h.1), ih h.2]
  | element i t a c rest ihc ih =>
      simp only [ids, List.mem_cons, List.mem_append, not_or] at h
      rw [erase, if_neg (Ne.symm h.1), ihc h.2.1, ih h.2.2]

/-- Erasing takes away the node with what lies below it. -/
theorem nodes_erase_perm {f n : Forest} {id : NodeId} (hn : f.ids.Nodup)
    (h : f.find? id = some n) : ((f.erase id).nodes ++ n.nodes).Perm f.nodes := by
  rw [List.perm_iff_count]
  intro x
  induction f with
  | nil => cases h
  | text i s rest ih | mask i m rest ih =>
      rw [find?] at h
      rw [erase]
      split_ifs at h ⊢
      · cases h
        simp [nodes, List.count_cons]
      · have := ih (List.nodup_cons.mp hn).2 h
        simp only [nodes, List.cons_append, List.count_cons] at this ⊢
        omega
  | element i t a c rest ihc ih =>
      obtain ⟨hc, hr, hcr⟩ := List.nodup_append.mp (List.nodup_cons.mp hn).2
      rw [find?] at h
      rw [erase]
      split_ifs at h ⊢
      · cases h
        simp only [nodes, List.append_nil, List.count_append, List.count_cons]
        omega
      · rcases Option.or_eq_some_iff.mp h with h | ⟨hc', h⟩
        · have hid := mem_ids_of_find? h
          rw [erase_of_not_mem fun hr => hcr id hid id hr rfl]
          have := ihc hc h
          simp only [nodes, List.count_append, List.count_cons] at this ⊢
          omega
        · rw [erase_of_not_mem (find?_eq_none_iff.mp hc')]
          have := ih hr h
          simp only [nodes, List.count_append, List.count_cons] at this ⊢
          omega

/-! ### Adding children -/

theorem appendChild_of_not_mem {f tree : Forest} {parent : NodeId} (h : parent ∉ f.ids) :
    appendChild parent tree f = f := by
  induction f with
  | nil => rfl
  | text i s rest ih =>
      simp only [ids, List.mem_cons, not_or] at h
      rw [appendChild, ih h.2]
  | mask i m rest ih =>
      simp only [ids, List.mem_cons, not_or] at h
      rw [appendChild, ih h.2]
  | element i t a c rest ihc ih =>
      simp only [ids, List.mem_cons, List.mem_append, not_or] at h
      rw [appendChild, if_neg (Ne.symm h.1), ihc h.2.1, ih h.2.2]

/-- A tree that is added below an element brings its nodes. -/
theorem nodes_appendChild_perm {f : Forest} (tree : Forest) {parent : NodeId} {t : String}
    (hn : f.ids.Nodup) (h : (parent, .element t) ∈ f.nodes) :
    (appendChild parent tree f).nodes.Perm (f.nodes ++ tree.nodes) := by
  rw [List.perm_iff_count]
  intro x
  induction f with
  | nil => cases h
  | text i s rest ih | mask i m rest ih =>
      have := ih (List.nodup_cons.mp hn).2 (by simpa [nodes] using h)
      simp only [appendChild, nodes, List.count_append, List.count_cons] at this ⊢
      omega
  | element i t' a c rest ihc ih =>
      obtain ⟨hi, hn⟩ := List.nodup_cons.mp hn
      obtain ⟨hc, hr, hcr⟩ := List.nodup_append.mp hn
      rw [appendChild]
      split_ifs with e
      · simp only [nodes, nodes_append, List.count_append, List.count_cons]
        omega
      · simp only [nodes, List.mem_cons, List.mem_append, Prod.mk.injEq, Ne.symm e, false_and,
          false_or] at h
        rcases h with h | h
        · have hid := mem_ids_of_mem_nodes h
          rw [appendChild_of_not_mem fun hr => hcr parent hid parent hr rfl]
          have := ihc hc h
          simp only [nodes, List.count_append, List.count_cons] at this ⊢
          omega
        · have hid := mem_ids_of_mem_nodes h
          rw [appendChild_of_not_mem fun hc => hcr parent hc parent hid rfl]
          have := ih hr h
          simp only [nodes, List.count_append, List.count_cons] at this ⊢
          omega

/-! ### Attributes -/

@[simp] theorem nodes_setAttribute (f : Forest) (id : NodeId) (name value : String) :
    (f.setAttribute id name value).nodes = f.nodes := by
  induction f with
  | nil => rfl
  | text i s rest ih => simp [setAttribute, nodes, ih]
  | mask i m rest ih => simp [setAttribute, nodes, ih]
  | element i t a c rest ihc ih =>
      rw [setAttribute]
      split_ifs <;> simp [nodes, ihc, ih]

/-! ### Replacing a text -/

theorem splice_of_not_mem {f leaves : Forest} {id : NodeId} (h : id ∉ f.ids) :
    splice id leaves f = f := by
  induction f with
  | nil => rfl
  | text i s rest ih =>
      simp only [ids, List.mem_cons, not_or] at h
      rw [splice, if_neg (Ne.symm h.1), ih h.2]
  | mask i m rest ih =>
      simp only [ids, List.mem_cons, not_or] at h
      rw [splice, ih h.2]
  | element i t a c rest ihc ih =>
      simp only [ids, List.mem_cons, List.mem_append, not_or] at h
      rw [splice, ihc h.2.1, ih h.2.2]

/-- The leaves that replace a text come, the text goes. -/
theorem nodes_splice_perm {f : Forest} (leaves : Forest) {id : NodeId} {s : String}
    (hn : f.ids.Nodup) (h : (id, .text s) ∈ f.nodes) :
    ((splice id leaves f).nodes ++ [(id, NodeKind.text s)]).Perm (f.nodes ++ leaves.nodes) := by
  rw [List.perm_iff_count]
  intro x
  induction f with
  | nil => cases h
  | text i s' rest ih =>
      obtain ⟨hi, hn⟩ := List.nodup_cons.mp hn
      simp only [nodes, List.mem_cons, Prod.mk.injEq, NodeKind.text.injEq] at h
      rw [splice]
      split_ifs with e
      · subst e
        have hs : s' = s := by
          rcases h with h | h
          · exact h.2.symm
          · exact absurd (mem_ids_of_mem_nodes h) hi
        simp only [hs, nodes, nodes_append, List.count_append, List.count_cons, List.count_nil]
        omega
      · have := ih hn (h.resolve_left fun h => e h.1.symm)
        simp only [nodes, List.count_append, List.count_cons] at this ⊢
        omega
  | mask i m rest ih =>
      have := ih (List.nodup_cons.mp hn).2 (by simpa [nodes] using h)
      simp only [splice, nodes, List.count_append, List.count_cons] at this ⊢
      omega
  | element i t a c rest ihc ih =>
      obtain ⟨hc, hr, hcr⟩ := List.nodup_append.mp (List.nodup_cons.mp hn).2
      simp only [nodes, List.mem_cons, Prod.mk.injEq, reduceCtorEq, and_false, false_or,
        List.mem_append] at h
      rw [splice]
      rcases h with h | h
      · have hid := mem_ids_of_mem_nodes h
        rw [splice_of_not_mem fun hr => hcr id hid id hr rfl]
        have := ihc hc h
        simp only [nodes, List.count_append, List.count_cons] at this ⊢
        omega
      · have hid := mem_ids_of_mem_nodes h
        rw [splice_of_not_mem fun hc => hcr id hc id hid rfl]
        have := ih hr h
        simp only [nodes, List.count_append, List.count_cons] at this ⊢
        omega

/-! ### Turning a mask back -/

/-- The text that a forest begins with, if it begins with one, without its content. -/
def headText : Forest → List (NodeId × NodeKind)
  | .text i _ _ => [(i, .text "")]
  | _ => []

theorem unmask_of_not_mem {f : Forest} {id fresh : NodeId} (h : id ∉ f.ids) :
    f.unmask id fresh = f := by
  induction f with
  | nil => rfl
  | text i s rest ih =>
      simp only [ids, List.mem_cons, not_or] at h
      cases rest with
      | mask j m more =>
          have hj : j ≠ id := by
            rintro rfl
            exact h.2 (by simp [ids])
          rw [unmask, if_neg hj, ih h.2]
      | nil => rfl
      | text => rw [unmask, ih h.2]; simp
      | element => rw [unmask, ih h.2]; simp
  | mask i m rest ih =>
      simp only [ids, List.mem_cons, not_or] at h
      rw [unmask, if_neg (Ne.symm h.1), ih h.2]
  | element i t a c rest ihc ih =>
      simp only [ids, List.mem_cons, List.mem_append, not_or] at h
      rw [unmask, ihc h.2.1, ih h.2.2]

theorem shapes_takeText (f : Forest) : f.headText ++ f.takeText.2.shapes = f.shapes := by
  cases f <;> rfl

/-- The text before a mask takes what the mask hides. -/
theorem unmask_text_mask {i id fresh : NodeId} {s : String} {m : Mask} {rest : Forest} :
    (text i s (mask id m rest)).unmask id fresh =
      .text i (s ++ (m.hidden ++ rest.takeText.1)) rest.takeText.2 := by
  rw [unmask, if_pos rfl]

/-- A text that does not stand before the mask is kept. -/
theorem unmask_text {i id fresh : NodeId} {s : String} {rest : Forest}
    (h : ∀ m more, rest ≠ .mask id m more) :
    (text i s rest).unmask id fresh = .text i s (rest.unmask id fresh) := by
  cases rest with
  | mask j m more =>
      rw [unmask, if_neg]
      rintro rfl
      exact h m more rfl
  | nil => rfl
  | text => rw [unmask]; simp
  | element => rw [unmask]; simp

/-- Turning a mask back takes away the mask and the text after it, and brings a text where none
stands before the mask. -/
theorem shapes_unmask_perm {f before : Forest} {above : List Ancestor} {id : NodeId}
    (fresh : NodeId) {m : Mask} {p : Place} (hn : f.ids.Nodup)
    (h : placeFrom above before id f = some p)
    (hm : p.node = .mask id m .nil) (hb : ∀ m' rest, f = .mask id m' rest → before.headText = []) :
    ((f.unmask id fresh).shapes ++ p.after.headText ++ [(id, NodeKind.mask m)]).Perm
      (f.shapes ++ if p.before.headText = [] then [(fresh, NodeKind.text "")] else []) := by
  rw [List.perm_iff_count]
  intro x
  induction f generalizing above before with
  | nil => cases h
  | text i s rest ih =>
      obtain ⟨hi, hn⟩ := List.nodup_cons.mp hn
      rw [placeFrom] at h
      split_ifs at h with e
      · cases h
        cases hm
      · by_cases hr : ∃ m' more, rest = .mask id m' more
        · obtain ⟨m', more, rfl⟩ := hr
          rw [placeFrom, if_pos rfl] at h
          cases h
          cases hm
          rw [unmask_text_mask]
          have := congrArg (List.count x) (shapes_takeText more)
          simp only [shapes, nodes, List.map_cons, NodeKind.shape, headText, List.count_append,
            List.count_cons, List.count_nil, List.cons_ne_nil, if_false] at this ⊢
          omega
        · rw [unmask_text fun m' more e => hr ⟨m', more, e⟩]
          have := ih hn h fun m' more e => absurd ⟨m', more, e⟩ hr
          simp only [shapes, nodes, List.map_cons, List.count_append, List.count_cons] at this ⊢
          omega
  | mask i m' rest ih =>
      obtain ⟨hi, hn⟩ := List.nodup_cons.mp hn
      rw [placeFrom] at h
      split_ifs at h with e
      · subst e
        cases h
        cases hm
        rw [unmask, if_pos rfl, if_pos (hb _ _ rfl)]
        have := congrArg (List.count x) (shapes_takeText rest)
        simp only [shapes, nodes, List.map_cons, NodeKind.shape, List.count_append,
          List.count_cons, List.count_nil] at this ⊢
        omega
      · rw [unmask, if_neg e]
        have := ih hn h fun _ _ _ => rfl
        simp only [shapes, nodes, List.map_cons, List.count_append, List.count_cons] at this ⊢
        omega
  | element i t a c rest ihc ih =>
      obtain ⟨hi, hn⟩ := List.nodup_cons.mp hn
      obtain ⟨hc, hr, hcr⟩ := List.nodup_append.mp hn
      rw [placeFrom] at h
      split_ifs at h with e
      · cases h
        cases hm
      · rw [unmask]
        cases hp : placeFrom (⟨i, t, a⟩ :: above) .nil id c with
        | some q =>
            rw [hp] at h
            cases h
            have hid : id ∈ c.ids := by
              by_contra hno
              rw [placeFrom_eq_none_iff.mpr hno] at hp
              cases hp
            rw [unmask_of_not_mem fun hr => hcr id hid id hr rfl]
            have := ihc hc hp fun _ _ _ => rfl
            simp only [shapes, nodes, List.map_cons, List.map_append, List.count_append,
              List.count_cons] at this ⊢
            omega
        | none =>
            rw [hp] at h
            rw [unmask_of_not_mem (placeFrom_eq_none_iff.mp hp)]
            have := ih hr h fun _ _ _ => rfl
            simp only [shapes, nodes, List.map_cons, List.map_append, List.count_append,
              List.count_cons] at this ⊢
            omega

end Forest

end TextMasking
