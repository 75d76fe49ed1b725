import TextMasking.Proofs.Masking.Textwise

/-! # The texts that a pass reaches

Turns over a node look at the attached texts at or below it and at nothing else (`Turn.textsAt`).
What they leave of these texts depends on the texts alone (`Turn.textsAt_cutAll`), and they leave
those at another node as they are if no text lies at or below both (`Turn.textsAt_afterAll`).

Where trees follow a document, the texts at a node are those that a pass over the node reads, in the
same order (`Tracks.map_snd_passages`). -/

namespace TextMasking

namespace Turn

/-! ### Texts at a node -/

/-- The text is attached and lies at or below the node. -/
def Under (x : NodeId) (p : NodeId × TextUnit) : Prop :=
  Document.root ∈ p.2.above.map (·.id) ∧ (p.1 = x ∨ x ∈ p.2.above.map (·.id))

instance (x : NodeId) (p : NodeId × TextUnit) : Decidable (Under x p) :=
  inferInstanceAs (Decidable (_ ∧ _))

/-- The texts of trees. -/
def texts (trees : List Forest) : List (NodeId × TextUnit) :=
  trees.flatMap (·.textsIn [] "" "")

/-- The texts of trees that turns over a node reach. -/
def textsAt (x : NodeId) (trees : List Forest) : List (NodeId × TextUnit) :=
  (texts trees).filter (Under x ·)

variable (options : Options) (n : NodeId)

/-- What a pass reads in texts. -/
def read (ps : List (NodeId × TextUnit)) : List Passage :=
  ps.filterMap (·.2.passage? options)

/-- The texts that a turn leaves of a text. -/
def parts (t : Turn) (p : NodeId × TextUnit) : List (NodeId × TextUnit) :=
  (t.cut options n p.1 p.2).textsIn p.2.above p.2.passage.before p.2.passage.after

/-- The texts at a node that a turn leaves of texts. -/
def left (t : Turn) (x : NodeId) (ps : List (NodeId × TextUnit)) : List (NodeId × TextUnit) :=
  (ps.flatMap (parts options n t)).filter (Under x ·)

variable {options : Options} {n x z : NodeId} {t : Turn} {ts : List Turn} {trees : List Forest}
  {p q : NodeId × TextUnit}

theorem mem_textsAt : p ∈ textsAt x trees ↔ p ∈ texts trees ∧ Under x p := by
  rw [textsAt, List.mem_filter, decide_eq_true_iff]

/-- The number of a new text does not matter. -/
theorem under_min (hx : x < n) : Under x (min p.1 n, p.2) ↔ Under x p := by
  have hid : min p.1 n = x ↔ p.1 = x := by grind
  simp only [Under, hid]

theorem parts_of_not_under (h : ¬Under t.scope p) : parts options n t p = [p] := by
  rw [parts, cut_of_idle (scan_of_not_reaches h)]
  rfl

/-- What is left of a text at a node was a part of a text at the node. -/
theorem Under.of_mem_parts (hz : z < n) (hq : q ∈ parts options n t p) (h : Under z q) :
    Under z p := by
  obtain ⟨habove, hid⟩ := part_of_mem_cut hq
  rw [Under, habove] at h
  refine h.imp_right (Or.imp_left fun e => ?_)
  rcases hid with hid | hid
  · exact hid.symm.trans e
  · exact absurd hz (by rw [← e, hid]; exact Nat.lt_irrefl n)

theorem texts_cutAll : texts (cutAll options n t trees) =
    (texts trees).flatMap (parts options n t) := by
  rw [texts, cutAll, List.flatMap_map, texts, List.flatMap_assoc]
  exact List.flatMap_congr fun f _ =>
    Forest.textsIn_rewrite fun p _ => reads_cut options n t p.1 p.2

/-- **What a turn leaves at a node** depends on the texts that were there. -/
theorem textsAt_cutAll (hz : z < n) :
    textsAt z (cutAll options n t trees) = left options n t z (textsAt z trees) := by
  rw [textsAt, texts_cutAll, left, textsAt]
  induction texts trees with
  | nil => rfl
  | cons p ps ih =>
      rw [List.flatMap_cons, List.filter_append, ih, List.filter_cons]
      split_ifs with hp
      · rw [List.flatMap_cons, List.filter_append]
      · have hnone : (parts options n t p).filter (Under z ·) = [] := by
          rw [List.filter_eq_nil_iff]
          intro q hq hzq
          exact hp (decide_eq_true (Under.of_mem_parts hz hq (of_decide_eq_true hzq)))
        rw [hnone, List.nil_append]

/-! ### Nodes without a common text -/

/-- No text is at both nodes. -/
def Apart (x z : NodeId) (trees : List Forest) : Prop :=
  ∀ p ∈ texts trees, Under x p → ¬Under z p

theorem Apart.cutAll (hx : x < n) (hz : z < n) (h : Apart x z trees) (t : Turn) :
    Apart x z (cutAll options n t trees) := by
  intro q hq hxq hzq
  rw [texts_cutAll, List.mem_flatMap] at hq
  obtain ⟨p, hp, hq⟩ := hq
  exact h p hp (hxq.of_mem_parts hx hq) (hzq.of_mem_parts hz hq)

/-- **Turns over one node leave the texts at the other one.** -/
theorem textsAt_afterAll (hx : x < n) (hz : z < n) (hts : ∀ t ∈ ts, t.scope = x)
    (h : Apart x z trees) : textsAt z (afterAll options n ts trees) = textsAt z trees := by
  induction ts generalizing trees with
  | nil => rw [afterAll_nil]
  | cons t ts ih =>
      obtain ⟨ht, hts⟩ := List.forall_mem_cons.mp hts
      rw [afterAll_cons, ih hts (h.cutAll hx hz t), textsAt_cutAll hz, left]
      have hparts : (textsAt z trees).flatMap (parts options n t) = textsAt z trees := by
        conv_rhs => rw [← List.flatMap_singleton' (textsAt z trees)]
        refine List.flatMap_congr fun p hp => parts_of_not_under ?_
        obtain ⟨hp, hzp⟩ := mem_textsAt.mp hp
        rw [ht]
        exact fun hxp => h p hp hxp hzp
      rw [hparts, List.filter_eq_self]
      exact fun p hp => decide_eq_true (mem_textsAt.mp hp).2

end Turn

/-! ### Texts of a document -/

namespace Forest

/-- The number of a node that is a text. -/
def textId? : NodeId × NodeKind → Option NodeId
  | (i, .text _) => some i
  | (_, .mask _) | (_, .element _) => none

theorem textIds_eq (f : Forest) : f.textIds = f.nodes.filterMap textId? := by
  induction f with
  | nil => rfl
  | text i s rest ih => simp [textIds, nodes, textId?, ih]
  | mask i m rest ih => simp [textIds, nodes, List.filterMap_cons, textId?, ih]
  | element i t a c rest ihc ih =>
      simp [textIds, nodes, List.filterMap_cons, textId?, ihc, ih]

end Forest

namespace Document

variable {d : Document} {x : NodeId} {options : Options}

/-- The texts at or below a node are listed in the order of the document. -/
theorem textIds_sublist (d : Document) (x : NodeId) :
    (d.textIds x).Sublist (d.units.map Prod.fst) := by
  cases hx : d.tree? x with
  | none =>
      rw [textIds, hx]
      exact List.nil_sublist _
  | some g =>
      obtain ⟨f, hf, -, hfind⟩ := exists_tree_of_tree? hx
      obtain ⟨pre, post, htrees⟩ := List.append_of_mem hf
      have hsub : g.textIds.Sublist f.textIds := by
        rw [Forest.textIds_eq, Forest.textIds_eq]
        exact (Forest.nodes_sublist_of_find? hfind).filterMap _
      rw [textIds, hx, units_eq, List.map_flatMap, htrees, List.flatMap_append, List.flatMap_cons,
        Forest.map_fst_textsIn]
      exact hsub.trans ((List.sublist_append_left _ _).trans (List.sublist_append_right _ _))

namespace WellFormed

variable (wf : d.WellFormed)
include wf

theorem textIds_eq (x : NodeId) :
    d.textIds x = (d.units.filter fun p => p.1 = x ∨ x ∈ p.2.above.map (·.id)).map Prod.fst := by
  have hsub := (d.textIds_sublist x).filter (decide <| · ∈ d.textIds x)
  have hself : (d.textIds x).filter (decide <| · ∈ d.textIds x) = d.textIds x :=
    List.filter_eq_self.mpr fun i hi => decide_eq_true hi
  rw [hself] at hsub
  have hle := (wf.units_nodup.filter (decide <| · ∈ d.textIds x)).length_le_of_subset
    fun i hi => of_decide_eq_true (List.mem_filter.mp hi).2
  rw [hsub.eq_of_length_le hle, List.filter_map]
  congr 1
  exact List.filter_congr fun p hp => decide_eq_decide.mpr (wf.mem_textIds_iff hp)

/-- **The texts that a pass reads,** in the order of the document. -/
theorem map_snd_passages (x : NodeId) (options : Options) :
    (d.passages x options).map Prod.snd =
      Turn.read options (d.units.filter fun p => p.1 = x ∨ x ∈ p.2.above.map (·.id)) := by
  rw [Turn.read, passages, wf.textIds_eq x, List.map_filterMap, List.filterMap_map]
  refine List.filterMap_congr fun p hp => ?_
  obtain ⟨place, s, hplace, hnode, hu⟩ := wf.exists_place_of_mem_units (List.mem_filter.mp hp).1
  rw [Function.comp_apply, hplace, Option.bind_some, Forest.Place.passage?_eq hnode, ← hu]
  cases p.2.passage? options <;> rfl

end WellFormed

end Document

namespace Tracks

open Turn (Under under_min textsAt texts)

variable {options : Options} {n x z : NodeId} {d : Document} {trees : List Forest}

/-- The texts at a node are those of the document, with the number `n` for new ones. -/
theorem textsAt_eq (h : Tracks n trees d) (hx : x < n) :
    textsAt x trees = (d.units.filter (Under x ·)).map fun p => (min p.1 n, p.2) := by
  obtain ⟨loose, hloose, htrees⟩ := h.trees_eq
  have hnone : textsAt x loose = [] := by
    rw [textsAt, List.filter_eq_nil_iff]
    intro p hp
    obtain ⟨f, hf, hp⟩ := List.mem_flatMap.mp hp
    obtain ⟨i, s, -, rfl⟩ := hloose f hf
    obtain rfl := List.mem_singleton.mp hp
    simp [Under]
  have htexts : texts (d.trees.map (Forest.blur n)) = d.units.map fun p => (min p.1 n, p.2) := by
    rw [texts, List.flatMap_map, Document.units_eq, List.map_flatMap]
    exact List.flatMap_congr fun f _ => Forest.textsIn_blur f
  calc textsAt x trees = textsAt x (trees ++ loose) := by
        rw [textsAt, textsAt, texts, texts, List.flatMap_append, List.filter_append, ← texts,
          ← texts, ← textsAt, ← textsAt, hnone, List.append_nil]
    _ = (d.units.filter (Under x ·)).map fun p => (min p.1 n, p.2) := by
        rw [← htrees, textsAt, htexts, List.filter_map]
        congr 1
        exact List.filter_congr fun p _ => decide_eq_decide.mpr (under_min hx)

/-- **What a pass reads** is in the texts at its node if these are attached. -/
theorem map_snd_passages (h : Tracks n trees d) (hx : x < n)
    (ha : ∀ id u, (id, u) ∈ d.units → id ∈ d.textIds x → Document.root ∈ u.above.map (·.id)) :
    (d.passages x options).map Prod.snd = Turn.read options (textsAt x trees) := by
  have hfilter : (d.units.filter fun p => p.1 = x ∨ x ∈ p.2.above.map (·.id)) =
      d.units.filter (Under x ·) := by
    refine List.filter_congr fun p hp => decide_eq_decide.mpr ?_
    refine ⟨fun hid => ⟨?_, hid⟩, And.right⟩
    exact ha p.1 p.2 hp ((h.wellFormed.mem_textIds_iff hp).mpr hid)
  rw [h.wellFormed.map_snd_passages, h.textsAt_eq hx, hfilter, Turn.read, Turn.read,
    List.filterMap_map]
  rfl

/-- Nodes without a common text in the document have none in the trees. -/
theorem apart (h : Tracks n trees d) (hx : x < n) (hz : z < n)
    (hxz : ∀ p ∈ d.units, Under x p → ¬Under z p) : Turn.Apart x z trees := by
  intro p hp hxp hzp
  have hmem := Turn.mem_textsAt.mpr ⟨hp, hxp⟩
  rw [h.textsAt_eq hx] at hmem
  obtain ⟨q, hq, rfl⟩ := List.mem_map.mp hmem
  obtain ⟨hq, hxq⟩ := List.mem_filter.mp hq
  exact hxz q hq (of_decide_eq_true hxq) ((under_min hz).mp hzp)

end Tracks

end TextMasking
