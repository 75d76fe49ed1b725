import Mathlib.Algebra.GroupWithZero.Nat
import TextMasking.Proofs.Document.Spots
import TextMasking.Proofs.Masking.Idempotence
import TextMasking.Proofs.Masking.Tallies
import TextMasking.Proofs.Masking.Turns

/-! # Replacing what was found

A rule replaces its findings one after the other.  All in all each text gives way to what it is
taken apart into, whatever becomes of the others, and the matches are counted
(`Matcher.foldl_replaceFound_trees`).  A text that was taken apart stays without a parent.

A node is steady if it is attached or a text: while rules are applied it stays so
(`Matcher.steady_apply`), and the texts at or below it are attached together
(`Document.Steady.texts`). -/

namespace TextMasking

open Forest (keep)

/-! ### Counting -/

/-- How many matches were found. -/
def Scanned.count (s : Scanned) : Nat :=
  match s.result with
  | .ok found => found.length
  | .error _ => 0

namespace Report

/-- How often a pattern was masked. -/
def occurrences (r : Report) (pattern : String) : Nat :=
  ((r.summary.filter (·.pattern = pattern)).map (·.occurrences)).sum

theorem occurrences_record (r : Report) (item : SummaryItem) (pattern : String) :
    (r.record item).occurrences pattern =
      r.occurrences pattern + if item.pattern = pattern then item.occurrences else 0 :=
  countOf_tally r.summary item pattern

theorem occurrences_merge (r later : Report) (pattern : String) :
    (r.merge later).occurrences pattern = r.occurrences pattern + later.occurrences pattern :=
  countOf_foldl_tally r.summary later.summary pattern

end Report

/-- From one report to another, what was found is counted. -/
structure Counts (scans : List Scanned) (r r' : Report) : Prop where
  masksCreated : r'.masksCreated = r.masksCreated + (scans.map Scanned.count).sum
  occurrences : ∀ pattern, r'.occurrences pattern =
    r.occurrences pattern + ((scans.filter (·.pattern = pattern)).map Scanned.count).sum

namespace Counts

variable {scans scans' : List Scanned} {r r' r'' : Report}

theorem of_eq (hm : r'.masksCreated = r.masksCreated) (hs : r'.summary = r.summary) :
    Counts [] r r' :=
  ⟨hm, fun pattern => by rw [Report.occurrences, Report.occurrences, hs]; rfl⟩

theorem record (r : Report) (replacement : String) (s : Scanned) :
    Counts [s] r (r.record ⟨s.pattern, replacement, s.count⟩) where
  masksCreated := by simp [Report.record]
  occurrences pattern := by
    rw [Report.occurrences_record]
    by_cases h : s.pattern = pattern <;> simp [h]

theorem trans (h : Counts scans r r') (h' : Counts scans' r' r'') :
    Counts (scans ++ scans') r r'' where
  masksCreated := by
    rw [h'.masksCreated, h.masksCreated, List.map_append, List.sum_append, Nat.add_assoc]
  occurrences pattern := by
    rw [h'.occurrences, h.occurrences, List.filter_append, List.map_append, List.sum_append,
      Nat.add_assoc]

/-- What was found in a pass is counted when its report is merged. -/
theorem merge (h : Counts scans Report.empty r') (r : Report) : Counts scans r (r.merge r') where
  masksCreated := congrArg (r.masksCreated + ·) (h.masksCreated.trans (Nat.zero_add _))
  occurrences pattern := by
    rw [Report.occurrences_merge, h.occurrences]
    exact congrArg (r.occurrences pattern + ·) (Nat.zero_add _)

theorem perm (h : Counts scans r r') (hp : scans.Perm scans') : Counts scans' r r' where
  masksCreated := by rw [h.masksCreated, (hp.map _).sum_nat]
  occurrences pattern := by rw [h.occurrences, ((hp.filter _).map _).sum_nat]

end Counts

/-! ### Replacing what was found -/

/-- A text without a parent. -/
def Forest.Loose (f : Forest) : Prop :=
  ∃ i s, i ≠ Document.root ∧ f = .text i s .nil

namespace Matcher

variable {m : Matcher} {d d' : Document} {r : Report} {n : NodeId} {f g : Finding}
  {fs : List Finding} {u v : TextUnit}

/-- The text of a finding is attached, and what it is taken apart into reads like it. -/
structure Stands (d : Document) (f : Finding) (u : TextUnit) : Prop where
  mem : (f.id, u) ∈ d.units
  attached : Document.root ∈ u.above.map (·.id)
  reads : String.join ((Fragment.ofMatches f.text f.found).map Fragment.unmasked) = u.passage.text

/-- What becomes of a text when findings are replaced; new leaves get the number `n`. -/
def replaced (n : NodeId) (fs : List Finding) (i : NodeId) (u : TextUnit) : Forest :=
  match fs.find? (·.id = i) with
  | some f => Fragment.leaves n (Fragment.ofMatches f.text f.found)
  | none => keep i u

theorem replaced_of_not_mem {i : NodeId} (h : i ∉ fs.map (·.id)) (n : NodeId) (u : TextUnit) :
    replaced n fs i u = keep i u := by
  have hnone : fs.find? (·.id = i) = none := by
    rw [List.find?_eq_none]
    intro f hf
    simp only [decide_eq_true_eq]
    rintro rfl
    exact h (List.mem_map_of_mem hf)
  rw [replaced, hnone]

/-- A finding whose text is attached is replaced. -/
theorem Stands.replaceFound (wf : d.WellFormed) (h : Stands d f u) (m : Matcher) (r : Report) :
    ∃ new d', d.replaceText f.id (Fragment.ofMatches f.text f.found) = .ok (new, d') ∧
      m.replaceFound (d, r) f =
        (d', r.record ⟨m.rule.pattern, m.rule.replacement, f.found.length⟩) := by
  rcases m.replaceFound_cases d r f with hdone | ⟨e, hno, -⟩
  · exact hdone
  · have ha := (wf.attached_iff_of_mem_units h.mem).mpr h.attached
    rw [Document.not_attached_of_replaceText wf h.mem hno] at ha
    cases ha

/-- The trees after a finding was replaced: its text gives way to the fragments, and stays without
a parent. -/
theorem Stands.trees_eq {new : List NodeId} (wf : d.WellFormed) (h : Stands d f u)
    (hrep : d.replaceText f.id (Fragment.ofMatches f.text f.found) = .ok (new, d')) :
    d'.trees = (d.trees.map fun t => t.rewrite (fun i v => if i = f.id then
        Fragment.toForest d.fresh (Fragment.ofMatches f.text f.found) else keep i v) [] "" "") ++
      [.text f.id u.passage.text .nil] := by
  obtain ⟨p, s, hp, hnode, -, -, ht, -⟩ := Document.replaceText_cases hrep
  have hs : s = u.passage.text := by
    have hmem := wf.tree?_text_iff.mpr (wf.mem_nodes_of_mem_units h.mem)
    rw [Document.tree?_of_place? hp, hnode] at hmem
    cases hmem
    rfl
  rw [ht, hs]
  congr 1
  exact List.map_congr_left fun t ht => Forest.splice_eq_rewrite (wf.tree_nodup ht)

/-- Other findings still stand. -/
theorem Stands.other {new : List NodeId} (wf : d.WellFormed) (h : Stands d f u)
    (hrep : d.replaceText f.id (Fragment.ofMatches f.text f.found) = .ok (new, d'))
    (hg : Stands d g v) (hne : g.id ≠ f.id) : Stands d' g v :=
  ⟨Document.mem_units_of_replaceText wf hrep h.mem h.reads hg.mem hne, hg.attached, hg.reads⟩

/-- Replacing one finding and then the others is replacing them all. -/
theorem Stands.rewrite_rewrite (wf : d.WellFormed) (hn : n ≤ d.fresh) (h : Stands d f u)
    (hfs : ∀ g ∈ fs, g.id < d.fresh) {t : Forest} (ht : t ∈ d.trees) :
    ((t.rewrite (fun i v => if i = f.id then
        Fragment.toForest d.fresh (Fragment.ofMatches f.text f.found) else keep i v)
      [] "" "").rewrite (replaced n fs) [] "" "").blur n =
      (t.rewrite (replaced n (f :: fs)) [] "" "").blur n := by
  rw [Forest.rewrite_rewrite]
  · refine Forest.blur_rewrite_congr fun p hp => ?_
    by_cases e : p.1 = f.id
    · -- no finding is left among the new leaves
      have hself : replaced n (f :: fs) p.1 p.2 =
          Fragment.leaves n (Fragment.ofMatches f.text f.found) := by
        rw [replaced, List.find?_cons_of_pos (by simp [e])]
      rw [if_pos e, hself, Fragment.blur_leaves, Forest.rewrite_eq_self, Fragment.blur_toForest hn]
      intro q hq
      refine replaced_of_not_mem ?_ n q.2
      intro hmem
      obtain ⟨g, hg, hid⟩ := List.mem_map.mp hmem
      have hnew := Forest.mem_ids_of_mem_textsIn hq
      rw [Fragment.ids_toForest, List.mem_range'_1, ← hid] at hnew
      exact absurd hnew.1 (Nat.not_le_of_lt (hfs g hg))
    · have hother : replaced n (f :: fs) p.1 p.2 = replaced n fs p.1 p.2 := by
        rw [replaced, replaced, List.find?_cons_of_neg (by simpa using Ne.symm e)]
      rw [if_neg e, hother, Forest.rewrite_keep_self]
  · intro p hp
    dsimp only
    split_ifs with e
    · have hu : p.2 = u := wf.unit_unique (e ▸ Document.mem_units_of_mem_textsIn ht hp) h.mem
      rw [hu, ← h.reads]
      exact Fragment.reads_toForest _ _
    · exact Forest.reads_keep p.1 p.2

/-- **All findings are replaced:** the document has the trees in which each text gave way to what it
was taken apart into, and these texts without a parent; what was found is counted. -/
theorem foldl_replaceFound_trees (wf : d.WellFormed) (hpos : 0 < n) (hn : n ≤ d.fresh)
    (hnodup : (fs.map (·.id)).Nodup) (hs : ∀ f ∈ fs, ∃ u, Stands d f u) :
    let state := fs.foldl m.replaceFound (d, r)
    state.1.WellFormed ∧ n ≤ state.1.fresh ∧
      Counts (fs.map fun f => ⟨m.rule.pattern, .ok f.found⟩) r state.2 ∧
      ∃ loose, (∀ t ∈ loose, Forest.Loose t) ∧ state.1.trees.map (Forest.blur n) =
        (d.trees.map fun t => (t.rewrite (replaced n fs) [] "" "").blur n) ++ loose := by
  induction fs generalizing d r with
  | nil =>
      refine ⟨wf, hn, .of_eq rfl rfl, [], List.forall_mem_nil _, ?_⟩
      rw [List.foldl_nil, List.append_nil]
      refine List.map_congr_left fun t _ => ?_
      rw [Forest.rewrite_eq_self fun p _ => replaced_of_not_mem List.not_mem_nil n p.2]
  | cons f fs ih =>
      obtain ⟨⟨u, hu⟩, hfs⟩ := List.forall_mem_cons.mp hs
      obtain ⟨hnot, hnodup'⟩ := List.nodup_cons.mp hnodup
      obtain ⟨new, d', hrep, hstate⟩ := hu.replaceFound wf m r
      have hext := Document.Extends.replaceText wf hrep
      have hlt : ∀ g ∈ fs, g.id < d.fresh := by
        intro g hg
        obtain ⟨v, hv⟩ := hfs g hg
        exact wf.mem_ids_iff.mp (Document.mem_ids_of_mem_nodes (wf.mem_nodes_of_mem_units hv.mem))
      have hstand : ∀ g ∈ fs, ∃ v, Stands d' g v := by
        intro g hg
        obtain ⟨v, hv⟩ := hfs g hg
        refine ⟨v, hu.other wf hrep hv ?_⟩
        intro e
        exact hnot (List.mem_map.mpr ⟨g, hg, e⟩)
      obtain ⟨wf', hn', hcounts, loose, hloose, htrees⟩ :=
        ih (r := r.record ⟨m.rule.pattern, m.rule.replacement, f.found.length⟩)
          (hext.wellFormed wf) (Nat.le_trans hn hext.fresh_le) hnodup' hstand
      rw [List.foldl_cons, hstate]
      refine ⟨wf', hn', (Counts.record r m.rule.replacement
        ⟨m.rule.pattern, .ok f.found⟩).trans hcounts,
        .text (min f.id n) u.passage.text .nil :: loose, ?_, ?_⟩
      · have hid : 0 < f.id := Nat.pos_of_ne_zero (wf.above_replaceText_self hrep).1
        exact List.forall_mem_cons.mpr
          ⟨⟨_, _, Nat.ne_of_gt (Nat.lt_min.mpr ⟨hid, hpos⟩), rfl⟩, hloose⟩
      · rw [htrees, hu.trees_eq wf hrep, List.map_append, List.map_map, List.append_assoc]
        congr 1
        · refine List.map_congr_left fun t ht => ?_
          exact hu.rewrite_rewrite wf hn hlt ht
        · have hkeep := replaced_of_not_mem hnot n
          simp [Forest.rewrite, hkeep, keep, Forest.blur]

/-- Every text is scanned without a fault, or the rule is given up. -/
theorem exists_findings_iff {options : Options} {passages : List (NodeId × Passage)} :
    (∃ fs, m.findings options passages = .ok fs) ↔
      ∀ q ∈ passages, ∃ found, m.scan q.2.before q.2.text q.2.after options = .ok found := by
  induction passages with
  | nil => exact ⟨fun _ => List.forall_mem_nil _, fun _ => ⟨[], rfl⟩⟩
  | cons q rest ih =>
      rw [List.forall_mem_cons, ← ih]
      constructor
      · rintro ⟨fs, h⟩
        obtain ⟨found, others, hs, hr, -⟩ := findings_cons h
        exact ⟨⟨found, hs⟩, others, hr⟩
      · rintro ⟨⟨found, hs⟩, others, hr⟩
        exact ⟨_, by rw [findings, hs, hr]; rfl⟩

end Matcher

/-! ### Nodes whose texts are attached together -/

namespace Document

variable {d d' : Document} {x : NodeId}

/-- The node is attached or a text. -/
def Steady (d : Document) (x : NodeId) : Prop :=
  d.attached x = true ∨ ∃ s, (x, .text s) ∈ d.nodes

/-- All texts at or below an attached node are attached. -/
theorem WellFormed.texts_attached (wf : d.WellFormed) (ha : d.attached x = true) (id : NodeId)
    (u : TextUnit) (hu : (id, u) ∈ d.units) (hid : id ∈ d.textIds x) :
    root ∈ u.above.map (·.id) := by
  rcases (wf.mem_textIds_iff hu).mp hid with rfl | hx
  · exact (wf.attached_iff_of_mem_units hu).mp ha
  · rw [← wf.above_of_mem_units hu] at hx ⊢
    rcases attached_iff_mem.mp ha with rfl | hroot
    · exact hx
    · exact wf.above_subset hx hroot

/-- All texts at or below such a node are attached, or none is. -/
theorem Steady.texts (wf : d.WellFormed) (h : d.Steady x) :
    (∀ id u, (id, u) ∈ d.units → id ∈ d.textIds x → root ∈ u.above.map (·.id)) ∨
      ∀ id u, (id, u) ∈ d.units → id ∈ d.textIds x → root ∉ u.above.map (·.id) := by
  by_cases ha : d.attached x = true
  · exact .inl (wf.texts_attached ha)
  · refine .inr fun id u hu hid hroot => ?_
    obtain ⟨s, hs⟩ := h.resolve_left ha
    rcases (wf.mem_textIds_iff hu).mp hid with rfl | hx
    · exact ha ((wf.attached_iff_of_mem_units hu).mpr hroot)
    · rw [← wf.above_of_mem_units hu, wf.mem_above_iff] at hx
      obtain ⟨t, a, c, helement, -⟩ := hx
      rw [wf.tree?_text_iff.mpr hs] at helement
      cases helement

theorem Steady.replaceText {id : NodeId} {fragments : List Fragment} {new : List NodeId}
    (wf : d.WellFormed) (h : d.replaceText id fragments = .ok (new, d')) (hx : d.Steady x) :
    d'.Steady x := by
  have hkept {s : String} (hs : (x, .text s) ∈ d.nodes) : d'.Steady x :=
    .inr ⟨s, (nodes_replaceText_perm wf h).mem_iff.mpr (List.mem_append_left _ hs)⟩
  have wf' := (Extends.replaceText wf h).wellFormed wf
  by_cases e : x = id
  · obtain ⟨p, s, hp, hnode, -⟩ := replaceText_cases h
    subst e
    exact hkept (wf.tree?_text_iff.mp ((tree?_of_place? hp).trans (by rw [hnode])))
  · rcases hx with ha | ⟨s, hs⟩
    · rcases attached_iff_mem.mp ha with hroot | hroot
      · exact .inl (attached_iff_mem.mpr (.inl hroot))
      · obtain ⟨s, hs⟩ := exists_spot (mem_ids_of_mem_above hroot)
        have habove := (wf.eq_of_mem_spots wf' hs (wf.mem_spots_replaceText h e hs)).1
        exact .inl (attached_iff_mem.mpr (.inr (habove ▸ hroot)))
    · exact hkept hs

end Document

/-- While a rule is applied, a node stays attached or a text. -/
theorem Matcher.steady_apply {d : Document} {x : NodeId} (m : Matcher) (wf : d.WellFormed)
    (y : NodeId) (options : Options) (r : Report) (hx : d.Steady x) :
    (m.apply y options (d, r)).1.Steady x := by
  have hfold (fs : List Finding) (d : Document) (wf : d.WellFormed) (r : Report)
      (hx : d.Steady x) : (fs.foldl m.replaceFound (d, r)).1.Steady x := by
    induction fs generalizing d r with
    | nil => exact hx
    | cons f fs ih =>
        refine ih _ (wellFormed_replaceFound wf m f) (m.replaceFound (d, r) f).2 ?_
        rcases m.replaceFound_cases d r f with ⟨new, d', hrep, hstate⟩ | ⟨e, -, hstate⟩
        · rw [hstate]
          exact hx.replaceText wf hrep
        · rw [hstate]
          exact hx
  unfold apply
  dsimp only
  cases m.findings options (d.passages y options) with
  | error fault => exact hx
  | ok fs => exact hfold fs d wf r hx

end TextMasking
