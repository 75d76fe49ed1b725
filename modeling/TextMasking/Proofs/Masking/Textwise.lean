import Mathlib.Data.List.Flatten
import TextMasking.Proofs.Masking.Replacing

/-! # Passes text by text

Turns make of each text what they make of it by itself, whatever becomes of the others, and what
they find is counted (`Tracks.takeAll`).  A document is followed by its trees with one number for
all new leaves (`Tracks`); they know nothing of the texts that were taken apart, to which no turn
does anything. -/

namespace TextMasking

/-- Every text is listed once. -/
theorem Document.WellFormed.units_nodup {d : Document} (wf : d.WellFormed) :
    (d.units.map Prod.fst).Nodup := by
  have hids : d.units.map Prod.fst = d.trees.flatMap Forest.textIds := by
    simp [Document.units_eq, List.map_flatMap]
  rw [hids]
  exact wf.ids_nodup.sublist (List.Sublist.flatMap_right _ fun t _ => t.textIds_sublist)

namespace Turn

variable {options : Options} {n : NodeId} {t : Turn} {ts : List Turn} {d : Document} {r : Report}
  {trees : List Forest} {i : NodeId} {u : TextUnit}

/-! ### What a turn finds -/

/-- Takes a turn. -/
def take (options : Options) (state : Document × Report) (t : Turn) : Document × Report :=
  t.matcher.apply t.scope options state

/-- Takes turns in order. -/
def takeAll (options : Options) (ts : List Turn) (state : Document × Report) : Document × Report :=
  ts.foldl (take options) state

/-- What is found in a text, if anything is. -/
def finding? (options : Options) (t : Turn) (p : NodeId × TextUnit) : Option Finding :=
  match t.scan options p.1 p.2 with
  | .ok (f :: found) => some ⟨p.1, p.2.passage.text, f :: found⟩
  | _ => none

theorem finding?_eq_some_iff {p : NodeId × TextUnit} {g : Finding} :
    t.finding? options p = some g ↔ g.id = p.1 ∧ g.text = p.2.passage.text ∧ g.found ≠ [] ∧
      t.scan options p.1 p.2 = .ok g.found := by
  obtain ⟨id, text, found⟩ := g
  rw [finding?]
  split
  · rename_i f rest h
    rw [h]
    simp only [Option.some.injEq, Finding.mk.injEq, Except.ok.injEq]
    constructor
    · rintro ⟨rfl, rfl, rfl⟩
      exact ⟨rfl, rfl, List.cons_ne_nil _ _, rfl⟩
    · rintro ⟨rfl, rfl, -, rfl⟩
      exact ⟨rfl, rfl, rfl⟩
  · rename_i hno
    simp only [reduceCtorEq, false_iff]
    rintro ⟨-, -, hne, h⟩
    cases found with
    | nil => exact hne rfl
    | cons f rest => exact hno f rest h

theorem scans_eq (h : ∃ found, t.scan options i u = .ok found) : t.scans options i u =
    ((t.finding? options (i, u)).map fun f => ⟨t.matcher.rule.pattern, .ok f.found⟩).toList := by
  obtain ⟨found, h⟩ := h
  rw [scans, finding?, h]
  cases found <;> rfl

/-- The turn reaches the texts that its matcher reads, if they are attached. -/
theorem scan_of_mem_units (t : Turn) (options : Options) (wf : d.WellFormed)
    (hu : (i, u) ∈ d.units) :
    t.scan options i u = .ok [] ∨ (i, u.passage) ∈ d.passages t.scope options ∧
      t.scan options i u =
        t.matcher.scan u.passage.before u.passage.text u.passage.after options := by
  rw [scan]
  split_ifs with hr
  · cases hp : u.passage? options with
    | none => exact .inl rfl
    | some p =>
        have e := TextUnit.eq_of_passage? hp
        rw [← e] at hp ⊢
        exact .inr ⟨wf.mem_passages_iff.mpr ⟨u, hu, (wf.mem_textIds_iff hu).mpr hr.2, hp⟩, rfl⟩
  · exact .inl rfl

theorem scan_of_mem_passages (wf : d.WellFormed)
    (ha : ∀ id u, (id, u) ∈ d.units → id ∈ d.textIds t.scope → Document.root ∈ u.above.map (·.id))
    {p : Passage} (hp : (i, p) ∈ d.passages t.scope options) :
    ∃ u, (i, u) ∈ d.units ∧ t.Reaches i u ∧ u.passage = p ∧
      t.scan options i u = t.matcher.scan p.before p.text p.after options := by
  obtain ⟨u, hu, hid, hup⟩ := wf.mem_passages_iff.mp hp
  have hr : t.Reaches i u := ⟨ha i u hu hid, (wf.mem_textIds_iff hu).mp hid⟩
  exact ⟨u, hu, hr, TextUnit.eq_of_passage? hup, by rw [scan, if_pos hr, hup]⟩

/-- What the matcher finds is what the turn finds in each text. -/
theorem findings_perm (wf : d.WellFormed)
    (ha : ∀ id u, (id, u) ∈ d.units → id ∈ d.textIds t.scope → Document.root ∈ u.above.map (·.id))
    {fs : List Finding} (h : t.matcher.findings options (d.passages t.scope options) = .ok fs) :
    fs.Perm (d.units.filterMap (t.finding? options)) := by
  have hfound {g : Finding} (hg : g ∈ fs) :
      ∃ u, (g.id, u) ∈ d.units ∧ t.finding? options (g.id, u) = some g := by
    obtain ⟨p, hp, hgp⟩ := Matcher.exists_passage_of_findings h hg
    obtain ⟨u, hu, -, rfl, hscan⟩ := scan_of_mem_passages wf ha hp
    exact ⟨u, hu, finding?_eq_some_iff.mpr
      ⟨rfl, hgp.text_eq, hgp.found_ne_nil, hscan.trans hgp.scan_eq⟩⟩
  have hnodup : (fs.map (·.id)).Nodup :=
    (Matcher.passages_nodup wf).sublist (Matcher.findings_sublist h)
  have hunits : (d.units.filterMap (t.finding? options)).Nodup := by
    refine List.Pairwise.filterMap _ ?_ (List.pairwise_map.mp wf.units_nodup)
    intro p q hne g hg g' hg' e
    rw [← (finding?_eq_some_iff.mp hg).1, ← (finding?_eq_some_iff.mp hg').1, e] at hne
    exact hne rfl
  refine (List.perm_ext_iff_of_nodup hnodup.of_map hunits).mpr fun g => ?_
  rw [List.mem_filterMap]
  constructor
  · intro hg
    obtain ⟨u, hu, hsome⟩ := hfound hg
    exact ⟨_, hu, hsome⟩
  · rintro ⟨⟨i, u⟩, hu, hsome⟩
    obtain ⟨hid, -, hne, hscan⟩ := finding?_eq_some_iff.mp hsome
    rcases scan_of_mem_units t options wf hu with hnil | ⟨hp, hpass⟩
    · exact absurd (Except.ok.inj (hnil.symm.trans hscan)).symm hne
    · rcases Matcher.scan_of_findings h hp with hmem | hnil
      · obtain ⟨g', hg', rfl⟩ := List.mem_map.mp hmem
        obtain ⟨u', hu', hsome'⟩ := hfound hg'
        rw [wf.unit_unique hu' hu, hsome] at hsome'
        exact Option.some.inj hsome' ▸ hg'
      · exact absurd (Except.ok.inj (hnil.symm.trans (hpass.symm.trans hscan))).symm hne

/-- Where the texts are those of a document, replacing the findings is what the turn does. -/
theorem replaced_eq_cut (wf : d.WellFormed) {fs : List Finding}
    (h : fs.Perm (d.units.filterMap (t.finding? options))) {p : NodeId × TextUnit}
    (hp : p ∈ d.units) (hscan : ∃ found, t.scan options p.1 p.2 = .ok found) :
    Matcher.replaced n fs p.1 p.2 = t.cut options n p.1 p.2 := by
  have hfound (f : Finding) : f ∈ fs ↔ ∃ q ∈ d.units, t.finding? options q = some f := by
    rw [h.mem_iff, List.mem_filterMap]
  obtain ⟨found, hscan⟩ := hscan
  rw [Matcher.replaced]
  cases hf : fs.find? (·.id = p.1) with
  | some f =>
      have hid : f.id = p.1 := by simpa using List.find?_some hf
      obtain ⟨⟨i, v⟩, hq, hsome⟩ := (hfound f).mp (List.mem_of_find?_eq_some hf)
      obtain ⟨hi, htext, hne, hscan⟩ := finding?_eq_some_iff.mp hsome
      obtain rfl : i = p.1 := hi.symm.trans hid
      obtain rfl := wf.unit_unique hq hp
      obtain ⟨g, rest, hrest⟩ := List.exists_cons_of_ne_nil hne
      rw [cut, hscan, hrest]
      dsimp only
      rw [htext, hrest]
  | none =>
      cases found with
      | nil => exact (cut_of_idle hscan).symm
      | cons g rest =>
          have hmem := (hfound ⟨p.1, p.2.passage.text, g :: rest⟩).mpr
            ⟨p, hp, finding?_eq_some_iff.mpr ⟨rfl, rfl, List.cons_ne_nil _ _, hscan⟩⟩
          have hno := List.find?_eq_none.mp hf _ hmem
          simp at hno

theorem flatMap_scans {ps : List (NodeId × TextUnit)}
    (h : ∀ p ∈ ps, ∃ found, t.scan options p.1 p.2 = .ok found) :
    (ps.flatMap fun p => t.scans options p.1 p.2) =
      (ps.filterMap (t.finding? options)).map fun f => ⟨t.matcher.rule.pattern, .ok f.found⟩ := by
  rw [List.map_filterMap, List.filterMap_eq_flatMap_toList]
  exact List.flatMap_congr fun p hp => scans_eq (h p hp)

/-! ### Trees that follow a document -/

theorem scan_of_loose (h : u.above = []) : t.scan options i u = .ok [] := by
  refine scan_of_not_reaches fun hr => ?_
  have hroot := hr.1
  rw [h] at hroot
  cases hroot

/-- The number of a new leaf does not matter. -/
theorem scan_min (h : t.scope < n) : t.scan options (min i n) u = t.scan options i u := by
  have hscope : min i n = t.scope ↔ i = t.scope := by grind
  have hreach : t.Reaches (min i n) u ↔ t.Reaches i u := by simp only [Reaches, hscope]
  simp only [scan, hreach]

theorem blur_cut (h : t.scope < n) :
    (t.cut options n i u).blur n = t.cut options n (min i n) u := by
  rw [cut, cut, scan_min h]
  split
  · exact Fragment.blur_leaves n _
  · rfl

end Turn

/-- The trees are those of the document, with the number `n` for all new leaves, besides texts
without a parent. -/
structure Tracks (n : NodeId) (trees : List Forest) (d : Document) : Prop where
  wellFormed : d.WellFormed
  pos : 0 < n
  fresh_le : n ≤ d.fresh
  trees_eq : ∃ loose, (∀ t ∈ loose, Forest.Loose t) ∧ d.trees.map (Forest.blur n) = trees ++ loose

namespace Tracks

variable {options : Options} {n : NodeId} {t : Turn} {ts : List Turn} {d : Document} {r : Report}
  {trees loose : List Forest}

/-- A document is followed by its own trees. -/
theorem self (wf : d.WellFormed) : Tracks d.fresh d.trees d where
  wellFormed := wf
  pos := by
    obtain ⟨tag, hroot⟩ := wf.root_mem
    exact Nat.zero_lt_of_lt (wf.mem_ids_iff.mp (Document.mem_ids_of_mem_nodes hroot))
  fresh_le := Nat.le_refl _
  trees_eq := by
    refine ⟨[], List.forall_mem_nil _, ?_⟩
    rw [List.append_nil]
    conv_rhs => rw [← List.map_id d.trees]
    refine List.map_congr_left fun t ht => Forest.blur_of_lt fun i hi => ?_
    exact wf.mem_ids_iff.mp (List.mem_flatMap.mpr ⟨t, ht, hi⟩)

/-- A turn finds in the trees what it finds in the texts of the document. -/
theorem scansIn_eq (h : Tracks n trees d) (hscope : t.scope < n) :
    t.scansIn options trees = d.units.flatMap fun p => t.scans options p.1 p.2 := by
  obtain ⟨loose, hloose, htrees⟩ := h.trees_eq
  have hnone : t.scansIn options loose = [] := by
    rw [Turn.scansIn, List.flatMap_eq_nil_iff]
    intro f hf
    obtain ⟨i, s, -, rfl⟩ := hloose f hf
    simp [Forest.textsIn, Turn.scans_of_idle (Turn.scan_of_loose (u := ⟨[], _⟩) rfl)]
  calc t.scansIn options trees = t.scansIn options (trees ++ loose) := by
        rw [Turn.scansIn, Turn.scansIn, List.flatMap_append, ← Turn.scansIn, ← Turn.scansIn, hnone,
          List.append_nil]
    _ = d.units.flatMap fun p => t.scans options p.1 p.2 := by
        rw [← htrees, Turn.scansIn, List.flatMap_map, Document.units_eq, List.flatMap_assoc]
        refine List.flatMap_congr fun f _ => ?_
        rw [Forest.textsIn_blur, List.flatMap_map]
        refine List.flatMap_congr fun p _ => ?_
        rw [Turn.scans, Turn.scans, Turn.scan_min hscope]

/-- A document in which each text gives way to what a turn makes of it has the trees that the turn
makes of the trees. -/
theorem map_rewrite (t : Turn) (options : Options) (hloose : ∀ f ∈ loose, Forest.Loose f)
    (htrees : d.trees.map (Forest.blur n) = trees ++ loose) {y : NodeId → TextUnit → Forest}
    (hy : ∀ p ∈ d.units, (y p.1 p.2).blur n = t.cut options n (min p.1 n) p.2) :
    (d.trees.map fun f => (f.rewrite y [] "" "").blur n) = t.cutAll options n trees ++ loose := by
  have hkeep : loose.map (fun f => f.rewrite (t.cut options n) [] "" "") = loose := by
    conv_rhs => rw [← List.map_id loose]
    refine List.map_congr_left fun f hf => ?_
    obtain ⟨i, s, -, rfl⟩ := hloose f hf
    simp [Forest.rewrite, Turn.cut_of_idle (Turn.scan_of_loose (u := ⟨[], _⟩) rfl),
      Forest.keep]
  calc (d.trees.map fun f => (f.rewrite y [] "" "").blur n)
      = (d.trees.map (Forest.blur n)).map fun f => f.rewrite (t.cut options n) [] "" "" := by
        rw [List.map_map]
        exact List.map_congr_left fun f hf => Forest.blur_rewrite fun p hp =>
          hy p (Document.mem_units_of_mem_textsIn hf hp)
    _ = t.cutAll options n trees ++ loose := by
        rw [htrees, List.map_append, hkeep, Turn.cutAll]

/-- A turn over a node whose texts are attached. -/
theorem take_of_attached (h : Tracks n trees d) (hscope : t.scope < n)
    (ha : ∀ id u, (id, u) ∈ d.units → id ∈ d.textIds t.scope → Document.root ∈ u.above.map (·.id))
    (hscan : ∀ p ∈ d.units, ∃ found, t.scan options p.1 p.2 = .ok found) :
    Tracks n (t.cutAll options n trees) (t.take options (d, r)).1 ∧
      Counts (d.units.flatMap fun p => t.scans options p.1 p.2) r (t.take options (d, r)).2 := by
  have wf := h.wellFormed
  obtain ⟨loose, hloose, htrees⟩ := h.trees_eq
  obtain ⟨fs, hfs⟩ : ∃ fs, t.matcher.findings options (d.passages t.scope options) = .ok fs := by
    refine Matcher.exists_findings_iff.mpr fun q hq => ?_
    obtain ⟨u, hu, -, -, he⟩ := Turn.scan_of_mem_passages wf ha hq
    exact he ▸ hscan _ hu
  have hperm := Turn.findings_perm wf ha hfs
  have hnodup := (Matcher.passages_nodup wf).sublist (Matcher.findings_sublist hfs)
  have hstands : ∀ f ∈ fs, ∃ u, Matcher.Stands d f u := by
    intro f hf
    obtain ⟨p, hp, hfp⟩ := Matcher.exists_passage_of_findings hfs hf
    obtain ⟨u, hu, hr, rfl, -⟩ := Turn.scan_of_mem_passages wf ha hp
    exact ⟨u, hu, hr.1, hfp.join_unmasked⟩
  obtain ⟨wf', hn, hcounts, loose', hloose', htrees'⟩ :=
    Matcher.foldl_replaceFound_trees (m := t.matcher) (r := r) wf h.pos h.fresh_le hnodup hstands
  rw [Turn.take, Matcher.apply]
  dsimp only
  rw [hfs]
  refine ⟨⟨wf', h.pos, hn, loose ++ loose', ?_, ?_⟩, hcounts.perm ?_⟩
  · exact List.forall_mem_append.mpr ⟨hloose, hloose'⟩
  · rw [htrees', ← List.append_assoc]
    congr 1
    refine map_rewrite t options hloose htrees fun p hp => ?_
    rw [Turn.replaced_eq_cut wf hperm hp (hscan p hp), Turn.blur_cut hscope]
  · rw [Turn.flatMap_scans hscan]
    exact hperm.map _

/-- A turn over a node none of whose texts is attached does nothing. -/
theorem take_of_not_attached (h : Tracks n trees d) (hscope : t.scope < n)
    (hno : ∀ id u, (id, u) ∈ d.units → id ∈ d.textIds t.scope →
      Document.root ∉ u.above.map (·.id)) :
    Tracks n (t.cutAll options n trees) (t.take options (d, r)).1 ∧
      Counts (d.units.flatMap fun p => t.scans options p.1 p.2) r (t.take options (d, r)).2 := by
  have wf := h.wellFormed
  obtain ⟨loose, hloose, htrees⟩ := h.trees_eq
  have hidle : ∀ p ∈ d.units, t.scan options p.1 p.2 = .ok [] := fun p hp =>
    Turn.scan_of_not_reaches fun hr => hno p.1 p.2 hp ((wf.mem_textIds_iff hp).mpr hr.2) hr.1
  have hsettled : d.Settled t.scope options t.matcher := by
    intro id p hp ha
    obtain ⟨u, hu, hid, -⟩ := wf.mem_passages_iff.mp hp
    exact absurd ((wf.attached_iff_of_mem_units hu).mp ha) (hno id u hu hid)
  have hnone : (d.units.flatMap fun p => t.scans options p.1 p.2) = [] :=
    List.flatMap_eq_nil_iff.mpr fun p hp => Turn.scans_of_idle (hidle p hp)
  have hcut : t.cutAll options n trees = trees := by
    have hsame := map_rewrite t options hloose htrees (y := Forest.keep)
      fun p hp => by rw [← Turn.blur_cut hscope, Turn.cut_of_idle (hidle p hp)]
    simp only [Forest.rewrite_keep] at hsame
    exact List.append_cancel_right (hsame.symm.trans htrees)
  obtain ⟨hd, hmasks, hsummary⟩ := Matcher.apply_of_settled (r := r) hsettled
  rw [hcut, hnone, Turn.take, hd]
  exact ⟨h, .of_eq hmasks hsummary⟩

/-- **One turn:** the trees after it follow the document after it, and what it finds in the trees is
counted. -/
theorem take (h : Tracks n trees d) (hscope : t.scope < n) (hs : d.Steady t.scope)
    (hclean : Turn.Clean (t.scansIn options trees)) :
    Tracks n (t.cutAll options n trees) (t.take options (d, r)).1 ∧
      Counts (t.scansIn options trees) r (t.take options (d, r)).2 := by
  rw [h.scansIn_eq hscope] at hclean ⊢
  rcases hs.texts h.wellFormed with ha | hno
  · refine h.take_of_attached hscope ha fun p hp => ?_
    exact Turn.clean_scans_iff.mp fun s hs => hclean s (List.mem_flatMap.mpr ⟨p, hp, hs⟩)
  · exact h.take_of_not_attached hscope hno

/-- A turn in which the matcher is not given up finds no fault in the trees. -/
theorem clean_of_take (h : Tracks n trees d) (hscope : t.scope < n)
    (hskip : (t.take options (d, r)).2.scanSkips = r.scanSkips) :
    Turn.Clean (t.scansIn options trees) := by
  have wf := h.wellFormed
  have hfindings : ∃ fs, t.matcher.findings options (d.passages t.scope options) = .ok fs := by
    rw [Turn.take, Matcher.apply] at hskip
    dsimp only at hskip
    cases hfs : t.matcher.findings options (d.passages t.scope options) with
    | ok fs => exact ⟨fs, rfl⟩
    | error fault =>
        rw [hfs] at hskip
        simp at hskip
  rw [h.scansIn_eq hscope]
  intro s hs
  obtain ⟨⟨i, u⟩, hp, hs⟩ := List.mem_flatMap.mp hs
  refine Turn.clean_scans_iff.mpr ?_ s hs
  rcases Turn.scan_of_mem_units t options wf hp with hnil | ⟨hpass, he⟩
  · exact ⟨[], hnil⟩
  · obtain ⟨found, hfound⟩ := Matcher.exists_findings_iff.mp hfindings _ hpass
    exact ⟨found, he.trans hfound⟩

/-! ### Turns in order -/

theorem steady_take {x : NodeId} (t : Turn) (options : Options) (r : Report) (wf : d.WellFormed)
    (hx : d.Steady x) : (t.take options (d, r)).1.Steady x :=
  t.matcher.steady_apply wf t.scope options r hx

/-- **Turns in order:** the trees after them follow the document after them, and what they find is
counted. -/
theorem takeAll (h : Tracks n trees d) (hts : ∀ t ∈ ts, t.scope < n ∧ d.Steady t.scope)
    (hclean : Turn.Clean (Turn.scansOf options n ts trees)) :
    Tracks n (Turn.afterAll options n ts trees) (Turn.takeAll options ts (d, r)).1 ∧
      Counts (Turn.scansOf options n ts trees) r (Turn.takeAll options ts (d, r)).2 := by
  induction ts generalizing d r trees with
  | nil =>
      rw [Turn.afterAll_nil, Turn.scansOf_nil]
      exact ⟨h, .of_eq rfl rfl⟩
  | cons t ts ih =>
      obtain ⟨⟨hscope, hs⟩, hts⟩ := List.forall_mem_cons.mp hts
      have hperm : (Turn.scansOf options n (t :: ts) trees).Perm _ := Turn.scansOf_cons
      obtain ⟨hfirst, hrest⟩ : Turn.Clean (t.scansIn options trees) ∧
          Turn.Clean (Turn.scansOf options n ts (t.cutAll options n trees)) :=
        List.forall_mem_append.mp fun s hs => hclean s (hperm.mem_iff.mpr hs)
      obtain ⟨htracks, hcounts⟩ := h.take (r := r) hscope hs hfirst
      obtain ⟨htracks', hcounts'⟩ := ih (r := (t.take options (d, r)).2) htracks
        (fun t' ht' => ⟨(hts t' ht').1, steady_take t options r h.wellFormed (hts t' ht').2⟩) hrest
      rw [Turn.afterAll_cons]
      exact ⟨htracks', (hcounts.trans hcounts').perm hperm.symm⟩

end Tracks

namespace Turn

variable {options : Options} {n : NodeId} {ts : List Turn} {d : Document} {r : Report}
  {trees : List Forest}

theorem scanSkips_prefix_takeAll (options : Options) (ts : List Turn) (d : Document) (r : Report) :
    r.scanSkips <+: (takeAll options ts (d, r)).2.scanSkips := by
  induction ts generalizing d r with
  | nil => exact List.prefix_rfl
  | cons t ts ih =>
      refine List.IsPrefix.trans ?_ (ih (t.take options (d, r)).1 (t.take options (d, r)).2)
      rw [take, Matcher.apply]
      dsimp only
      cases t.matcher.findings options (d.passages t.scope options) with
      | error fault => exact List.prefix_append _ _
      | ok fs => exact (t.matcher.skips_foldl_replaceFound fs d r).2 ▸ List.prefix_rfl

/-- Turns in which no matcher is given up find no fault in the trees. -/
theorem clean_of_takeAll (h : Tracks n trees d) (hts : ∀ t ∈ ts, t.scope < n ∧ d.Steady t.scope)
    (hskip : (takeAll options ts (d, r)).2.scanSkips = r.scanSkips) :
    Clean (scansOf options n ts trees) := by
  induction ts generalizing d r trees with
  | nil =>
      rw [scansOf_nil]
      exact List.forall_mem_nil _
  | cons t ts ih =>
      obtain ⟨⟨hscope, hs⟩, hts⟩ := List.forall_mem_cons.mp hts
      have hone : r.scanSkips <+: (t.take options (d, r)).2.scanSkips :=
        scanSkips_prefix_takeAll options [t] d r
      have hall : (t.take options (d, r)).2.scanSkips <+:
          (takeAll options (t :: ts) (d, r)).2.scanSkips :=
        scanSkips_prefix_takeAll options ts _ _
      have hfirst : (t.take options (d, r)).2.scanSkips = r.scanSkips :=
        (hone.eq_of_length_le (hskip ▸ hall.length_le)).symm
      have hclean := h.clean_of_take hscope hfirst
      obtain ⟨htracks, -⟩ := h.take (r := r) hscope hs hclean
      have hrest := ih (r := (t.take options (d, r)).2) htracks
        (fun t' ht' => ⟨(hts t' ht').1, Tracks.steady_take t options r h.wellFormed (hts t' ht').2⟩)
        (hskip.trans hfirst.symm)
      have hperm : (scansOf options n (t :: ts) trees).Perm _ := scansOf_cons
      intro s hs
      exact List.forall_mem_append.mpr ⟨hclean, hrest⟩ s (hperm.mem_iff.mp hs)

end Turn

end TextMasking
