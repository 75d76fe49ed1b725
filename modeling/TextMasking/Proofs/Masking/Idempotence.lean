import TextMasking.Proofs.Document.History
import TextMasking.Proofs.Masking.Leftover
import TextMasking.Proofs.Masking.Pass

/-! # A second pass finds nothing

A rule that is not given up leaves nothing to be found for its matcher in the attached texts that it
reads (`Document.Settled`), and the rules after it only take these texts apart further.  So after a
pass in which no rule was given up nothing is left for any of its matchers, and where nothing is
left a pass changes nothing: a second pass does nothing. -/

namespace TextMasking

namespace Document

/-- The matcher has nothing left to find in the attached texts at or below a node that passes
read. -/
def Settled (d : Document) (x : NodeId) (options : Options) (m : Matcher) : Prop :=
  ∀ id p, (id, p) ∈ d.passages x options → d.attached id = true → m.Settled p.scanText

/-- A text that is attached is replaced. -/
theorem exists_replaceText {d : Document} (wf : d.WellFormed) {id : NodeId} {u : TextUnit}
    (hu : (id, u) ∈ d.units) (ha : d.attached id = true) (fragments : List Fragment) :
    ∃ new d', d.replaceText id fragments = .ok (new, d') := by
  have hroot := (wf.attached_iff_of_mem_units hu).mp ha
  obtain ⟨p, s, hp, hnode, rfl⟩ := wf.exists_place_of_mem_units hu
  have habove : p.above ≠ [] := by
    intro e
    rw [Forest.Place.toUnit, e] at hroot
    cases hroot
  rw [replaceText, hp]
  simp [hnode, habove, ha]

theorem not_attached_of_replaceText {d : Document} {id : NodeId} {fragments : List Fragment}
    {e : TreeError} (wf : d.WellFormed) {u : TextUnit} (hu : (id, u) ∈ d.units)
    (h : d.replaceText id fragments = .error e) : d.attached id = false := by
  rw [Bool.eq_false_iff]
  intro ha
  obtain ⟨new, d', hd'⟩ := exists_replaceText wf hu ha fragments
  rw [hd'] at h
  cases h

end Document

namespace Matcher

variable {m : Matcher} {x : NodeId} {options : Options} {d d' : Document} {f : Finding}

/-- A finding is that of a text that the pass reads. -/
def Found (m : Matcher) (x : NodeId) (options : Options) (d : Document) (f : Finding) : Prop :=
  ∃ p, (f.id, p) ∈ d.passages x options ∧ m.FindsIn options p f

/-- The attached texts that a pass reads after one was replaced: the others, and what is left of
it. -/
theorem passages_of_replaceText {new : List NodeId} {p : Passage} (wf : d.WellFormed)
    (hp : (f.id, p) ∈ d.passages x options) (hf : m.FindsIn options p f)
    (h : d.replaceText f.id (Fragment.ofMatches f.text f.found) = .ok (new, d')) {i : NodeId}
    {q : Passage} (hq : (i, q) ∈ d'.passages x options) (ha : d'.attached i = true) :
    i ≠ f.id ∧ (i, q) ∈ d.passages x options ∧ d.attached i = true ∨
      ∃ above v, (i, v) ∈ Fragment.units above p.before p.after d.fresh
        (Fragment.ofMatches p.text f.found) ∧ v.passage = q := by
  have wf' := (Document.Extends.replaceText wf h).wellFormed wf
  obtain ⟨u, hu, hid, hup⟩ := wf.mem_passages_iff.mp hp
  obtain ⟨v, hv, hi, hvq⟩ := wf'.mem_passages_iff.mp hq
  have hread : String.join ((Fragment.ofMatches f.text f.found).map Fragment.unmasked) =
      u.passage.text := by
    rw [TextUnit.eq_of_passage? hup, hf.join_unmasked]
  have hroot := (wf'.attached_iff_of_mem_units hv).mp ha
  rcases Document.mem_units_replaceText wf h hu hread hv with ⟨-, habove⟩ | ⟨hne, hvd⟩ | hvd
  · rw [habove] at hroot
    cases hroot
  · refine .inl ⟨hne, wf.mem_passages_iff.mpr ⟨v, hvd, ?_, hvq⟩,
      (wf.attached_iff_of_mem_units hvd).mpr hroot⟩
    rw [wf.mem_textIds_iff hvd, ← wf'.mem_textIds_iff hv]
    exact hi
  · rw [TextUnit.eq_of_passage? hup, hf.text_eq] at hvd
    exact .inr ⟨u.above, v, hvd, TextUnit.eq_of_passage? hvq⟩

/-- A matcher with nothing left to find has nothing left to find after a text was replaced. -/
theorem settled_replaceText {m' : Matcher} {new : List NodeId} (wf : d.WellFormed)
    (hf : m.Found x options d f)
    (h : d.replaceText f.id (Fragment.ofMatches f.text f.found) = .ok (new, d'))
    (hs : d.Settled x options m') : d'.Settled x options m' := by
  intro i q hq ha
  obtain ⟨p, hp, hfp⟩ := hf
  rcases passages_of_replaceText wf hp hfp h hq ha with ⟨-, hq, ha⟩ | ⟨above, v, hv, rfl⟩
  · exact hs i q hq ha
  · obtain ⟨_, _, -, -, -, hatt, -, -⟩ := Document.replaceText_cases h
    exact (hs f.id p hp hatt).of_mem_units hfp.scan_eq hv

/-- What was found in another text still holds after a text was replaced. -/
theorem found_replaceText {g : Finding} {new : List NodeId} (wf : d.WellFormed)
    (hf : m.Found x options d f)
    (h : d.replaceText f.id (Fragment.ofMatches f.text f.found) = .ok (new, d'))
    (hg : m.Found x options d g) (hne : g.id ≠ f.id) : m.Found x options d' g := by
  have wf' := (Document.Extends.replaceText wf h).wellFormed wf
  obtain ⟨p, hp, hfp⟩ := hf
  obtain ⟨q, hq, hgq⟩ := hg
  obtain ⟨u, hu, -, hup⟩ := wf.mem_passages_iff.mp hp
  obtain ⟨v, hv, hid, hvq⟩ := wf.mem_passages_iff.mp hq
  have hread : String.join ((Fragment.ofMatches f.text f.found).map Fragment.unmasked) =
      u.passage.text := by
    rw [TextUnit.eq_of_passage? hup, hfp.join_unmasked]
  have hv' := Document.mem_units_of_replaceText wf h hu hread hv hne
  refine ⟨q, wf'.mem_passages_iff.mpr ⟨v, hv', ?_, hvq⟩, hgq⟩
  rw [wf'.mem_textIds_iff hv', ← wf.mem_textIds_iff hv]
  exact hid

/-- While a matcher replaces what it has found, the findings to come are still there, and nothing is
left to find in the other texts. -/
structure Pending (m : Matcher) (x : NodeId) (options : Options) (d : Document)
    (fs : List Finding) : Prop where
  nodup : (fs.map (·.id)).Nodup
  found : ∀ f ∈ fs, m.Found x options d f
  settled : ∀ i q, (i, q) ∈ d.passages x options → d.attached i = true →
    i ∈ fs.map (·.id) ∨ m.Settled q.scanText

theorem Found.exists_unit (wf : d.WellFormed) (h : m.Found x options d f) :
    ∃ u, (f.id, u) ∈ d.units := by
  obtain ⟨p, hp, -⟩ := h
  obtain ⟨u, hu, -⟩ := wf.mem_passages_iff.mp hp
  exact ⟨u, hu⟩

/-- **One finding is replaced:** nothing is left to find in what is left of its text. -/
theorem Pending.replaceFound (hm : m.Anchored) {fs : List Finding} {r : Report}
    (wf : d.WellFormed) (h : m.Pending x options d (f :: fs)) :
    m.Pending x options (m.replaceFound (d, r) f).1 fs := by
  have hf := h.found f List.mem_cons_self
  obtain ⟨hnot, hnodup⟩ := List.nodup_cons.mp h.nodup
  rcases m.replaceFound_cases d r f with ⟨new, d', hrep, hstate⟩ | ⟨e, hrep, hstate⟩
  · rw [hstate]
    refine ⟨hnodup, ?_, ?_⟩
    · intro g hg
      refine found_replaceText wf hf hrep (h.found g (List.mem_cons_of_mem _ hg)) ?_
      intro e
      exact hnot (List.mem_map.mpr ⟨g, hg, e⟩)
    · intro i q hq ha
      obtain ⟨p, hp, hfp⟩ := hf
      rcases passages_of_replaceText wf hp hfp hrep hq ha with ⟨hne, hq, ha⟩ | ⟨above, v, hv, rfl⟩
      · exact (h.settled i q hq ha).imp_left fun hi => (List.mem_cons.mp hi).resolve_left hne
      · exact .inr (settled_of_mem_units hm hfp.scan_eq hv)
  · rw [hstate]
    refine ⟨hnodup, fun g hg => h.found g (List.mem_cons_of_mem _ hg), ?_⟩
    intro i q hq ha
    obtain ⟨u, hu⟩ := hf.exists_unit wf
    have hno := Document.not_attached_of_replaceText wf hu hrep
    rcases h.settled i q hq ha with hi | hs
    · rcases List.mem_cons.mp hi with rfl | hi
      · rw [hno] at ha
        cases ha
      · exact .inl hi
    · exact .inr hs

/-- Other matchers keep having nothing left to find. -/
theorem settled_replaceFound {m' : Matcher} {r : Report} (wf : d.WellFormed)
    (hf : m.Found x options d f) (hs : d.Settled x options m') :
    (m.replaceFound (d, r) f).1.Settled x options m' := by
  rcases m.replaceFound_cases d r f with ⟨new, d', hrep, hstate⟩ | ⟨e, -, hstate⟩
  · rw [hstate]
    exact settled_replaceText wf hf hrep hs
  · rw [hstate]
    exact hs

theorem wellFormed_replaceFound {r : Report} (wf : d.WellFormed) (m : Matcher) (f : Finding) :
    (m.replaceFound (d, r) f).1.WellFormed := by
  rcases m.replaceFound_cases d r f with ⟨new, d', hrep, hstate⟩ | ⟨e, -, hstate⟩
  · rw [hstate]
    exact (Document.Extends.replaceText wf hrep).wellFormed wf
  · rw [hstate]
    exact wf

/-- **All findings are replaced:** the matcher has nothing left to find, like those before it. -/
theorem Pending.foldl_replaceFound (hm : m.Anchored) {done : List Matcher} {fs : List Finding}
    {r : Report} (wf : d.WellFormed) (h : m.Pending x options d fs)
    (hs : ∀ m' ∈ done, d.Settled x options m') :
    (fs.foldl m.replaceFound (d, r)).1.WellFormed ∧
      ∀ m' ∈ m :: done, (fs.foldl m.replaceFound (d, r)).1.Settled x options m' := by
  induction fs generalizing d r with
  | nil =>
      refine ⟨wf, List.forall_mem_cons.mpr ⟨?_, hs⟩⟩
      intro i q hq ha
      exact (h.settled i q hq ha).resolve_left List.not_mem_nil
  | cons f fs ih =>
      have hf := h.found f List.mem_cons_self
      exact ih (r := (m.replaceFound (d, r) f).2) (wellFormed_replaceFound wf m f)
        (h.replaceFound hm wf) fun m' hm' => settled_replaceFound wf hf (hs m' hm')

/-! ### Rules -/

/-- Every passage is scanned; if nothing is found in it, there is no finding. -/
theorem scan_of_findings {passages : List (NodeId × Passage)} {fs : List Finding}
    (h : m.findings options passages = .ok fs) {i : NodeId} {p : Passage}
    (hp : (i, p) ∈ passages) :
    i ∈ fs.map (·.id) ∨ m.scan p.before p.text p.after options = .ok [] := by
  induction passages generalizing fs with
  | nil => cases hp
  | cons q rest ih =>
      obtain ⟨id, q⟩ := q
      obtain ⟨found, others, hs, hr, hfs⟩ := findings_cons h
      rcases List.mem_cons.mp hp with e | hp
      · cases e
        rcases hfs with ⟨rfl, -⟩ | ⟨-, rfl⟩
        · exact .inr hs
        · exact .inl List.mem_cons_self
      · refine (ih hr hp).imp_left fun hi => ?_
        rcases hfs with ⟨-, rfl⟩ | ⟨-, rfl⟩
        · exact hi
        · exact List.mem_cons_of_mem _ hi

theorem findings_sublist {passages : List (NodeId × Passage)} {fs : List Finding}
    (h : m.findings options passages = .ok fs) :
    (fs.map (·.id)).Sublist (passages.map (·.1)) := by
  induction passages generalizing fs with
  | nil =>
      cases h
      exact .refl _
  | cons q rest ih =>
      obtain ⟨id, q⟩ := q
      obtain ⟨found, others, hs, hr, hfs⟩ := findings_cons h
      rcases hfs with ⟨-, rfl⟩ | ⟨-, rfl⟩
      · exact (ih hr).cons id
      · exact (ih hr).cons_cons id

theorem passages_nodup (wf : d.WellFormed) :
    ((d.passages x options).map (·.1)).Nodup := by
  have hsub (ids : List NodeId) : ((ids.filterMap fun id =>
      ((d.place? id).bind (·.passage? options)).map fun p => (id, p)).map (·.1)).Sublist ids := by
    induction ids with
    | nil => exact .refl _
    | cons id ids ih =>
        rw [List.filterMap_cons]
        split
        · exact ih.cons id
        · rename_i q hq
          obtain ⟨p, -, rfl⟩ := Option.map_eq_some_iff.mp hq
          exact ih.cons_cons id
  have htexts : (d.textIds x).Nodup := by
    unfold Document.textIds
    cases hx : d.tree? x with
    | none => exact List.nodup_nil
    | some n => exact (wf.nodup_of_tree? hx).sublist n.textIds_sublist
  exact htexts.sublist (hsub _)

/-- What is found is pending. -/
theorem pending_of_findings (hm : m.Anchored) {fs : List Finding} (wf : d.WellFormed)
    (h : m.findings options (d.passages x options) = .ok fs) : m.Pending x options d fs where
  nodup := (passages_nodup wf).sublist (findings_sublist h)
  found := fun _ hf => exists_passage_of_findings h hf
  settled := fun _ _ hq _ => (scan_of_findings h hq).imp_right (settled_of_scan_nil hm)

/-- **A rule leaves nothing to be found for its matcher, or it is given up,** and nothing is left
to be found where nothing was left before. -/
theorem apply_settles (x : NodeId) (options : Options) (r : Report) (hm : m.Anchored)
    (wf : d.WellFormed) :
    (m.apply x options (d, r)).1.WellFormed ∧
      (∀ m', d.Settled x options m' → (m.apply x options (d, r)).1.Settled x options m') ∧
      ((m.apply x options (d, r)).1.Settled x options m ∧
          (m.apply x options (d, r)).2.scanSkips = r.scanSkips ∨
        (m.apply x options (d, r)).1 = d ∧
          ∃ skip, (m.apply x options (d, r)).2.scanSkips = r.scanSkips ++ [skip] ∧
            skip.pattern = m.rule.pattern) := by
  unfold apply
  dsimp only
  cases hfs : m.findings options (d.passages x options) with
  | error fault => exact ⟨wf, fun _ => id, .inr ⟨rfl, _, rfl, rfl⟩⟩
  | ok fs =>
      have hpending := pending_of_findings hm wf hfs
      have hnone := hpending.foldl_replaceFound (r := r) hm wf (List.forall_mem_nil _)
      refine ⟨hnone.1, ?_, .inl ⟨hnone.2 m (by simp), (m.skips_foldl_replaceFound fs d r).2⟩⟩
      intro m' hm'
      have hone := hpending.foldl_replaceFound (r := r) hm wf (List.forall_mem_singleton.mpr hm')
      exact hone.2 m' (by simp)

/-- Findings in texts that are not attached change nothing. -/
theorem foldl_replaceFound_error {fs : List Finding} {r : Report}
    (h : ∀ f ∈ fs, d.attached f.id = false) :
    (fs.foldl m.replaceFound (d, r)).1 = d ∧
      (fs.foldl m.replaceFound (d, r)).2.masksCreated = r.masksCreated ∧
      (fs.foldl m.replaceFound (d, r)).2.summary = r.summary := by
  induction fs generalizing r with
  | nil => exact ⟨rfl, rfl, rfl⟩
  | cons f fs ih =>
      have hno := h f List.mem_cons_self
      rw [List.foldl_cons]
      rcases m.replaceFound_cases d r f with ⟨new, d', hrep, -⟩ | ⟨e, -, hstate⟩
      · obtain ⟨_, _, -, -, -, ha, -, -⟩ := Document.replaceText_cases hrep
        rw [hno] at ha
        cases ha
      · rw [hstate]
        exact ih fun g hg => h g (List.mem_cons_of_mem _ hg)

/-- **Where nothing is left to be found, a rule changes nothing.** -/
theorem apply_of_settled {r : Report} (hs : d.Settled x options m) :
    (m.apply x options (d, r)).1 = d ∧
      (m.apply x options (d, r)).2.masksCreated = r.masksCreated ∧
      (m.apply x options (d, r)).2.summary = r.summary := by
  unfold apply
  dsimp only
  cases hfs : m.findings options (d.passages x options) with
  | error e => exact ⟨rfl, rfl, rfl⟩
  | ok fs =>
      refine foldl_replaceFound_error fun f hf => ?_
      obtain ⟨p, hp, hfp⟩ := exists_passage_of_findings hfs hf
      rw [Bool.eq_false_iff]
      intro ha
      exact hfp.found_ne_nil ((hs f.id p hp ha).eq_nil_of_scan hfp.scan_eq)

end Matcher

/-! ### Passes -/

namespace Engine

variable {x : NodeId} {options : Options} {d : Document} {r : Report}

open Classical in
/-- **Rules in order** leave nothing to be found where nothing was left before; they change nothing
or settle one of themselves; and those that they do not settle are listed. -/
theorem foldl_settles (x : NodeId) (options : Options) (r : Report) {ms : List Matcher}
    (hms : ∀ m ∈ ms, m.Anchored) (wf : d.WellFormed) :
    let state := ms.foldl (fun state m => m.apply x options state) (d, r)
    state.1.WellFormed ∧ (∀ m, d.Settled x options m → state.1.Settled x options m) ∧
      (state.1 = d ∨ ∃ m ∈ ms, ¬d.Settled x options m ∧ state.1.Settled x options m) ∧
      ∃ skips, state.2.scanSkips = r.scanSkips ++ skips ∧
        ((ms.filter fun m => ¬state.1.Settled x options m).map (·.rule.pattern)).Sublist
          (skips.map (·.pattern)) := by
  induction ms generalizing d r with
  | nil => exact ⟨wf, fun _ => id, .inl rfl, [], (List.append_nil _).symm, .refl _⟩
  | cons m ms ih =>
      obtain ⟨hm, hms⟩ := List.forall_mem_cons.mp hms
      obtain ⟨wf', hkeep, hturn⟩ := Matcher.apply_settles x options r hm wf
      obtain ⟨wf'', hkeep', hchange, skips, hskips, hsub⟩ :=
        ih (m.apply x options (d, r)).2 hms wf'
      dsimp only at wf'' hkeep' hchange hskips hsub ⊢
      rw [List.foldl_cons]
      refine ⟨wf'', fun m' hs => hkeep' m' (hkeep m' hs), ?_, ?_⟩
      · -- a change is that of the first rule or of one of the others
        rcases hchange with heq | ⟨m', hm', hno, hs⟩
        · rcases hturn with ⟨hs, -⟩ | ⟨hd, -⟩
          · by_cases hset : d.Settled x options m
            · exact .inl (heq.trans (Matcher.apply_of_settled hset).1)
            · exact .inr ⟨m, List.mem_cons_self, hset, hkeep' m hs⟩
          · exact .inl (heq.trans hd)
        · exact .inr ⟨m', List.mem_cons_of_mem _ hm', fun h => hno (hkeep m' h), hs⟩
      · rcases hturn with ⟨hs, hlist⟩ | ⟨-, skip, hlist, hpattern⟩
        · refine ⟨skips, hskips.trans (by rw [hlist]), ?_⟩
          rwa [List.filter_cons_of_neg (by simpa using hkeep' m hs)]
        · refine ⟨skip :: skips, ?_, ?_⟩
          · rw [hskips, hlist, List.append_assoc]
            rfl
          · rw [List.filter_cons]
            split_ifs
            · rw [List.map_cons, List.map_cons, hpattern]
              exact hsub.cons_cons _
            · exact hsub.cons _

/-- Rules with nothing left to find change nothing. -/
theorem foldl_of_settled {ms : List Matcher} (hs : ∀ m ∈ ms, d.Settled x options m) :
    (ms.foldl (fun state m => m.apply x options state) (d, r)).1 = d ∧
      (ms.foldl (fun state m => m.apply x options state) (d, r)).2.masksCreated =
        r.masksCreated := by
  induction ms generalizing r with
  | nil => exact ⟨rfl, rfl⟩
  | cons m ms ih =>
      obtain ⟨hm, hms⟩ := List.forall_mem_cons.mp hs
      obtain ⟨hd, hr, -⟩ := Matcher.apply_of_settled (r := r) hm
      have hstate : m.apply x options (d, r) = (d, (m.apply x options (d, r)).2) :=
        Prod.ext hd rfl
      rw [List.foldl_cons, hstate, ← hr]
      exact ih hms

theorem anchored_of_mem {e : Engine} : ∀ m ∈ e.matchers.matchers, m.Anchored := by
  intro m hm
  rw [e.matchers_eq] at hm
  exact Matcher.anchored_of_compile (MatcherList.exists_rule_of_mem_compile hm).2

/-- A pass in which no rule is given up leaves nothing to be found for its matchers. -/
theorem settled_apply {e : Engine} (wf : d.WellFormed) (h : (e.apply d x).2.scanSkips = []) :
    ∀ m ∈ e.matchers.matchers, (e.apply d x).1.Settled x e.options m := by
  obtain ⟨-, -, -, skips, hskips, hsub⟩ := foldl_settles x e.options
    { Report.empty with compileSkips := e.matchers.skipped } anchored_of_mem wf
  obtain rfl : skips = [] := by
    have : [] = [] ++ skips := h.symm.trans hskips
    exact this.symm
  have hnone := List.map_eq_nil_iff.mp (List.sublist_nil.mp hsub)
  intro m hm
  have hm := List.filter_eq_nil_iff.mp hnone m hm
  simp only [decide_eq_true_eq, not_not] at hm
  exact hm

/-- **A second pass is a no-op.**  After a pass over a document that can be reached in which no rule
was given up, the same pass over the same node makes no mask and changes nothing. -/
theorem second_pass (s : String) (changes : List TreeChange) (e : Engine) (x : NodeId) :
    let d := (Document.ofPlainText s).changeAll changes
    let first := e.apply d x
    first.2.scanSkips = [] →
      (e.apply first.1 x).2.masksCreated = 0 ∧ (e.apply first.1 x).1 = first.1 := by
  intro d first hskip
  have wf : d.WellFormed :=
    Document.wellFormed_changeAll (Document.wellFormed_ofPlainText s) changes
  have hsettled := settled_apply wf hskip
  obtain ⟨hd, hcount⟩ := foldl_of_settled
    (r := { Report.empty with compileSkips := e.matchers.skipped }) hsettled
  exact ⟨hcount, hd⟩

/-- A whole word is masked by a regular expression, and a shorter pattern is masked in what is
left. -/
theorem second_pass_acme :
    let e := Engine.ofRules [⟨"acme( co)?", "X", true, false, true⟩, .literal "Acme" "Y"] .default
    let first := e.apply ((Document.ofPlainText "Acme Co, Acmes").changeAll []) Document.root
    first.2.scanSkips = [] ∧ first.2.masksCreated = 2 ∧
      (e.apply first.1 Document.root).2.masksCreated = 0 ∧
        (e.apply first.1 Document.root).1 = first.1 :=
  ⟨by decide +kernel, by decide +kernel,
    second_pass "Acme Co, Acmes" []
      (.ofRules [⟨"acme( co)?", "X", true, false, true⟩, .literal "Acme" "Y"] .default)
      Document.root (by decide +kernel)⟩

end Engine

end TextMasking
