import TextMasking.Proofs.Masking.Idempotence

/-! # Passes step by step

What a pass does is a sequence of steps: a rule is given up, a text in which it found matches is
taken apart, or such a text is left because it has lost its parent.  A property of the document and
the report that a rule keeps in each of these steps (`Matcher.Keeps`) it keeps when it is applied,
and the rules of an engine keep it in a pass (`Engine.keeps`).

Where a step is shown to keep something, the finding that it replaces is one of a text that the pass
reads at that moment, although it was found earlier: taking one text apart leaves the others. -/

namespace TextMasking

namespace Matcher

variable {m : Matcher} {x : NodeId} {options : Options} {P : Document → Report → Prop}
  {d : Document} {r : Report}

/-- A text that a pass reads is a text at or below its node, and it is not excluded. -/
theorem Found.place {f : Finding} (wf : d.WellFormed) (hf : m.Found x options d f) :
    d.text? f.id ≠ none ∧ d.excluded f.id = false ∧ (f.id = x ∨ x ∈ d.above f.id) := by
  obtain ⟨p, hp, -⟩ := hf
  obtain ⟨u, hu, hid, hpass⟩ := wf.mem_passages_iff.mp hp
  rw [wf.mem_textIds_iff hu, ← wf.above_of_mem_units hu] at hid
  obtain ⟨place, s, hplace, hnode, rfl⟩ := wf.exists_place_of_mem_units hu
  refine ⟨?_, ?_, hid⟩
  · rw [Document.text?, Document.tree?_of_place? hplace, hnode]
    exact Option.some_ne_none s
  · rw [← Forest.Place.passage?_eq hnode, Forest.Place.passage?, hnode] at hpass
    dsimp only at hpass
    split_ifs at hpass with hskip
    rw [Bool.or_eq_true, not_or, Bool.not_eq_true] at hskip
    rw [Document.excluded, hplace]
    exact hskip.1

/-- A rule that is applied over `x` keeps a property in each step. -/
structure Keeps (m : Matcher) (x : NodeId) (options : Options) (P : Document → Report → Prop) :
    Prop where
  giveUp : ∀ (d : Document) (r : Report) (skip : SkippedRule), P d r →
    P d { r with scanSkips := r.scanSkips ++ [skip] }
  replace : ∀ (d d' : Document) (r : Report) (f : Finding) (new : List NodeId), d.WellFormed →
    m.Found x options d f →
    d.replaceText f.id (Fragment.ofMatches f.text f.found) = .ok (new, d') → P d r →
    P d' (r.record ⟨m.rule.pattern, m.rule.replacement, f.found.length⟩)
  leave : ∀ (d : Document) (r : Report) (f : Finding) (e : TreeError), d.WellFormed →
    m.Found x options d f →
    d.replaceText f.id (Fragment.ofMatches f.text f.found) = .error e → P d r →
    P d { r with unitsLeftUnmodified := r.unitsLeftUnmodified + 1 }

namespace Keeps

/-- Findings are replaced one after the other, and those to come stay findings. -/
theorem foldl_replaceFound (h : m.Keeps x options P) {fs : List Finding} (wf : d.WellFormed)
    (hn : (fs.map (·.id)).Nodup) (hf : ∀ f ∈ fs, m.Found x options d f) (hp : P d r) :
    P (fs.foldl m.replaceFound (d, r)).1 (fs.foldl m.replaceFound (d, r)).2 := by
  induction fs generalizing d r with
  | nil => exact hp
  | cons f fs ih =>
      obtain ⟨hnot, hn⟩ := List.nodup_cons.mp hn
      obtain ⟨hfirst, hf⟩ := List.forall_mem_cons.mp hf
      rw [List.foldl_cons]
      cases m.replaceFound_cases d r f with
      | inl hok =>
          obtain ⟨new, d', hrep, hstate⟩ := hok
          rw [hstate]
          refine ih ((Document.Extends.replaceText wf hrep).wellFormed wf) hn ?_
            (h.replace d d' r f new wf hfirst hrep hp)
          intro g hg
          refine found_replaceText wf hfirst hrep (hf g hg) ?_
          intro e
          exact hnot (List.mem_map.mpr ⟨g, hg, e⟩)
      | inr hleft =>
          obtain ⟨e, hrep, hstate⟩ := hleft
          rw [hstate]
          exact ih wf hn hf (h.leave d r f e wf hfirst hrep hp)

/-- **One rule** keeps what it keeps in each step. -/
theorem apply (h : m.Keeps x options P) (wf : d.WellFormed) (hp : P d r) :
    P (m.apply x options (d, r)).1 (m.apply x options (d, r)).2 := by
  unfold Matcher.apply
  dsimp only
  cases hfs : m.findings options (d.passages x options) with
  | error fault => exact h.giveUp d r _ hp
  | ok fs =>
      refine h.foldl_replaceFound wf ((passages_nodup wf).sublist (findings_sublist hfs)) ?_ hp
      intro f hf
      exact exists_passage_of_findings hfs hf

end Keeps

theorem wellFormed_apply (m : Matcher) (x : NodeId) (options : Options) (r : Report)
    (wf : d.WellFormed) : (m.apply x options (d, r)).1.WellFormed := by
  obtain ⟨n, -, hm⟩ := m.apply_masks (r := r) wf x options
  exact hm.remasked.wellFormed

/-- Rules in order keep what each of them keeps. -/
theorem foldl_keeps {ms : List Matcher} (h : ∀ m ∈ ms, m.Keeps x options P) (wf : d.WellFormed)
    (hp : P d r) :
    P (ms.foldl (fun state m => m.apply x options state) (d, r)).1
      (ms.foldl (fun state m => m.apply x options state) (d, r)).2 := by
  induction ms generalizing d r with
  | nil => exact hp
  | cons m ms ih =>
      obtain ⟨hm, hms⟩ := List.forall_mem_cons.mp h
      exact ih (r := (m.apply x options (d, r)).2) hms (m.wellFormed_apply x options r wf)
        (hm.apply wf hp)

end Matcher

/-- **A pass** keeps what its rules keep in each step. -/
theorem Engine.keeps {e : Engine} {d : Document} {x : NodeId} {P : Document → Report → Prop}
    (h : ∀ m ∈ e.matchers.matchers, m.Keeps x e.options P) (wf : d.WellFormed)
    (hp : P d { Report.empty with compileSkips := e.matchers.skipped }) :
    P (e.apply d x).1 (e.apply d x).2 :=
  Matcher.foldl_keeps h wf hp

end TextMasking
