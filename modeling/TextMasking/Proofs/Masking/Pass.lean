import TextMasking.Proofs.Document.Remasked
import TextMasking.Proofs.Document.Units
import TextMasking.Proofs.Masking.Tiling
import TextMasking.Proofs.Matching.Matcher

/-! # What a pass does to a document

A pass takes texts apart and does nothing else: it differs from the document before in masks only,
it counts the masks that it makes, all of them below the root, and they show placeholders of its
rules (`Engine.apply_masks`).  The step is the replacement of one text
(`Matcher.replaceFound_masks`); a rule replaces the texts in which it found matches one after the
other. -/

namespace TextMasking

/-- From `d` to `d'` texts were taken apart, with `n` new masks below the root whose placeholders
are among `placeholders`. -/
structure Masks (placeholders : List String) (d d' : Document) (n : Nat) : Prop where
  remasked : d.Remasked d'
  nodes_subset : d.nodes ⊆ d'.nodes
  maskCount : (d'.maskIds Document.root).length = (d.maskIds Document.root).length + n
  placeholder : ∀ id m, (id, .mask m) ∈ d'.nodes →
    (id, .mask m) ∈ d.nodes ∨ m.replacement ∈ placeholders

namespace Masks

variable {ps ps' : List String} {d d' d'' : Document} {n n' : Nat}

theorem refl (wf : d.WellFormed) : Masks ps d d 0 :=
  ⟨.refl wf, List.Subset.refl _, rfl, fun _ _ => .inl⟩

theorem trans (h : Masks ps d d' n) (h' : Masks ps d' d'' n') : Masks ps d d'' (n + n') where
  remasked := h.remasked.trans h'.remasked
  nodes_subset := List.Subset.trans h.nodes_subset h'.nodes_subset
  maskCount := by rw [h'.maskCount, h.maskCount, Nat.add_assoc]
  placeholder := fun id m hm =>
    (h'.placeholder id m hm).elim (fun hm => h.placeholder id m hm) .inr

theorem mono (h : Masks ps d d' n) (hs : ps ⊆ ps') : Masks ps' d d' n :=
  ⟨h.remasked, h.nodes_subset, h.maskCount,
    fun id m hm => (h.placeholder id m hm).imp_right fun hr => hs hr⟩

end Masks

/-! ### Fragments of a scan -/

namespace Fragment

/-- The masks among the leaves of fragments are those among the fragments. -/
theorem mem_of_mem_toForest {fresh id : NodeId} {m : Mask} {fragments : List Fragment}
    (h : (id, .mask m) ∈ (toForest fresh fragments).nodes) : .mask m ∈ fragments := by
  induction fragments generalizing fresh with
  | nil => cases h
  | cons f rest ih =>
      cases f with
      | text s =>
          rcases List.mem_cons.mp h with e | h
          · cases e
          · exact List.mem_cons_of_mem _ (ih h)
      | mask m' =>
          rcases List.mem_cons.mp h with e | h
          · cases e
            exact List.mem_cons_self
          · exact List.mem_cons_of_mem _ (ih h)

/-- The masks among the fragments of a text are those of its matches. -/
theorem mem_ofMatchesFrom {text : List Char} {last : Nat} {found : List TextMatch} {m : Mask}
    (h : .mask m ∈ ofMatchesFrom text last found) : ∃ f ∈ found, f.mask = m := by
  have hgap {a b : Nat} (h : .mask m ∈ gap text a b) : False := by
    rw [gap] at h
    split_ifs at h <;> simp at h
  induction found generalizing last with
  | nil => exact (hgap h).elim
  | cons f rest ih =>
      rw [ofMatchesFrom, List.mem_append, List.mem_cons] at h
      rcases h with h | h | h
      · exact (hgap h).elim
      · cases h
        exact ⟨f, List.mem_cons_self, rfl⟩
      · obtain ⟨f', hf', e⟩ := ih h
        exact ⟨f', List.mem_cons_of_mem _ hf', e⟩

theorem ofMatches_ne_nil {text : String} {found : List TextMatch} (h : found ≠ []) :
    ofMatches text found ≠ [] := by
  cases found with
  | nil => exact absurd rfl h
  | cons f rest => simp [ofMatches, ofMatchesFrom]

end Fragment

namespace Matcher

/-! ### Findings -/

/-- The finding of a passage in which matches were found. -/
structure FindsIn (m : Matcher) (options : Options) (p : Passage) (f : Finding) : Prop where
  text_eq : f.text = p.text
  scan_eq : m.scan p.before p.text p.after options = .ok f.found
  found_ne_nil : f.found ≠ []

/-- What a text with a finding is taken apart into reads like the text. -/
theorem FindsIn.join_unmasked {m : Matcher} {options : Options} {p : Passage} {f : Finding}
    (h : m.FindsIn options p f) :
    String.join ((Fragment.ofMatches f.text f.found).map Fragment.unmasked) = p.text := by
  rw [h.text_eq, unmasked_ofMatches h.scan_eq]

/-- The findings in a list of passages are those in the first one, if there are any, and those in
the others. -/
theorem findings_cons {m : Matcher} {options : Options} {id : NodeId} {p : Passage}
    {rest : List (NodeId × Passage)} {fs : List Finding}
    (h : m.findings options ((id, p) :: rest) = .ok fs) :
    ∃ found others, m.scan p.before p.text p.after options = .ok found ∧
      m.findings options rest = .ok others ∧
      (found = [] ∧ fs = others ∨ found ≠ [] ∧ fs = ⟨id, p.text, found⟩ :: others) := by
  rw [findings] at h
  cases hs : m.scan p.before p.text p.after options with
  | error e =>
      rw [hs] at h
      cases h
  | ok found =>
      cases hr : m.findings options rest with
      | error e =>
          rw [hs, hr] at h
          cases h
      | ok others =>
          rw [hs, hr] at h
          change Except.ok (if found.isEmpty then others else _) = Except.ok fs at h
          refine ⟨found, others, rfl, rfl, ?_⟩
          split_ifs at h with he
          · cases h
            exact .inl ⟨List.isEmpty_iff.mp he, rfl⟩
          · cases h
            exact .inr ⟨fun e => he (List.isEmpty_iff.mpr e), rfl⟩

/-- Each finding comes from one of the passages. -/
theorem exists_passage_of_findings {m : Matcher} {options : Options}
    {passages : List (NodeId × Passage)} {fs : List Finding}
    (h : m.findings options passages = .ok fs) {f : Finding} (hf : f ∈ fs) :
    ∃ p, (f.id, p) ∈ passages ∧ m.FindsIn options p f := by
  induction passages generalizing fs with
  | nil =>
      cases h
      cases hf
  | cons q rest ih =>
      obtain ⟨id, p⟩ := q
      obtain ⟨found, others, hs, hr, hfs⟩ := findings_cons h
      have hrest (hf : f ∈ others) : ∃ p', (f.id, p') ∈ (id, p) :: rest ∧
          m.FindsIn options p' f := by
        obtain ⟨p', hp', hp⟩ := ih hr hf
        exact ⟨p', List.mem_cons_of_mem _ hp', hp⟩
      rcases hfs with ⟨-, rfl⟩ | ⟨hne, rfl⟩
      · exact hrest hf
      · rcases List.mem_cons.mp hf with rfl | hf
        · exact ⟨p, List.mem_cons_self, rfl, hs, hne⟩
        · exact hrest hf

end Matcher

/-- A passage is the content of its text. -/
theorem Document.mem_nodes_of_mem_passages {d : Document} (wf : d.WellFormed) {root id : NodeId}
    {options : Options} {p : Passage} (h : (id, p) ∈ d.passages root options) :
    (id, .text p.text) ∈ d.nodes := by
  obtain ⟨u, hu, -, hp⟩ := wf.mem_passages_iff.mp h
  rw [← TextUnit.eq_of_passage? hp]
  exact wf.mem_nodes_of_mem_units hu

namespace Matcher

/-! ### One rule -/

/-- A text is replaced and its matches are counted, or it is counted as left. -/
theorem replaceFound_cases (m : Matcher) (d : Document) (r : Report) (f : Finding) :
    (∃ new d', d.replaceText f.id (Fragment.ofMatches f.text f.found) = .ok (new, d') ∧
        m.replaceFound (d, r) f =
          (d', r.record ⟨m.rule.pattern, m.rule.replacement, f.found.length⟩)) ∨
      ∃ e, d.replaceText f.id (Fragment.ofMatches f.text f.found) = .error e ∧
        m.replaceFound (d, r) f =
          (d, { r with unitsLeftUnmodified := r.unitsLeftUnmodified + 1 }) := by
  unfold replaceFound
  dsimp only
  cases h : d.replaceText f.id (Fragment.ofMatches f.text f.found) with
  | error e => exact .inr ⟨e, rfl, rfl⟩
  | ok res => exact .inl ⟨res.1, res.2, rfl, rfl⟩

/-- Replacing texts lists no rule as skipped. -/
theorem skips_foldl_replaceFound (m : Matcher) (fs : List Finding) (d : Document)
    (r : Report) :
    (fs.foldl m.replaceFound (d, r)).2.compileSkips = r.compileSkips ∧
      (fs.foldl m.replaceFound (d, r)).2.scanSkips = r.scanSkips := by
  induction fs generalizing d r with
  | nil => exact ⟨rfl, rfl⟩
  | cons f fs ih =>
      rw [List.foldl_cons]
      rcases m.replaceFound_cases d r f with ⟨new, d', -, hstate⟩ | ⟨e, -, hstate⟩
      · rw [hstate]
        exact ih d' _
      · rw [hstate]
        exact ih d _

/-- **One text is replaced:** the masks that are counted are made, or nothing is done. -/
theorem replaceFound_masks {m : Matcher} {d : Document} {r : Report} {options : Options}
    {p : Passage} {f : Finding} (wf : d.WellFormed) (hf : m.FindsIn options p f)
    (ht : (f.id, .text f.text) ∈ d.nodes) :
    ∃ n, (m.replaceFound (d, r) f).2.masksCreated = r.masksCreated + n ∧
      Masks [m.rule.replacement] d (m.replaceFound (d, r) f).1 n := by
  have hscan := hf.scan_eq
  rw [← hf.text_eq] at hscan
  rcases m.replaceFound_cases d r f with ⟨new, d', h, hstate⟩ | ⟨e, -, hstate⟩
  · rw [hstate]
    have e := Document.Extends.replaceText wf h
    refine ⟨f.found.length, rfl, ?_, ?_, ?_, ?_⟩
    · refine .replaceText wf h (Fragment.ofMatches_ne_nil hf.found_ne_nil) ?_
      rwa [hf.join_unmasked, ← hf.text_eq]
    · intro x hx
      exact (Document.nodes_replaceText_perm wf h).mem_iff.mpr (List.mem_append_left _ hx)
    · rw [Document.length_maskIds_replaceText wf h, length_maskIds_ofMatches hscan]
    · intro id mk hmk
      refine (e.mask_mem_iff.mp hmk).imp_right fun hmk => ?_
      obtain ⟨g, hg, hm⟩ := Fragment.mem_ofMatchesFrom
        (Fragment.mem_of_mem_toForest (Forest.mem_shapes_mask.mp hmk))
      obtain ⟨spans, -, hfound, -⟩ := exists_spans_of_scan hscan
      rw [hfound] at hg
      obtain ⟨s, -, rfl⟩ := List.mem_map.mp hg
      rw [← hm]
      exact List.mem_singleton.mpr rfl
  · rw [hstate]
    exact ⟨0, rfl, .refl wf⟩

/-- Texts are replaced one after the other.  A text that was found keeps its node with its content
while others are replaced, so what was found in it still holds. -/
theorem foldl_replaceFound_masks {m : Matcher} {d : Document} {r : Report} (options : Options)
    {fs : List Finding} (wf : d.WellFormed) (hf : ∀ f ∈ fs, ∃ p, m.FindsIn options p f)
    (ht : ∀ f ∈ fs, (f.id, .text f.text) ∈ d.nodes) :
    ∃ n, (fs.foldl m.replaceFound (d, r)).2.masksCreated = r.masksCreated + n ∧
      Masks [m.rule.replacement] d (fs.foldl m.replaceFound (d, r)).1 n := by
  induction fs generalizing d r with
  | nil => exact ⟨0, rfl, .refl wf⟩
  | cons f fs ih =>
      obtain ⟨p, hp⟩ := hf f List.mem_cons_self
      obtain ⟨n, hn, hm⟩ := replaceFound_masks (r := r) wf hp (ht f List.mem_cons_self)
      obtain ⟨n', hn', hm'⟩ := ih (r := (m.replaceFound (d, r) f).2) hm.remasked.wellFormed
        (fun g hg => hf g (List.mem_cons_of_mem _ hg))
        fun g hg => hm.nodes_subset (ht g (List.mem_cons_of_mem _ hg))
      refine ⟨n + n', ?_, hm.trans hm'⟩
      rw [List.foldl_cons, ← Nat.add_assoc, ← hn]
      exact hn'

/-- A rule that is given up masks nothing; another one masks what it found. -/
theorem apply_masks {m : Matcher} {d : Document} {r : Report} (wf : d.WellFormed) (root : NodeId)
    (options : Options) :
    ∃ n, (m.apply root options (d, r)).2.masksCreated = r.masksCreated + n ∧
      Masks [m.rule.replacement] d (m.apply root options (d, r)).1 n := by
  rw [apply]
  dsimp only
  cases hfs : m.findings options (d.passages root options) with
  | error e => exact ⟨0, rfl, .refl wf⟩
  | ok fs =>
      refine foldl_replaceFound_masks options wf ?_ ?_
      · intro f hf
        obtain ⟨p, -, hp⟩ := exists_passage_of_findings hfs hf
        exact ⟨p, hp⟩
      · intro f hf
        obtain ⟨p, hmem, hp⟩ := exists_passage_of_findings hfs hf
        rw [hp.text_eq]
        exact Document.mem_nodes_of_mem_passages wf hmem

end Matcher

/-! ### Passes -/

namespace Engine

/-- The placeholders of the rules of an engine. -/
def placeholders (e : Engine) : List String :=
  e.rules.map (·.replacement)

theorem foldl_apply_masks {ms : List Matcher} {ps : List String} {d : Document} {r : Report}
    (wf : d.WellFormed) (hps : ∀ m ∈ ms, m.rule.replacement ∈ ps) (root : NodeId)
    (options : Options) :
    ∃ n, (ms.foldl (fun state m => m.apply root options state) (d, r)).2.masksCreated =
        r.masksCreated + n ∧
      Masks ps d (ms.foldl (fun state m => m.apply root options state) (d, r)).1 n := by
  induction ms generalizing d r with
  | nil => exact ⟨0, rfl, .refl wf⟩
  | cons m ms ih =>
      obtain ⟨n, hn, hm⟩ := m.apply_masks (r := r) wf root options
      obtain ⟨n', hn', hm'⟩ := ih (r := (m.apply root options (d, r)).2) hm.remasked.wellFormed
        fun m' hm' => hps m' (List.mem_cons_of_mem _ hm')
      refine ⟨n + n', ?_, (hm.mono ?_).trans hm'⟩
      · rw [List.foldl_cons, ← Nat.add_assoc, ← hn]
        exact hn'
      · intro p hp
        rw [List.mem_singleton.mp hp]
        exact hps m List.mem_cons_self

/-- **A pass takes texts apart, and counts its masks.** -/
theorem apply_masks {d : Document} (e : Engine) (wf : d.WellFormed) (root : NodeId) :
    Masks e.placeholders d (e.apply d root).1 (e.apply d root).2.masksCreated := by
  have hps : ∀ m ∈ e.matchers.matchers, m.rule.replacement ∈ e.placeholders := by
    intro m hm
    rw [e.matchers_eq] at hm
    exact List.mem_map.mpr ⟨m.rule, (MatcherList.exists_rule_of_mem_compile hm).1, rfl⟩
  obtain ⟨n, hn, hm⟩ := foldl_apply_masks
    (r := { Report.empty with compileSkips := e.matchers.skipped }) wf hps root e.options
  rw [Report.empty, Nat.zero_add] at hn
  rw [apply, Report.empty, hn]
  exact hm

end Engine

end TextMasking
