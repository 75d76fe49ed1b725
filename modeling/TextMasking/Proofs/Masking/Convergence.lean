import TextMasking.Proofs.Masking.Idempotence

/-! # Passes come to rest

A rule that was given up may mask in a later pass, when other rules have taken the texts apart
(`Engine.not_given_up_stays_out`).  But it is settled as soon as it has masked, and what is settled
stays so.  Hence only rules that the first pass gave up mask later, each pass that changes the
document settles one of them more (`Engine.pass_progress`), and after as many more passes as rules
were given up nothing changes any more (`Engine.passes_come_to_rest`). -/

namespace TextMasking

/-! ### Patterns of a report -/

namespace Report

/-- The patterns of the summary are among these. -/
def TalliesOnly (r : Report) (patterns : List String) : Prop :=
  ∀ item ∈ r.summary, item.pattern ∈ patterns

theorem pattern_of_mem_tally {items : List SummaryItem} {item i : SummaryItem}
    (h : i ∈ tally items item) :
    i.pattern ∈ items.map (·.pattern) ∨ i.pattern = item.pattern := by
  induction items with
  | nil =>
      rw [List.mem_singleton.mp h]
      exact .inr rfl
  | cons first rest ih =>
      rw [List.map_cons]
      rw [tally] at h
      split_ifs at h
      · rcases List.mem_cons.mp h with rfl | h
        · exact .inl List.mem_cons_self
        · exact .inl (List.mem_cons_of_mem _ (List.mem_map_of_mem h))
      · rcases List.mem_cons.mp h with rfl | h
        · exact .inl List.mem_cons_self
        · exact (ih h).imp_left (List.mem_cons_of_mem _)

theorem TalliesOnly.record {r : Report} {patterns : List String} (h : r.TalliesOnly patterns)
    {item : SummaryItem} (hitem : item.pattern ∈ patterns) :
    (r.record item).TalliesOnly patterns := by
  intro i hi
  rcases pattern_of_mem_tally hi with hi | e
  · obtain ⟨j, hj, e⟩ := List.mem_map.mp hi
    exact e ▸ h j hj
  · rwa [e]

end Report

namespace Matcher

variable {m : Matcher} {x : NodeId} {options : Options} {d : Document} {r : Report}
  {patterns : List String}

/-- A rule tallies its own pattern only. -/
theorem talliesOnly_apply (hr : r.TalliesOnly patterns) (hm : m.rule.pattern ∈ patterns) :
    (m.apply x options (d, r)).2.TalliesOnly patterns := by
  have hfold (fs : List Finding) (d : Document) (r : Report) (hr : r.TalliesOnly patterns) :
      (fs.foldl m.replaceFound (d, r)).2.TalliesOnly patterns := by
    induction fs generalizing d r with
    | nil => exact hr
    | cons f fs ih =>
        rw [List.foldl_cons]
        rcases m.replaceFound_cases d r f with ⟨new, d', -, hstate⟩ | ⟨e, -, hstate⟩
        · rw [hstate]
          exact ih d' _ (hr.record hm)
        · rw [hstate]
          exact ih d _ hr
  unfold apply
  dsimp only
  cases m.findings options (d.passages x options) with
  | error fault => exact hr
  | ok fs => exact hfold fs d r hr

end Matcher

namespace Engine

variable {x : NodeId} {options : Options} {d : Document} {r : Report} {ms : List Matcher}

/-! ### Rules that were given up -/

/-- While the other rules have nothing left to find, rules in order tally only the patterns of
these. -/
theorem foldl_talliesOnly {patterns : List String} (hms : ∀ m ∈ ms, m.Anchored)
    (wf : d.WellFormed) (hr : r.TalliesOnly patterns)
    (hs : ∀ m ∈ ms, d.Settled x options m ∨ m.rule.pattern ∈ patterns) :
    (ms.foldl (fun state m => m.apply x options state) (d, r)).2.TalliesOnly patterns := by
  induction ms generalizing d r with
  | nil => exact hr
  | cons m ms ih =>
      obtain ⟨hm, hms⟩ := List.forall_mem_cons.mp hms
      obtain ⟨hturn, hs⟩ := List.forall_mem_cons.mp hs
      obtain ⟨wf', hkeep, -⟩ := Matcher.apply_settles x options r hm wf
      refine ih (r := (m.apply x options (d, r)).2) hms wf' ?_ ?_
      · rcases hturn with hset | hpattern
        · intro item hitem
          rw [(Matcher.apply_of_settled hset).2.2] at hitem
          exact hr item hitem
        · exact Matcher.talliesOnly_apply hr hpattern
      · intro m' hm'
        exact (hs m' hm').imp_left (hkeep m')

/-! ### Passes after passes -/

/-- The document after `n` passes. -/
def passes (e : Engine) (x : NodeId) (d : Document) : Nat → Document
  | 0 => d
  | n + 1 => e.passes x (e.apply d x).1 n

open Classical in
/-- How many rules may still find something. -/
noncomputable def unsettled (e : Engine) (x : NodeId) (d : Document) : Nat :=
  (e.matchers.matchers.filter fun m => ¬d.Settled x e.options m).length

variable {e : Engine}

theorem unsettled_eq_zero_iff :
    e.unsettled x d = 0 ↔ ∀ m ∈ e.matchers.matchers, d.Settled x e.options m := by
  classical
  rw [unsettled, List.length_eq_zero_iff, List.filter_eq_nil_iff]
  simp only [decide_eq_true_eq, not_not]

/-- **A pass that changes the document settles one rule more.** -/
theorem pass_progress (e : Engine) (x : NodeId) (wf : d.WellFormed) :
    (e.apply d x).1.WellFormed ∧
      (∀ m, d.Settled x e.options m → (e.apply d x).1.Settled x e.options m) ∧
      ((e.apply d x).1 = d ∨ e.unsettled x (e.apply d x).1 < e.unsettled x d) := by
  classical
  obtain ⟨wf', hkeep, hchange, -⟩ := foldl_settles x e.options
    { Report.empty with compileSkips := e.matchers.skipped } anchored_of_mem wf
  refine ⟨wf', hkeep, hchange.imp_right ?_⟩
  rintro ⟨m, hm, hno, (hs : (e.apply d x).1.Settled x e.options m)⟩
  have hsub (ms : List Matcher) :
      (ms.filter fun m => ¬(e.apply d x).1.Settled x e.options m).length ≤
        (ms.filter fun m => ¬d.Settled x e.options m).length := by
    refine (List.monotone_filter_right ms fun m hm => ?_).length_le
    rw [decide_eq_true_eq] at hm ⊢
    exact fun h => hm (hkeep m h)
  obtain ⟨pre, post, hms⟩ := List.append_of_mem hm
  have hpre := hsub pre
  have hpost := hsub post
  unfold unsettled
  rw [hms]
  simp only [List.filter_append, List.filter_cons, hs, hno, not_true_eq_false, not_false_eq_true,
    decide_true, decide_false, if_true, Bool.false_eq_true, if_false, List.length_append,
    List.length_cons]
  omega

/-- What is settled stays settled in all passes to come. -/
theorem settled_passes (e : Engine) (x : NodeId) (wf : d.WellFormed) (n : Nat) :
    (e.passes x d n).WellFormed ∧
      ∀ m, d.Settled x e.options m → (e.passes x d n).Settled x e.options m := by
  induction n generalizing d with
  | zero => exact ⟨wf, fun _ => id⟩
  | succ n ih =>
      obtain ⟨wf', hkeep, -⟩ := pass_progress e x wf
      obtain ⟨wf'', hkeep'⟩ := ih wf'
      exact ⟨wf'', fun m hm => hkeep' m (hkeep m hm)⟩

/-- A document that a pass does not change is not changed by more of them. -/
theorem passes_of_fixed (h : (e.apply d x).1 = d) (n : Nat) : e.passes x d n = d := by
  induction n with
  | zero => rfl
  | succ n ih => rw [passes, h, ih]

/-- **Passes come to rest** after as many of them as there are rules that may find something. -/
theorem fixed_passes (wf : d.WellFormed) {n : Nat} (h : e.unsettled x d ≤ n) :
    (e.apply (e.passes x d n) x).1 = e.passes x d n := by
  induction n generalizing d with
  | zero =>
      exact (foldl_of_settled (unsettled_eq_zero_iff.mp (Nat.le_zero.mp h))).1
  | succ n ih =>
      obtain ⟨wf', -, hsame | hless⟩ := pass_progress e x wf
      · rw [passes_of_fixed hsame]
        exact hsame
      · exact ih wf' (by omega)

/-- A pass that changes nothing makes no mask. -/
theorem masksCreated_of_fixed (wf : d.WellFormed) (h : (e.apply d x).1 = d) :
    (e.apply d x).2.masksCreated = 0 := by
  have hcount := (e.apply_masks wf x).maskCount
  rw [h] at hcount
  omega

/-! ### After a pass that gave rules up -/

/-- A pass settles its rules apart from those that it lists. -/
theorem settled_or_listed (e : Engine) (x : NodeId) (wf : d.WellFormed) :
    e.unsettled x (e.apply d x).1 ≤ (e.apply d x).2.scanSkips.length ∧
      ∀ m ∈ e.matchers.matchers, (e.apply d x).1.Settled x e.options m ∨
        m.rule.pattern ∈ (e.apply d x).2.scanSkips.map (·.pattern) := by
  classical
  obtain ⟨-, -, -, skips, hskips, hsub⟩ := foldl_settles x e.options
    { Report.empty with compileSkips := e.matchers.skipped } anchored_of_mem wf
  have hlist : (e.apply d x).2.scanSkips = skips := hskips
  rw [hlist]
  constructor
  · have := hsub.length_le
    rwa [List.length_map, List.length_map] at this
  · intro m hm
    refine or_iff_not_imp_left.mpr fun hno => hsub.subset (List.mem_map_of_mem ?_)
    exact List.mem_filter.mpr ⟨hm, decide_eq_true hno⟩

/-- **What a pass that gave rules up leaves to later passes.**  Later passes over the same node mask
for rules only that the first one gave up; and after as many more passes as rules were given up, a
pass makes no mask and changes nothing. -/
theorem passes_come_to_rest (s : String) (changes : List TreeChange) (e : Engine) (x : NodeId) :
    let d := (Document.ofPlainText s).changeAll changes
    let first := e.apply d x
    let given := first.2.scanSkips
    let last := e.passes x first.1 given.length
    (∀ n, ∀ item ∈ (e.apply (e.passes x first.1 n) x).2.summary,
        item.pattern ∈ given.map (·.pattern)) ∧
      (e.apply last x).2.masksCreated = 0 ∧ (e.apply last x).1 = last := by
  intro d first given last
  have wf : d.WellFormed :=
    Document.wellFormed_changeAll (Document.wellFormed_ofPlainText s) changes
  obtain ⟨wf', -⟩ := pass_progress e x wf
  obtain ⟨hcount, hlisted⟩ := settled_or_listed e x wf
  constructor
  · intro n
    obtain ⟨wfn, hkeep⟩ := settled_passes e x wf' n
    exact foldl_talliesOnly anchored_of_mem wfn (fun _ h => absurd h List.not_mem_nil)
      fun m hm => (hlisted m hm).imp_left (hkeep m)
  · have hfixed := fixed_passes wf' hcount
    exact ⟨masksCreated_of_fixed (settled_passes e x wf' _).1 hfixed, hfixed⟩

/-- A rule that the first pass gives up masks in the second one, and the third one does nothing. -/
theorem passes_come_to_rest_limit :
    let e := Engine.ofRules [.literal "xa" "[A]", .literal "b" "[B]"] ⟨2, true⟩
    let first := e.apply ((Document.ofPlainText "xa xa b xa").changeAll []) Document.root
    let last := e.passes Document.root first.1 first.2.scanSkips.length
    (⟨"xa", "[A]", 3⟩ ∈ (e.apply (e.passes Document.root first.1 0) Document.root).2.summary ∧
        "xa" ∈ first.2.scanSkips.map (·.pattern)) ∧
      (e.apply last Document.root).2.masksCreated = 0 ∧ (e.apply last Document.root).1 = last :=
  ⟨⟨by decide +kernel, (passes_come_to_rest "xa xa b xa" []
      (.ofRules [.literal "xa" "[A]", .literal "b" "[B]"] ⟨2, true⟩) Document.root).1 0
      ⟨"xa", "[A]", 3⟩ (by decide +kernel)⟩,
    (passes_come_to_rest "xa xa b xa" []
      (.ofRules [.literal "xa" "[A]", .literal "b" "[B]"] ⟨2, true⟩) Document.root).2⟩

/-- The first pass gives up a rule that a text holds more matches of than are allowed; another rule
takes the text apart, so that the second pass masks for the rule that was given up. -/
theorem not_given_up_stays_out : ¬∀ (s : String) (changes : List TreeChange) (e : Engine)
    (x : NodeId),
    let first := e.apply ((Document.ofPlainText s).changeAll changes) x
    let second := e.apply first.1 x
    (∀ skip ∈ first.2.scanSkips, skip.pattern ∉ second.2.summary.map (·.pattern)) ∧
      second.2.masksCreated = 0 ∧ second.1 = first.1 := by
  intro h
  have hmasks := (h "xa xa b xa" [] (.ofRules [.literal "xa" "[A]", .literal "b" "[B]"] ⟨2, true⟩)
    Document.root).2.1
  revert hmasks
  decide +kernel

end Engine

end TextMasking
