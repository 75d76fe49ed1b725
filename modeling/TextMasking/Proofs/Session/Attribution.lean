import TextMasking.Proofs.Masking.Skipping
import TextMasking.Proofs.Masking.Steps
import TextMasking.Proofs.Session.Passes

/-! # To which placeholder masks are counted

In a pass each rule makes some masks; which ones is seen from how many more there are below the root
after its turn (`Pass.ledger`).  A report tallies them by pattern alone (`Pass.summary_report`), and
so do merged reports (`Report.summary_mergeAll`).  So all masks of a pattern are counted to the
placeholder of the first rule that made one, also those that other rules with the pattern made, in
the same pass or after a change of rules (`Report.Attributes`). -/

namespace TextMasking

open Document (root)
open Report (tally amount countOf placeholder?)

namespace Matcher

variable {m : Matcher} {x : NodeId} {options : Options} {d : Document} {r : Report}

/-- While a rule is applied, the masks that it has made are tallied as one item. -/
theorem keeps_summary (m : Matcher) (x : NodeId) (options : Options) (d : Document) (r : Report) :
    m.Keeps x options fun d' r' => ∃ n,
      (d'.maskIds root).length = (d.maskIds root).length + n ∧
        r'.summary = if n = 0 then r.summary
          else tally r.summary ⟨m.rule.pattern, m.rule.replacement, n⟩ where
  giveUp := fun _ _ _ h => h
  replace := by
    rintro d₁ d₂ r₁ f new wf ⟨p, -, hf⟩ hrep ⟨n, hmasks, hsummary⟩
    have hscan := hf.scan_eq
    rw [← hf.text_eq] at hscan
    have hpos : f.found.length ≠ 0 := mt List.length_eq_zero_iff.mp hf.found_ne_nil
    refine ⟨n + f.found.length, ?_, ?_⟩
    · rw [Document.length_maskIds_replaceText wf hrep, length_maskIds_ofMatches hscan, hmasks,
        Nat.add_assoc]
    · rw [if_neg (by omega), Report.record]
      dsimp only
      rw [hsummary]
      split_ifs with hn
      · rw [hn, Nat.zero_add]
      · exact Report.tally_tally_self r.summary rfl
  leave := fun _ _ _ _ _ _ _ h => h

end Matcher

namespace Pass

/-- What rules make in their turns: for each rule that makes masks below the root an item with its
pattern, its placeholder and their number. -/
def turns (x : NodeId) (options : Options) : List Matcher → Document → List SummaryItem
  | [], _ => []
  | m :: ms, d =>
    let d' := (m.apply x options (d, .empty)).1
    let made := (d'.maskIds root).length - (d.maskIds root).length
    if made = 0 then turns x options ms d'
    else ⟨m.rule.pattern, m.rule.replacement, made⟩ :: turns x options ms d'

/-- What the rules of a pass make. -/
def ledger (p : Pass) : List SummaryItem :=
  turns p.node p.engine.options p.engine.matchers.matchers p.document

theorem summary_foldl {x : NodeId} {options : Options} {ms : List Matcher} {d : Document}
    (wf : d.WellFormed) (r : Report) :
    (ms.foldl (fun state m => m.apply x options state) (d, r)).2.summary =
      (turns x options ms d).foldl tally r.summary := by
  induction ms generalizing d r with
  | nil => rfl
  | cons m ms ih =>
      obtain ⟨n, hmasks, hsummary⟩ :=
        (m.keeps_summary x options d r).apply wf ⟨0, rfl, (if_pos rfl).symm⟩
      have hdoc := m.document_apply x options d r .empty
      have hmade : ((m.apply x options (d, .empty)).1.maskIds root).length -
          (d.maskIds root).length = n := by
        rw [← hdoc, hmasks, Nat.add_sub_cancel_left]
      have hrest := ih (m.wellFormed_apply x options r wf) (m.apply x options (d, r)).2
      rw [List.foldl_cons, hrest, hdoc, hsummary, turns, hmade]
      split_ifs <;> rfl

/-- **A pass tallies what its rules make.** -/
theorem summary_report (p : Pass) (wf : p.document.WellFormed) :
    p.report.summary = p.ledger.foldl tally [] :=
  summary_foldl wf _

theorem occurrences_pos {p : Pass} {i : SummaryItem} (hi : i ∈ p.ledger) : 0 < i.occurrences := by
  unfold ledger at hi
  generalize p.document = d at hi
  generalize p.engine.matchers.matchers = ms at hi
  induction ms generalizing d with
  | nil => cases hi
  | cons m ms ih =>
      rw [turns] at hi
      split_ifs at hi with hmade
      · exact ih _ hi
      · cases List.mem_cons.mp hi with
        | inl e =>
            rw [e]
            exact Nat.pos_of_ne_zero hmade
        | inr hi => exact ih _ hi

/-- **Merged reports tally what the rules of all passes make.** -/
theorem summary_mergeAll {ps : List Pass} (wf : ∀ p ∈ ps, p.document.WellFormed) :
    (Report.mergeAll (ps.map report)).summary = (ps.flatMap ledger).foldl tally [] := by
  have hfold (r : Report) : ((ps.map report).foldl Report.merge r).summary =
      (ps.flatMap ledger).foldl tally r.summary := by
    induction ps generalizing r with
    | nil => rfl
    | cons p ps ih =>
        obtain ⟨hp, hps⟩ := List.forall_mem_cons.mp wf
        rw [List.map_cons, List.foldl_cons, ih hps, List.flatMap_cons, List.foldl_append,
          Report.merge]
        dsimp only
        rw [p.summary_report hp, Report.foldl_tally_foldl]
        rfl
  exact hfold .empty

end Pass

namespace Report

variable {items : List SummaryItem} {pattern replacement : String}

theorem exists_placeholder? {i : SummaryItem} (hi : i ∈ items) :
    ∃ first, placeholder? items i.pattern = some first := by
  unfold Report.placeholder?
  cases h : items.find? (·.pattern = i.pattern) with
  | some j => exact ⟨j.replacement, rfl⟩
  | none =>
      rw [List.find?_eq_none] at h
      simpa using h i hi

theorem exists_of_placeholder? (h : placeholder? items pattern = some replacement) :
    ∃ i ∈ items, i.pattern = pattern ∧ i.replacement = replacement := by
  obtain ⟨i, hi, hr⟩ := Option.map_eq_some_iff.mp h
  exact ⟨i, List.mem_of_find?_eq_some hi, by simpa using List.find?_some hi, hr⟩

theorem amount_pos {i : SummaryItem} (hi : i ∈ items) (hpos : 0 < i.occurrences) :
    0 < amount items i.pattern i.replacement := by
  induction items with
  | nil => cases hi
  | cons first rest ih =>
      rw [amount_cons]
      cases List.mem_cons.mp hi with
      | inl e =>
          rw [if_pos (by simp [e]), ← e]
          omega
      | inr hi =>
          have := ih hi
          omega

/-- The summary of a report counts all masks of a pattern to the placeholder of the first rule that
made one.  So for each placeholder the count is that of the masks made with it if and only if all
were made with the same. -/
structure Attributes (r : Report) (ledger : List SummaryItem) : Prop where
  amount_eq : ∀ pattern replacement, amount r.summary pattern replacement =
    if placeholder? ledger pattern = some replacement then countOf ledger pattern else 0
  exact_iff : ∀ pattern, (∀ replacement,
      amount r.summary pattern replacement = amount ledger pattern replacement) ↔
    ∀ i ∈ ledger, ∀ j ∈ ledger, i.pattern = pattern → j.pattern = pattern →
      i.replacement = j.replacement

/-- If all masks of a pattern were made with one placeholder, the count of the pattern is that of
this placeholder. -/
theorem amount_eq_of_same {ledger : List SummaryItem} {first : String}
    (h : ∀ i ∈ ledger, i.pattern = pattern → i.replacement = first) (replacement : String) :
    amount ledger pattern replacement =
      if first = replacement then countOf ledger pattern else 0 := by
  unfold amount countOf
  by_cases hr : first = replacement
  · rw [if_pos hr]
    congr 1
    refine List.filter_congr fun i hi => ?_
    have := h i hi
    grind
  · rw [if_neg hr, List.filter_eq_nil_iff.mpr]
    · rfl
    · intro i hi
      have := h i hi
      grind

/-- A tally of counts counts so. -/
theorem attributes_of_tally {r : Report} {ledger : List SummaryItem}
    (h : r.summary = ledger.foldl tally []) (hpos : ∀ i ∈ ledger, 0 < i.occurrences) :
    r.Attributes ledger := by
  have hamount (pattern replacement : String) : amount r.summary pattern replacement =
      if placeholder? ledger pattern = some replacement then countOf ledger pattern else 0 := by
    rw [h, amount_foldl_tally]
  refine ⟨hamount, fun pattern => ⟨?_, ?_⟩⟩
  · intro hexact
    have hfirst : ∀ i ∈ ledger, i.pattern = pattern →
        placeholder? ledger pattern = some i.replacement := by
      rintro i hi rfl
      by_contra hne
      have := amount_pos hi (hpos i hi)
      rw [← hexact, hamount, if_neg hne] at this
      omega
    intro i hi j hj hip hjp
    exact Option.some.inj ((hfirst i hi hip).symm.trans (hfirst j hj hjp))
  · intro hsame replacement
    rw [hamount]
    cases hp : placeholder? ledger pattern with
    | none =>
        have hnone : ∀ i ∈ ledger, i.pattern = pattern → i.replacement = replacement := by
          rintro i hi rfl
          obtain ⟨first, hfirst⟩ := exists_placeholder? hi
          rw [hp] at hfirst
          cases hfirst
        rw [amount_eq_of_same hnone, countOf_eq_zero hp]
        simp
    | some first =>
        obtain ⟨j, hj, hjp, rfl⟩ := exists_of_placeholder? hp
        rw [amount_eq_of_same fun i hi hip => hsame i hi j hj hip hjp]
        simp

end Report

/-- Merged reports count what the rules of all passes make. -/
theorem Pass.attributes_mergeAll {ps : List Pass} (wf : ∀ p ∈ ps, p.document.WellFormed) :
    (Report.mergeAll (ps.map Pass.report)).Attributes (ps.flatMap Pass.ledger) := by
  refine Report.attributes_of_tally (Pass.summary_mergeAll wf) fun i hi => ?_
  obtain ⟨p, -, hi⟩ := List.mem_flatMap.mp hi
  exact Pass.occurrences_pos hi

namespace Watcher

/-- **Masks are counted to the placeholder that came first with their pattern.**  This is so for the
report of a pass over any node of a document that can be reached, for that of any batch, for that
of a run of a watcher whatever its events are, and for all merged reports of passes.  For each
placeholder the summary counts the masks made with it if and only if all masks of the pattern were
made with the same. -/
theorem summary_attribution (s : String) (changes : List TreeChange) (e : Engine) (x : NodeId)
    (session : Session) (batch : List Mutation) (queue : WatchQueue) :
    let d := (Document.ofPlainText s).changeAll changes
    let w : Watcher := ⟨queue, session, d⟩
    (e.apply d x).2.Attributes (Pass.ledger ⟨e, d, x⟩) ∧
      (session.handleBatch batch d).1.Attributes
        ((session.passes batch d).flatMap Pass.ledger) ∧
      (∀ report, (w.run x).1 = some report →
        report.Attributes ((w.passes x queue.events).flatMap Pass.ledger)) ∧
      ∀ ps : List Pass, (∀ p ∈ ps, p.document.WellFormed) →
        (Report.mergeAll (ps.map Pass.report)).Attributes (ps.flatMap Pass.ledger) := by
  intro d w
  have wf : d.WellFormed :=
    Document.wellFormed_changeAll (Document.wellFormed_ofPlainText s) changes
  refine ⟨?_, ?_, ?_, fun ps => Pass.attributes_mergeAll⟩
  · exact Report.attributes_of_tally (Pass.summary_report ⟨e, d, x⟩ wf)
      fun i hi => Pass.occurrences_pos hi
  · rw [Session.report_handleBatch]
    exact Pass.attributes_mergeAll fun p hp => (Session.of_mem_passes wf hp).1
  · intro report hreport
    rw [report_of_run hreport]
    exact Pass.attributes_mergeAll fun p hp => wellFormed_of_mem_passes wf hp

/-- The placeholder of a pattern is changed during a run: both masks are counted to the old one. -/
theorem summary_attribution_changed :
    let d := (Document.ofPlainText "").changeAll [.host (.appendText 0 "Acme")]
    let session : Session := ⟨.default, some (.ofRules [.literal "Acme" "X"] .default)⟩
    let queue : WatchQueue :=
      ⟨2, [.mutations [.added 1], .rules [.literal "Acme" "Y"]], false, true⟩
    let w : Watcher := ⟨queue, session, d⟩
    let report : Report := ⟨2, [⟨"Acme", "X", 2⟩], [], [], 0⟩
    (w.run 0).1 = some report ∧
      (w.passes 0 queue.events).flatMap Pass.ledger = [⟨"Acme", "X", 1⟩, ⟨"Acme", "Y", 1⟩] ∧
      report.Attributes ((w.passes 0 queue.events).flatMap Pass.ledger) := by
  intro d session queue w report
  have hrun : (w.run 0).1 = some report := by decide +kernel
  have hledger : (w.passes 0 queue.events).flatMap Pass.ledger =
      [⟨"Acme", "X", 1⟩, ⟨"Acme", "Y", 1⟩] := by decide +kernel
  have hall := summary_attribution "" [.host (.appendText 0 "Acme")] (.ofRules [] .default) 0
    session [] queue
  exact ⟨hrun, hledger, hall.2.2.1 report hrun⟩

/-- Two rules with one pattern, the first for whole words only: the mask of the second is counted to
the placeholder of the first. -/
theorem not_amount_eq : ¬∀ (rules : RuleList) (text pattern replacement : String),
    let d := Document.ofPlainText text
    let e := Engine.ofRules rules .default
    amount (e.apply d root).2.summary pattern replacement =
      amount (Pass.ledger ⟨e, d, root⟩) pattern replacement := by
  intro h
  have hx := h [⟨"Acme", "X", true, false, false⟩, ⟨"Acme", "Y", false, false, false⟩]
    "Acme xAcme" "Acme" "X"
  revert hx
  decide +kernel

end Watcher

end TextMasking
