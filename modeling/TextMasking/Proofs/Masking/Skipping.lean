import TextMasking.Proofs.Document.History
import TextMasking.Proofs.Masking.Pass
import TextMasking.Proofs.Rules.Order

/-! # Rules that are left out

In a pass each rule has its turn (`Rule.turn`, `Engine.apply_eq_foldl_turn`): a rule without a
matcher or with a matcher that is given up is listed and does nothing else (`Rule.skip?`), and the
others never look at the list.  So a pass does what it does without the rules that it leaves out:
it makes the same document, and a report that lacks no more than the entry
(`Engine.apply_without_skipped`). -/

namespace TextMasking

/-! ### Reports with another entry -/

namespace Report

/-- The first report lists a skipped rule, and otherwise says what the second one says. -/
inductive Without (skip : SkippedRule) : Report → Report → Prop
  | compile (r : Report) (a b : List SkippedRule) :
      Without skip { r with compileSkips := a ++ skip :: b } { r with compileSkips := a ++ b }
  | scan (r : Report) (a b : List SkippedRule) :
      Without skip { r with scanSkips := a ++ skip :: b } { r with scanSkips := a ++ b }

/-- What holds of two reports still holds after a turn has added the same to both. -/
structure Congruence (R : Report → Report → Prop) : Prop where
  record : ∀ {r r'} (item : SummaryItem), R r r' → R (r.record item) (r'.record item)
  left : ∀ {r r'}, R r r' → R { r with unitsLeftUnmodified := r.unitsLeftUnmodified + 1 }
    { r' with unitsLeftUnmodified := r'.unitsLeftUnmodified + 1 }
  skip : ∀ {r r'} (s : SkippedRule), R r r' → R { r with scanSkips := r.scanSkips ++ [s] }
    { r' with scanSkips := r'.scanSkips ++ [s] }

theorem congruence_without (skip : SkippedRule) : Congruence (Without skip) where
  record item h := by
    cases h with
    | compile r a b => exact .compile (r.record item) a b
    | scan r a b => exact .scan (r.record item) a b
  left h := by
    cases h with
    | compile r a b =>
        exact .compile { r with unitsLeftUnmodified := r.unitsLeftUnmodified + 1 } a b
    | scan r a b =>
        exact .scan { r with unitsLeftUnmodified := r.unitsLeftUnmodified + 1 } a b
  skip s h := by
    cases h with
    | compile r a b => exact .compile { r with scanSkips := r.scanSkips ++ [s] } a b
    | scan r a b =>
        have hscan : Without skip _ _ := .scan r a (b ++ [s])
        rwa [← List.append_assoc, ← List.cons_append, ← List.append_assoc] at hscan

theorem congruence_compileSkips (c : List SkippedRule) :
    Congruence fun r r' => r = { r' with compileSkips := c } where
  record item h := by rw [h]; rfl
  left h := by rw [h]
  skip s h := by rw [h]

end Report

namespace Matcher

/-- What a matcher does to a document does not depend on the report, and what it adds to a report
neither. -/
theorem apply_congr {R : Report → Report → Prop} (hR : Report.Congruence R) {r r' : Report}
    (h : R r r') (m : Matcher) (x : NodeId) (options : Options) (d : Document) :
    (m.apply x options (d, r)).1 = (m.apply x options (d, r')).1 ∧
      R (m.apply x options (d, r)).2 (m.apply x options (d, r')).2 := by
  unfold apply
  dsimp only
  cases m.findings options (d.passages x options) with
  | error fault => exact ⟨rfl, hR.skip _ h⟩
  | ok fs =>
      refine List.foldl_rel (r := fun (s s' : Document × Report) => s.1 = s'.1 ∧ R s.2 s'.2)
        ⟨rfl, h⟩ ?_
      rintro f - ⟨d₁, r₁⟩ ⟨d₂, r₂⟩ ⟨rfl, h⟩
      unfold replaceFound
      dsimp only
      cases d₁.replaceText f.id (Fragment.ofMatches f.text f.found) with
      | error e => exact ⟨rfl, hR.left h⟩
      | ok new => exact ⟨rfl, hR.record _ h⟩

/-- What a rule does to a document does not depend on the report. -/
theorem document_apply (m : Matcher) (x : NodeId) (options : Options) (d : Document)
    (r r' : Report) : (m.apply x options (d, r)).1 = (m.apply x options (d, r')).1 :=
  (apply_congr (R := fun _ _ => True)
    ⟨fun _ _ => trivial, fun _ => trivial, fun _ _ => trivial⟩ trivial m x options d).1

/-- A matcher leaves the list of rules without a matcher alone. -/
theorem apply_compileSkips (m : Matcher) (x : NodeId) (options : Options) (d : Document)
    (r : Report) (c : List SkippedRule) :
    m.apply x options (d, { r with compileSkips := c }) =
      ((m.apply x options (d, r)).1, { (m.apply x options (d, r)).2 with compileSkips := c }) := by
  have hsame : (fun r r' => r = { r' with compileSkips := c }) { r with compileSkips := c } r := rfl
  obtain ⟨hd, hr⟩ := apply_congr (Report.congruence_compileSkips c) hsame m x options d
  exact Prod.ext hd hr

theorem compileSkips_apply (m : Matcher) (x : NodeId) (options : Options) (d : Document)
    (r : Report) : (m.apply x options (d, r)).2.compileSkips = r.compileSkips := by
  have h := m.apply_compileSkips x options d r r.compileSkips
  exact congrArg (fun s => s.2.compileSkips) h

end Matcher

/-! ### Turns -/

namespace Rule

/-- The turn of a rule in a pass. -/
def turn (x : NodeId) (options : Options) (state : Document × Report) (rule : Rule) :
    Document × Report :=
  match Matcher.compile rule with
  | .error e =>
    (state.1, { state.2 with compileSkips := state.2.compileSkips ++ [⟨rule.pattern, e.message⟩] })
  | .ok m => m.apply x options state

/-- The matcher of a rule, if it has one. -/
def matcher? (rule : Rule) : Option Matcher :=
  (Matcher.compile rule).toOption

/-- How a rule without a matcher is listed. -/
def compileSkip? (rule : Rule) : Option SkippedRule :=
  match Matcher.compile rule with
  | .ok _ => none
  | .error e => some ⟨rule.pattern, e.message⟩

/-- How a rule is listed if it is left out when its turn comes in a pass over a document. -/
def skip? (rule : Rule) (x : NodeId) (options : Options) (d : Document) : Option SkippedRule :=
  match Matcher.compile rule with
  | .error e => some ⟨rule.pattern, e.message⟩
  | .ok m =>
    match m.findings options (d.passages x options) with
    | .error fault => some ⟨rule.pattern, fault.message rule.pattern⟩
    | .ok _ => none

variable {rule : Rule} {x : NodeId} {options : Options} {state : Document × Report}

theorem turn_congr {R : Report → Report → Prop} (hR : Report.Congruence R)
    (hcompile : ∀ {r r'} (s : SkippedRule), R r r' →
      R { r with compileSkips := r.compileSkips ++ [s] }
        { r' with compileSkips := r'.compileSkips ++ [s] })
    {state' : Document × Report} (hd : state.1 = state'.1) (h : R state.2 state'.2) :
    (turn x options state rule).1 = (turn x options state' rule).1 ∧
      R (turn x options state rule).2 (turn x options state' rule).2 := by
  obtain ⟨d, r⟩ := state
  obtain ⟨_, r'⟩ := state'
  obtain rfl : d = _ := hd
  unfold turn
  cases Matcher.compile rule with
  | error e => exact ⟨rfl, hcompile _ h⟩
  | ok m => exact m.apply_congr hR h x options d

/-- **A rule that is left out is listed and does nothing else.** -/
theorem turn_of_skip? {skip : SkippedRule} (h : rule.skip? x options state.1 = some skip) :
    (turn x options state rule).1 = state.1 ∧
      (turn x options state rule).2.Without skip state.2 := by
  obtain ⟨d, r⟩ := state
  unfold skip? at h
  unfold turn
  cases hm : Matcher.compile rule with
  | error e =>
      rw [hm] at h
      cases h
      have hlist : Report.Without ⟨rule.pattern, e.message⟩ _ _ := .compile r r.compileSkips []
      rw [List.append_nil] at hlist
      exact ⟨rfl, hlist⟩
  | ok m =>
      rw [hm] at h
      dsimp only at h ⊢
      unfold Matcher.apply
      dsimp only
      split at h
      · rename_i fault hf
        cases h
        rw [hf, Matcher.rule_of_compile hm]
        have hlist : Report.Without ⟨rule.pattern, fault.message rule.pattern⟩ _ _ :=
          .scan r r.scanSkips []
        rw [List.append_nil] at hlist
        exact ⟨rfl, hlist⟩
      · cases h

/-- An entry that a turn adds to the lists is that of its rule. -/
theorem mem_skips_turn {skip : SkippedRule}
    (h : skip ∈ (turn x options state rule).2.compileSkips ++
      (turn x options state rule).2.scanSkips) :
    skip ∈ state.2.compileSkips ++ state.2.scanSkips ∨
      rule.skip? x options state.1 = some skip := by
  obtain ⟨d, r⟩ := state
  unfold turn at h
  unfold skip?
  cases hm : Matcher.compile rule with
  | error e =>
      rw [hm] at h
      simp only [List.mem_append, List.mem_singleton] at h ⊢
      rcases h with (h | rfl) | h
      · exact .inl (.inl h)
      · exact .inr rfl
      · exact .inl (.inr h)
  | ok m =>
      rw [hm] at h
      unfold Matcher.apply at h
      dsimp only at h ⊢
      cases hf : m.findings options (d.passages x options) with
      | error fault =>
          rw [hf, Matcher.rule_of_compile hm] at h
          simp only [List.mem_append, List.mem_singleton] at h ⊢
          rcases h with h | h | rfl
          · exact .inl (.inl h)
          · exact .inl (.inr h)
          · exact .inr rfl
      | ok fs =>
          rw [hf] at h
          obtain ⟨hc, hs⟩ := m.skips_foldl_replaceFound fs d r
          rw [hc, hs] at h
          exact .inl h

/-- **Every entry is that of a rule that was left out at its turn.** -/
theorem exists_skip?_of_mem {rules : RuleList} {skip : SkippedRule}
    (h : skip ∈ (rules.foldl (turn x options) state).2.compileSkips ++
      (rules.foldl (turn x options) state).2.scanSkips) :
    skip ∈ state.2.compileSkips ++ state.2.scanSkips ∨
      ∃ a rule b, rules = a ++ rule :: b ∧
        rule.skip? x options (a.foldl (turn x options) state).1 = some skip := by
  induction rules generalizing state with
  | nil => exact .inl h
  | cons rule rules ih =>
      rw [List.foldl_cons] at h
      rcases ih h with h | ⟨a, rule', b, rfl, hskip⟩
      · exact (mem_skips_turn h).imp_right fun h => ⟨[], rule, rules, rfl, h⟩
      · exact .inr ⟨rule :: a, rule', b, rfl, hskip⟩

end Rule

/-! ### Passes -/

namespace Engine

/-- The matchers of rules do in order what the rules do at their turns, if the rules without a
matcher are listed before. -/
theorem foldl_turn (rules : RuleList) (x : NodeId) (options : Options) (d : Document)
    (r : Report) :
    rules.foldl (Rule.turn x options) (d, r) =
      (rules.filterMap Rule.matcher?).foldl
        (fun state m => m.apply x options state)
        (d, { r with compileSkips := r.compileSkips ++ rules.filterMap Rule.compileSkip? }) := by
  induction rules generalizing d r with
  | nil => simp
  | cons rule rules ih =>
      rw [List.foldl_cons, Rule.turn]
      cases hm : Matcher.compile rule with
      | error e =>
          have hskip : rule.compileSkip? = some ⟨rule.pattern, e.message⟩ := by
            rw [Rule.compileSkip?, hm]
          have hnone : rule.matcher? = none := by
            rw [Rule.matcher?, hm]
            rfl
          have happend := List.append_cons r.compileSkips ⟨rule.pattern, e.message⟩
            (rules.filterMap Rule.compileSkip?)
          rw [ih, List.filterMap_cons_none hnone, List.filterMap_cons_some hskip, happend]
      | ok m =>
          have hskip : rule.compileSkip? = none := by
            rw [Rule.compileSkip?, hm]
          have hsome : rule.matcher? = some m := by
            rw [Rule.matcher?, hm]
            rfl
          have h := ih (m.apply x options (d, r)).1 (m.apply x options (d, r)).2
          rw [m.compileSkips_apply] at h
          rw [List.filterMap_cons_some hsome, List.filterMap_cons_none hskip, List.foldl_cons,
            m.apply_compileSkips]
          exact h

/-- A pass lists the rules without a matcher. -/
theorem compileSkips_apply (e : Engine) (d : Document) (x : NodeId) :
    (e.apply d x).2.compileSkips = e.matchers.skipped := by
  have hfold (ms : List Matcher) (d : Document) (r : Report) :
      (ms.foldl (fun state m => m.apply x e.options state) (d, r)).2.compileSkips =
        r.compileSkips := by
    induction ms generalizing d r with
    | nil => rfl
    | cons m ms ih => exact (ih _ _).trans (m.compileSkips_apply x e.options d r)
  exact hfold _ d _

/-- **A pass is the turns of its rules,** in the order of application. -/
theorem apply_eq_foldl_turn (rules : RuleList) (options : Options) (d : Document) (x : NodeId) :
    (ofRules rules options).apply d x =
      rules.bySpecificity.foldl (Rule.turn x options) (d, .empty) := by
  have hcompile : MatcherList.compile rules =
      ⟨rules.bySpecificity.filterMap Rule.matcher?,
        rules.bySpecificity.filterMap Rule.compileSkip?⟩ := by
    unfold MatcherList.compile
    dsimp only
    rw [List.filterMap_map, List.filterMap_map]
    rfl
  have happly : (ofRules rules options).apply d x =
      (MatcherList.compile rules).matchers.foldl (fun state m => m.apply x options state)
        (d, { Report.empty with compileSkips := (MatcherList.compile rules).skipped }) := rfl
  rw [happly, hcompile, foldl_turn]
  rfl

/-- **A skipped rule behaves as if it were not there.**  A rule that a pass leaves out at its turn,
that is, after the rules that are applied before it, may be taken out of the list: the pass makes
the same document, and a report that lacks one entry for the rule.  Every entry of a report is that
of such a rule. -/
theorem apply_without_skipped (rules : RuleList) (options : Options) (d : Document) (x : NodeId) :
    let full := (ofRules rules options).apply d x
    (∀ pre rule post skip, rules = pre ++ rule :: post →
      rule.skip? x options ((ofRules (RuleList.ahead pre rule post) options).apply d x).1 =
        some skip →
      full.1 = ((ofRules (pre ++ post) options).apply d x).1 ∧
        full.2.Without skip ((ofRules (pre ++ post) options).apply d x).2) ∧
    ∀ skip ∈ full.2.compileSkips ++ full.2.scanSkips,
      ∃ pre rule post, rules = pre ++ rule :: post ∧
        rule.skip? x options ((ofRules (RuleList.ahead pre rule post) options).apply d x).1 =
          some skip := by
  intro full
  constructor
  · rintro pre rule post skip rfl hskip
    have hfull : full = _ := apply_eq_foldl_turn _ _ _ _
    rw [apply_eq_foldl_turn] at hskip
    rw [hfull, apply_eq_foldl_turn, RuleList.bySpecificity_cut,
      RuleList.bySpecificity_uncut pre rule, List.foldl_append, List.foldl_append, List.foldl_cons]
    -- the rules behind it do the same with and without the entry
    refine List.foldl_rel
      (r := fun (s s' : Document × Report) => s.1 = s'.1 ∧ s.2.Without skip s'.2)
      (Rule.turn_of_skip? hskip) ?_
    rintro other - s s' ⟨hd, h⟩
    refine Rule.turn_congr (Report.congruence_without skip) ?_ hd h
    intro r r' entry h
    cases h with
    | compile r a b =>
        have hlist : Report.Without skip _ _ := .compile r a (b ++ [entry])
        rwa [← List.append_assoc, ← List.cons_append, ← List.append_assoc] at hlist
    | scan r a b =>
        exact .scan { r with compileSkips := r.compileSkips ++ [entry] } a b
  · intro skip hskip
    have hfull : full = _ := apply_eq_foldl_turn _ _ _ _
    rw [hfull] at hskip
    rcases Rule.exists_skip?_of_mem hskip with hempty | ⟨a, rule, b, hrules, h⟩
    · cases hempty
    · obtain ⟨pre, post, rfl, rfl⟩ := RuleList.exists_cut_of_bySpecificity hrules
      exact ⟨pre, rule, post, rfl, by rw [apply_eq_foldl_turn]; exact h⟩

/-- A rule that matches too often in the last text leaves the first one alone as well. -/
theorem apply_without_skipped_last_text :
    let d := Document.empty.editAll [.appendText 0 "a bb", .appendText 0 " a a a"]
    let full := (ofRules [.literal "a" "[A]", .literal "bb" "[B]"] ⟨2, true⟩).apply d Document.root
    let rest := (ofRules [.literal "bb" "[B]"] ⟨2, true⟩).apply d Document.root
    let skip : SkippedRule :=
      ⟨"a", "Rule 'a' faulted while scanning: more than 2 matches in a single text unit"⟩
    (Rule.literal "a" "[A]").skip? Document.root ⟨2, true⟩ rest.1 = some skip ∧
      full.1 = rest.1 ∧ full.2.Without skip rest.2 := by
  intro d full rest skip
  have hskip : (Rule.literal "a" "[A]").skip? Document.root ⟨2, true⟩ rest.1 = some skip := by
    decide +kernel
  exact ⟨hskip, (apply_without_skipped [.literal "a" "[A]", .literal "bb" "[B]"] ⟨2, true⟩ d
    Document.root).1 [] (.literal "a" "[A]") [.literal "bb" "[B]"] skip rfl hskip⟩

end Engine

end TextMasking
