import Mathlib.Data.List.Sort
import TextMasking.Masking.Pass
import TextMasking.Proofs.Rules.Order

/-! # Where the order of storage matters

Putting rules into the order of application is an insertion sort (`bySpecificity_eq`), and it keeps
the order of rules with equally long patterns (`ofLength_bySpecificity`).  There is one list only
that is ordered by length and has given rules of each length in a given order (`eq_of_ofLength_eq`).
So storing rules in another order makes a difference only for rules with equally long patterns:
where these stay in order, the matchers, the rules without one and all passes are the same
(`MatcherList.compile_congr`).

What becomes of one rule does not depend on the others, so each rule has a matcher or is skipped
(`MatcherList.division`). -/

namespace TextMasking

namespace RuleList

/-- A pattern that is not shorter comes first. -/
def Precedes (a b : Rule) : Prop := b.specificity ≤ a.specificity

instance : DecidableRel Precedes := fun a b =>
  inferInstanceAs (Decidable (b.specificity ≤ a.specificity))

instance : Std.Total Precedes := ⟨fun a b => Nat.le_total b.specificity a.specificity⟩

instance : IsTrans Rule Precedes := ⟨fun _ _ _ hab hbc => Nat.le_trans hbc hab⟩

/-- The rules whose patterns have a given length. -/
def ofLength (rules : RuleList) (n : ℕ) : RuleList :=
  rules.filter fun r => r.specificity = n

variable {rules rules' : RuleList}

/-! ### A stable sort -/

theorem insertBySpecificity_eq (rule : Rule) (rules : RuleList) :
    rules.insertBySpecificity rule = rules.orderedInsert Precedes rule := by
  induction rules with
  | nil => rfl
  | cons other rest ih =>
      rw [insertBySpecificity, List.orderedInsert_cons, ih]
      rfl

theorem bySpecificity_eq (rules : RuleList) :
    rules.bySpecificity = rules.insertionSort Precedes := by
  induction rules with
  | nil => rfl
  | cons rule rest ih =>
      rw [List.insertionSort_cons, ← ih, ← insertBySpecificity_eq]
      rfl

theorem bySpecificity_perm (rules : RuleList) : rules.bySpecificity.Perm rules := by
  rw [bySpecificity_eq]
  exact List.perm_insertionSort Precedes rules

theorem bySpecificity_pairwise (rules : RuleList) : rules.bySpecificity.Pairwise Precedes := by
  rw [bySpecificity_eq]
  exact List.pairwise_insertionSort Precedes rules

/-- A rule is put in front of those with patterns of its length. -/
theorem ofLength_insertBySpecificity (rule : Rule) (rules : RuleList) (n : ℕ) :
    (rules.insertBySpecificity rule).ofLength n = ofLength (rule :: rules) n := by
  induction rules with
  | nil => rfl
  | cons other rest ih =>
      rw [insertBySpecificity]
      split_ifs with h
      · rfl
      · unfold ofLength at ih ⊢
        rw [List.filter_cons, ih]
        by_cases ho : other.specificity = n
        · have hr : rule.specificity ≠ n := by omega
          simp [ho, hr]
        · simp [List.filter_cons, ho]

/-- **The order of equals is kept.** -/
theorem ofLength_bySpecificity (rules : RuleList) (n : ℕ) :
    rules.bySpecificity.ofLength n = rules.ofLength n := by
  induction rules with
  | nil => rfl
  | cons rule rest ih =>
      change ofLength (insertBySpecificity rule (bySpecificity rest)) n = _
      rw [ofLength_insertBySpecificity]
      unfold ofLength at ih ⊢
      rw [List.filter_cons, List.filter_cons, ih]

/-! ### The only sorted list -/

theorem mem_of_ofLength_eq (h : ∀ n, rules.ofLength n = rules'.ofLength n) {r : Rule}
    (hr : r ∈ rules) : r ∈ rules' := by
  have hmem : r ∈ rules.ofLength r.specificity := List.mem_filter.mpr ⟨hr, by simp⟩
  rw [h] at hmem
  exact List.mem_of_mem_filter hmem

/-- **Ordered rules are determined by those of each length.** -/
theorem eq_of_ofLength_eq (hr : rules.Pairwise Precedes) (hr' : rules'.Pairwise Precedes)
    (h : ∀ n, rules.ofLength n = rules'.ofLength n) : rules = rules' := by
  induction rules generalizing rules' with
  | nil =>
      rw [eq_comm, List.eq_nil_iff_forall_not_mem]
      intro r hmem
      exact absurd (mem_of_ofLength_eq (fun n => (h n).symm) hmem) List.not_mem_nil
  | cons a rules ih =>
      cases rules' with
      | nil => exact absurd (mem_of_ofLength_eq h List.mem_cons_self) List.not_mem_nil
      | cons b rules' =>
          obtain ⟨ha, hr⟩ := List.pairwise_cons.mp hr
          obtain ⟨hb, htail⟩ := List.pairwise_cons.mp hr'
          -- each head is among the rules of the other list, so none is longer
          have hab : a.specificity = b.specificity := by
            refine Nat.le_antisymm ?_ ?_
            · rcases List.mem_cons.mp (mem_of_ofLength_eq h List.mem_cons_self) with rfl | hmem
              · exact Nat.le_refl _
              · exact hb a hmem
            · have hmem := mem_of_ofLength_eq (fun n => (h n).symm) (r := b) List.mem_cons_self
              rcases List.mem_cons.mp hmem with rfl | hmem
              · exact Nat.le_refl _
              · exact ha b hmem
          obtain rfl : a = b := by
            have hhead := h a.specificity
            unfold ofLength at hhead
            rw [List.filter_cons_of_pos (by simp), List.filter_cons_of_pos (by simp [hab])] at hhead
            exact (List.cons.inj hhead).1
          congr 1
          refine ih hr htail fun n => ?_
          have hn := h n
          unfold ofLength at hn ⊢
          by_cases ha : a.specificity = n
          · rw [List.filter_cons_of_pos (by simp [ha]),
              List.filter_cons_of_pos (by simp [ha])] at hn
            exact (List.cons.inj hn).2
          · rwa [List.filter_cons_of_neg (by simp [ha]),
              List.filter_cons_of_neg (by simp [ha])] at hn

/-- The rules of a length that no rule has are none, also in another order. -/
theorem ofLength_eq_of_perm (hperm : rules.Perm rules')
    (hties : ∀ r ∈ rules, rules.ofLength r.specificity = rules'.ofLength r.specificity) (n : ℕ) :
    rules.ofLength n = rules'.ofLength n := by
  by_cases hn : ∃ r ∈ rules, r.specificity = n
  · obtain ⟨r, hr, rfl⟩ := hn
    exact hties r hr
  · push Not at hn
    have hnil : rules.ofLength n = [] := by
      unfold ofLength
      rw [List.filter_eq_nil_iff]
      simpa using hn
    have hnil' := hperm.filter fun r => r.specificity = n
    unfold ofLength at hnil ⊢
    rw [hnil] at hnil' ⊢
    exact hnil'.nil_eq

/-- **The order of storage matters for ties only.** -/
theorem bySpecificity_eq_of_perm (hperm : rules.Perm rules')
    (hties : ∀ r ∈ rules, rules.ofLength r.specificity = rules'.ofLength r.specificity) :
    rules.bySpecificity = rules'.bySpecificity := by
  refine eq_of_ofLength_eq (bySpecificity_pairwise rules) (bySpecificity_pairwise rules')
    fun n => ?_
  rw [ofLength_bySpecificity, ofLength_bySpecificity]
  exact ofLength_eq_of_perm hperm hties n

end RuleList

/-! ### Matchers and skipped rules -/

namespace MatcherList

open RuleList (Precedes ofLength)

/-- The rule has no matcher, and this is said of it. -/
def Skips (r : Rule) (skip : SkippedRule) : Prop :=
  ∃ e, Matcher.compile r = .error e ∧ skip = ⟨r.pattern, e.message⟩

/-- The rules have matchers or are skipped: `failed` are those without a matcher.  Both are ordered
by length and as stored among equals, and each is treated by itself. -/
structure Division (rules failed : RuleList) (ms : MatcherList) : Prop where
  perm : (ms.matchers.map (·.rule) ++ failed).Perm rules
  compiled : ∀ m ∈ ms.matchers, Matcher.compile m.rule = .ok m
  skipped : List.Forall₂ Skips failed ms.skipped
  longest_first : (ms.matchers.map (·.rule)).Pairwise Precedes ∧ failed.Pairwise Precedes
  ties : ∀ n, (ofLength (ms.matchers.map (·.rule)) n).Sublist (rules.ofLength n) ∧
    (failed.ofLength n).Sublist (rules.ofLength n)

/-- The rules without a matcher. -/
def failedOf (rules : RuleList) : RuleList :=
  rules.filter fun r => (Matcher.compile r).toOption.isNone

/-- Rules in order are divided one by one. -/
theorem divide (rules : RuleList) :
    let tried := rules.map fun r => (r, Matcher.compile r)
    let matchers := tried.filterMap fun (_, m) => m.toOption
    matchers.map (·.rule) = rules.filter (fun r => (Matcher.compile r).toOption.isSome) ∧
      (∀ m ∈ matchers, Matcher.compile m.rule = .ok m) ∧
      List.Forall₂ Skips (failedOf rules) (tried.filterMap fun (r, m) =>
        match m with
        | .ok _ => none
        | .error e => some ⟨r.pattern, e.message⟩) := by
  induction rules with
  | nil => simp [failedOf]
  | cons r rules ih =>
      obtain ⟨hrules, hcompiled, hskipped⟩ := ih
      unfold failedOf at hskipped ⊢
      cases hr : Matcher.compile r with
      | ok m =>
          have hm := Matcher.rule_of_compile hr
          refine ⟨?_, ?_, ?_⟩
          · simpa [hr, Except.toOption, hm] using hrules
          · simpa [hr, Except.toOption, hm] using hcompiled
          · simpa [hr, Except.toOption] using hskipped
      | error e =>
          refine ⟨?_, ?_, ?_⟩
          · simpa [hr, Except.toOption] using hrules
          · simpa [hr, Except.toOption] using hcompiled
          · have hskip : Skips r ⟨r.pattern, e.message⟩ := ⟨e, hr, rfl⟩
            simpa [hr, Except.toOption, hskip] using hskipped

theorem division (rules : RuleList) :
    Division rules (failedOf rules.bySpecificity) (compile rules) := by
  obtain ⟨hrules, hcompiled, hskipped⟩ := divide rules.bySpecificity
  have hpairwise := RuleList.bySpecificity_pairwise rules
  have hties (P : Rule → Bool) (n : ℕ) :
      (ofLength (rules.bySpecificity.filter P) n).Sublist (rules.ofLength n) := by
    rw [← RuleList.ofLength_bySpecificity rules]
    exact List.filter_sublist.filter _
  refine ⟨?_, hcompiled, hskipped, ?_, fun n => ?_⟩
  · refine List.Perm.trans ?_ (RuleList.bySpecificity_perm rules)
    rw [compile, hrules, failedOf]
    have hsplit := List.filter_append_perm
      (fun r => (Matcher.compile r).toOption.isSome) rules.bySpecificity
    simpa only [Option.not_isSome] using hsplit
  · rw [compile, hrules]
    exact ⟨hpairwise.filter _, hpairwise.filter _⟩
  · rw [compile, hrules]
    exact ⟨hties _ n, hties _ n⟩

end MatcherList

/-- Passes depend on the matchers and the options only. -/
theorem Engine.apply_eq_of_matchers {e g : Engine} (hm : e.matchers = g.matchers)
    (ho : e.options = g.options) (d : Document) (root : NodeId) :
    e.apply d root = g.apply d root := by
  rw [Engine.apply, Engine.apply, hm, ho]

namespace MatcherList

/-- **Rules that are stored in another order have the same matchers,** if those with equally long
patterns are in the same order.  Each rule has a matcher or is skipped, longest pattern first, and
the passes over all documents are the same. -/
theorem compile_congr {rules rules' : RuleList} (hperm : rules.Perm rules')
    (hties : ∀ r ∈ rules, rules.ofLength r.specificity = rules'.ofLength r.specificity) :
    compile rules = compile rules' ∧
      (∃ failed, Division rules failed (compile rules) ∧ Division rules' failed (compile rules)) ∧
      ∀ (options : Options) (d : Document) (root : NodeId),
        (Engine.ofRules rules options).apply d root =
          (Engine.ofRules rules' options).apply d root := by
  have hsorted := RuleList.bySpecificity_eq_of_perm hperm hties
  have hcompile : compile rules = compile rules' := by rw [compile, compile, hsorted]
  refine ⟨hcompile, ⟨failedOf rules.bySpecificity, division rules, ?_⟩, fun options d root => ?_⟩
  · rw [hcompile, hsorted]
    exact division rules'
  · exact Engine.apply_eq_of_matchers (e := .ofRules rules options) (g := .ofRules rules' options)
      hcompile rfl d root

/-- A longer rule and one without a matcher are stored elsewhere; the two of length two stay in
order. -/
theorem compile_congr_moved :
    let rules : RuleList := [.literal "ab" "1", .literal "John Smith" "2", .literal "cd" "3",
      .literal " " "4"]
    let rules' : RuleList := [.literal " " "4", .literal "ab" "1", .literal "cd" "3",
      .literal "John Smith" "2"]
    rules.Perm rules' ∧
      (∀ r ∈ rules, rules.ofLength r.specificity = rules'.ofLength r.specificity) ∧
      compile rules = compile rules' ∧
      (compile rules).matchers.map (·.rule.replacement) = ["2", "1", "3"] ∧
      (compile rules).skipped = [⟨" ", RuleError.emptyPattern.message⟩] :=
  ⟨by decide, by decide, (compile_congr (by decide) (by decide)).1, by decide +kernel,
    by decide +kernel⟩

end MatcherList

end TextMasking
