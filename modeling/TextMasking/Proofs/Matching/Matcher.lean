import Mathlib.Tactic.SplitIfs
import TextMasking.Matching.Matcher

/-! # Matchers of rules

What a rule becomes when it is made ready: the matcher of a literal rule, or of a pattern that is a
regular expression by itself and inside its wrapping (`Matcher.compile_cases`).  Every matcher of a
list of rules is that of one of them (`MatcherList.exists_rule_of_mem_compile`). -/

namespace TextMasking

namespace Matcher

/-- A matcher is made of a literal pattern or of two regular expressions that can be read. -/
theorem compile_cases {rule : Rule} {m : Matcher} (h : compile rule = .ok m) :
    m = ofLiteral rule ∨ ∃ alone wrapped, Regex.read rule.pattern.toList = .ok alone ∧
      Regex.read (wrapSource rule ("(?:" ++ rule.pattern ++ ")") false).toList = .ok wrapped ∧
      m = ⟨rule, wrapSource rule ("(?:" ++ rule.pattern ++ ")") false, wrapped,
        rule.wholeWord⟩ := by
  rw [compile] at h
  split_ifs at h with hblank hlong hregex
  · rw [ofRegex] at h
    cases halone : Regex.read rule.pattern.toList with
    | error e =>
        simp only [halone] at h
        cases h
    | ok alone =>
        cases hwrapped : Regex.read
            (wrapSource rule ("(?:" ++ rule.pattern ++ ")") false).toList with
        | error e =>
            simp only [halone, hwrapped] at h
            cases h
        | ok wrapped =>
            simp only [halone, hwrapped] at h
            cases h
            exact .inr ⟨alone, wrapped, rfl, rfl, rfl⟩
  · cases h
    exact .inl rfl

/-- A literal rule has the matcher of its pieces. -/
theorem ofLiteral_of_compile {rule : Rule} {m : Matcher} (h : compile rule = .ok m)
    (hlit : rule.isRegex = false) : m = ofLiteral rule := by
  rw [compile, hlit] at h
  split_ifs at h
  · rename_i hregex
    cases hregex
  · cases h
    rfl

theorem rule_of_compile {rule : Rule} {m : Matcher} (h : compile rule = .ok m) :
    m.rule = rule := by
  obtain rfl | ⟨_, _, -, -, rfl⟩ := compile_cases h <;> rfl

end Matcher

namespace RuleList

theorem mem_of_mem_insertBySpecificity {rule r : Rule} {rules : RuleList}
    (h : r ∈ rules.insertBySpecificity rule) : r = rule ∨ r ∈ rules := by
  induction rules with
  | nil => exact .inl (List.mem_singleton.mp h)
  | cons other rest ih =>
      rw [insertBySpecificity] at h
      split_ifs at h
      · exact List.mem_cons.mp h
      · rcases List.mem_cons.mp h with rfl | h
        · exact .inr List.mem_cons_self
        · exact (ih h).imp_right (List.mem_cons_of_mem _)

theorem mem_of_mem_bySpecificity {r : Rule} {rules : RuleList} (h : r ∈ rules.bySpecificity) :
    r ∈ rules := by
  induction rules with
  | nil => cases h
  | cons rule rest ih =>
      rcases mem_of_mem_insertBySpecificity h with rfl | h
      · exact List.mem_cons_self
      · exact List.mem_cons_of_mem _ (ih h)

end RuleList

/-- Every matcher is that of one of the rules. -/
theorem MatcherList.exists_rule_of_mem_compile {rules : RuleList} {m : Matcher}
    (h : m ∈ (compile rules).matchers) : m.rule ∈ rules ∧ Matcher.compile m.rule = .ok m := by
  obtain ⟨⟨r, res⟩, hmem, hm⟩ := List.mem_filterMap.mp h
  obtain ⟨r', hr, e⟩ := List.mem_map.mp hmem
  cases e
  cases hc : Matcher.compile r with
  | error e =>
      rw [hc] at hm
      cases hm
  | ok m' =>
      rw [hc] at hm
      cases hm
      rw [Matcher.rule_of_compile hc]
      exact ⟨RuleList.mem_of_mem_bySpecificity hr, hc⟩

end TextMasking
