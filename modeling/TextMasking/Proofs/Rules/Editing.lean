import Mathlib.Data.List.DropRight
import Mathlib.Tactic.SplitIfs
import TextMasking.Rules.Basic

/-! # Editing a list of rules

Rules are added and removed in steps on the list (`RuleEdit.steps`), and a step that refuses to go on
leaves what the steps before it have done.  An edit is refused before its first step that changes
anything (`RuleEdit.exec_steps`).

Adding compares the keys of the rules that are stored with that of the trimmed pattern, which is the
key of the pattern as it was given (`patternKey_trim`): so the keys of a list stay distinct and its
patterns trimmed, whatever was added to it and removed (`RuleList.Tidy`). -/

namespace TextMasking

open Unicode

/-! ### Trimming -/

namespace Text

theorem trimChars_eq (cs : List Char) :
    trimChars cs = (cs.dropWhile isBlank).rdropWhile isBlank := rfl

/-- What is left of a trimmed text begins and ends with a character that is not blank. -/
theorem trimChars_trimChars (cs : List Char) : trimChars (trimChars cs) = trimChars cs := by
  have hstart : (trimChars cs).dropWhile isBlank = trimChars cs := by
    rw [List.dropWhile_eq_self_iff]
    intro hlen
    -- the end is cut off behind the first character
    have hpre : trimChars cs <+: cs.dropWhile isBlank := List.rdropWhile_prefix isBlank _
    rw [hpre.getElem hlen]
    exact List.dropWhile_get_zero_not isBlank cs (Nat.lt_of_lt_of_le hlen hpre.length_le)
  rw [trimChars_eq (trimChars cs), hstart, trimChars_eq cs, List.rdropWhile_idempotent]

theorem trim_trim (s : String) : trim (trim s) = trim s := by
  rw [trim, trim, String.toList_ofList, trimChars_trimChars]

end Text

/-- Space around a pattern does not count. -/
theorem patternKey_trim (pattern : String) : patternKey (Text.trim pattern) = patternKey pattern := by
  rw [patternKey, patternKey, Text.trim_trim]

/-! ### Edits -/

/-- One edit of a list of rules. -/
inductive RuleEdit where
  | add (rule : Rule)
  | remove (index : Nat)
  deriving DecidableEq, Repr

namespace RuleEdit

/-- Steps on a list of rules, each of which may refuse to go on. -/
abbrev Steps := ExceptT EditError (StateM RuleList)

/-- What steps come to, and the list they leave. -/
def exec {α : Type} (x : Steps α) (rules : RuleList) : Except EditError α × RuleList :=
  x.run.run rules

/-- Refuses to go on unless a condition holds. -/
def ensure (condition : Bool) (error : EditError) : Steps Unit :=
  if condition then return () else throw error

/-- The trimmed pattern is looked at first, then the rules that are stored, and then the rule is put
behind them. -/
def addSteps (rule : Rule) : Steps Unit := do
  let pattern := Text.trim rule.pattern
  ensure (!pattern.isEmpty) .emptyPattern
  ensure (!(← get).hasPattern pattern) (.duplicatePattern pattern)
  modify (· ++ [{ rule with pattern }])

/-- The index is compared with the number of rules, and then the rule is taken out. -/
def removeSteps (index : Nat) : Steps Unit := do
  ensure (index < (← get).length) (.noSuchRule index)
  modify (·.eraseIdx index)

/-- The steps of an edit. -/
def steps : RuleEdit → Steps Unit
  | .add rule => addSteps rule
  | .remove index => removeSteps index

/-- What an edit makes of a list, or why it is refused. -/
def edited (rules : RuleList) : RuleEdit → Except EditError RuleList
  | .add rule => rules.add rule
  | .remove index => (rules.remove index).map (·.2)

/-- The list after edits in order, refused or not. -/
def after (rules : RuleList) (edits : List RuleEdit) : RuleList :=
  edits.foldl (fun rules edit => (exec edit.steps rules).2) rules

theorem exec_get {α : Type} (f : RuleList → Steps α) (rules : RuleList) :
    exec (do f (← get)) rules = exec (f rules) rules := rfl

theorem exec_ensure {α : Type} (condition : Bool) (error : EditError) (x : Steps α)
    (rules : RuleList) : exec (do ensure condition error; x) rules =
      if condition then exec x rules else (.error error, rules) := by
  cases condition <;> rfl

end RuleEdit

namespace RuleList

variable {rules more : RuleList} {rule : Rule} {index : Nat}

/-! ### When an edit is refused -/

theorem hasPattern_trim : rules.hasPattern (Text.trim rule.pattern) = true ↔
    ∃ r ∈ rules, r.key = rule.key := by
  simp only [hasPattern, patternKey_trim, List.any_eq_true, beq_iff_eq]
  rfl

/-- **A rule is added** if something is left of its pattern and its key is not among those of the
rules. -/
theorem add_eq_ok_iff : rules.add rule = .ok more ↔
    (Text.trim rule.pattern ≠ "" ∧ ∀ r ∈ rules, r.key ≠ rule.key) ∧
      more = rules ++ [{ rule with pattern := Text.trim rule.pattern }] := by
  have hstored : (¬rules.hasPattern (Text.trim rule.pattern) = true) ↔
      ∀ r ∈ rules, r.key ≠ rule.key := by
    simp [hasPattern_trim]
  have hempty : (¬(Text.trim rule.pattern).isEmpty = true) ↔ Text.trim rule.pattern ≠ "" := by
    rw [String.isEmpty_iff]
  rw [← hstored, ← hempty]
  simp only [add]
  split_ifs with h h'
  · simp [h]
  · simp [h']
  · simp [h, h', eq_comm]

/-- **A rule is removed** if there is one at the index. -/
theorem remove_eq_ok_iff : rules.remove index = .ok (rule, more) ↔
    rules[index]? = some rule ∧ more = rules.eraseIdx index := by
  rw [remove]
  cases rules[index]? <;> simp [eq_comm]

theorem exists_remove_iff :
    (∃ found, rules.remove index = .ok found) ↔ index < rules.length := by
  rw [Prod.exists]
  simp only [remove_eq_ok_iff, exists_and_left, exists_eq, and_true]
  rw [← Option.isSome_iff_exists, isSome_getElem?]

end RuleList

/-! ### Edits step by step -/

/-- **An edit that is refused leaves the list,** and one that is not makes of it what it should. -/
theorem RuleEdit.exec_steps (edit : RuleEdit) (rules : RuleList) :
    match edit.edited rules with
    | .ok more => exec edit.steps rules = (.ok (), more)
    | .error e => exec edit.steps rules = (.error e, rules) := by
  cases edit with
  | add rule =>
      rw [edited, RuleList.add, steps, addSteps, exec_ensure, exec_get, exec_ensure]
      cases (Text.trim rule.pattern).isEmpty
      · cases rules.hasPattern (Text.trim rule.pattern) <;> rfl
      · rfl
  | remove index =>
      rw [edited, RuleList.remove, steps, removeSteps, exec_get, exec_ensure]
      cases hrule : rules[index]? with
      | none =>
          have hle := List.getElem?_eq_none_iff.mp hrule
          rw [decide_eq_false (Nat.not_lt_of_le hle)]
          rfl
      | some rule =>
          have hlt := (List.getElem?_eq_some_iff.mp hrule).1
          rw [decide_eq_true hlt]
          rfl

namespace RuleList

/-- The patterns are trimmed and something is left of them, and no two have the same key. -/
structure Tidy (rules : RuleList) : Prop where
  trimmed : ∀ r ∈ rules, Text.trim r.pattern = r.pattern
  ne_empty : ∀ r ∈ rules, r.pattern ≠ ""
  keys : (rules.map Rule.key).Nodup

namespace Tidy

variable {rules more : RuleList} {rule : Rule}

theorem add (h : rules.Tidy) (hadd : rules.add rule = .ok more) : more.Tidy := by
  obtain ⟨⟨hne, hkeys⟩, rfl⟩ := add_eq_ok_iff.mp hadd
  refine ⟨?_, ?_, ?_⟩
  · exact List.forall_mem_append.mpr
      ⟨h.trimmed, List.forall_mem_singleton.mpr (Text.trim_trim rule.pattern)⟩
  · exact List.forall_mem_append.mpr ⟨h.ne_empty, List.forall_mem_singleton.mpr hne⟩
  · -- the key of the trimmed pattern is the one that was compared
    have hkey : Rule.key { rule with pattern := Text.trim rule.pattern } = rule.key :=
      patternKey_trim rule.pattern
    rw [List.map_append, List.map_singleton, hkey]
    refine List.nodup_append.mpr ⟨h.keys, by simp, ?_⟩
    rintro _ hmem _ hnew rfl
    obtain ⟨r, hr, e⟩ := List.mem_map.mp hmem
    exact hkeys r hr (e.trans (List.mem_singleton.mp hnew))

theorem sublist (h : rules.Tidy) (hsub : more.Sublist rules) : more.Tidy :=
  ⟨fun r hr => h.trimmed r (hsub.subset hr), fun r hr => h.ne_empty r (hsub.subset hr),
    h.keys.sublist (hsub.map _)⟩

/-- One edit keeps a list tidy. -/
theorem exec (h : rules.Tidy) (edit : RuleEdit) : (RuleEdit.exec edit.steps rules).2.Tidy := by
  have hsteps := edit.exec_steps rules
  split at hsteps
  · rename_i more hedited
    rw [hsteps]
    cases edit with
    | add rule => exact h.add hedited
    | remove index =>
        rw [RuleEdit.edited] at hedited
        cases hremove : rules.remove index with
        | error e =>
            rw [hremove] at hedited
            cases hedited
        | ok found =>
            rw [hremove] at hedited
            cases hedited
            rw [(remove_eq_ok_iff.mp hremove).2]
            exact h.sublist (List.eraseIdx_sublist ..)
  · rw [hsteps]
    exact h

/-- And so do edits one after the other. -/
theorem after (h : rules.Tidy) (edits : List RuleEdit) : (RuleEdit.after rules edits).Tidy := by
  induction edits generalizing rules with
  | nil => exact h
  | cons edit edits ih => exact ih (h.exec edit)

theorem nil : Tidy [] :=
  ⟨by simp, by simp, .nil⟩

end Tidy

/-- **Editing keeps patterns unique.**  From no rules on, the patterns stay trimmed, none is empty and
no two have the same key.  From any rules on, a rule is added if and only if something is left of its
trimmed pattern and its key is not stored, one is removed if and only if the index is in range, and an
edit that is refused leaves the rules as they are. -/
theorem edits_keep_patterns_unique :
    (∀ edits, Tidy (RuleEdit.after [] edits)) ∧
    (∀ (rules : RuleList) (rule : Rule), (∃ more, rules.add rule = .ok more) ↔
      Text.trim rule.pattern ≠ "" ∧ ∀ r ∈ rules, r.key ≠ rule.key) ∧
    (∀ (rules : RuleList) (index : Nat), (∃ found, rules.remove index = .ok found) ↔
      index < rules.length) ∧
    ∀ (rules : RuleList) (edit : RuleEdit), match edit.edited rules with
      | .ok more => RuleEdit.exec edit.steps rules = (.ok (), more)
      | .error e => RuleEdit.exec edit.steps rules = (.error e, rules) := by
  refine ⟨fun edits => Tidy.nil.after edits, fun rules rule => ?_, fun rules index => exists_remove_iff,
    fun rules edit => edit.exec_steps rules⟩
  simp only [add_eq_ok_iff, exists_and_left, exists_eq, and_true]

-- in lower case the capital sigma at the end of a word is a final one
example : RuleEdit.after [] [.add (.literal "ΑΣ" "X"), .add (.literal " ας " "Y"), .remove 1] =
    [.literal "ΑΣ" "X"] := by
  decide +kernel

end RuleList

end TextMasking
