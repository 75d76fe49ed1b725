import TextMasking.Proofs.Matching.Matcher

/-! # The order of application

Rules are applied longest pattern first, and as stored among equals.  So a rule that is stored
between `pre` and `post` has its turn after the rules of `RuleList.ahead pre rule post` and before
those of `RuleList.behind pre rule post`, each in their own order, and without it these come in the
same order (`bySpecificity_cut`, `bySpecificity_uncut`).  Every turn is that of a stored rule
(`exists_cut_of_bySpecificity`). -/

namespace TextMasking

namespace RuleList

/-! ### Inserting a rule -/

theorem insertBySpecificity_append_left {rule : Rule} {a c : RuleList}
    (h : ∀ r ∈ c, r.specificity ≤ rule.specificity) :
    insertBySpecificity rule (a ++ c) = insertBySpecificity rule a ++ c := by
  induction a with
  | nil =>
      cases c with
      | nil => rfl
      | cons r c => exact if_pos (h r List.mem_cons_self)
  | cons r a ih =>
      rw [List.cons_append, insertBySpecificity, insertBySpecificity, ih]
      split_ifs <;> rfl

theorem insertBySpecificity_append_right {rule : Rule} {a c : RuleList}
    (h : ∀ r ∈ a, rule.specificity < r.specificity) :
    insertBySpecificity rule (a ++ c) = a ++ insertBySpecificity rule c := by
  induction a with
  | nil => rfl
  | cons r a ih =>
      obtain ⟨hr, ha⟩ := List.forall_mem_cons.mp h
      rw [List.cons_append, insertBySpecificity, if_neg (Nat.not_le_of_lt hr), ih ha]
      rfl

/-- Rules that are put into an ordered list go to the side of a border on which they belong. -/
theorem foldr_insertBySpecificity_append (k : Nat) (rules : RuleList) {a c : RuleList}
    (ha : ∀ r ∈ a, k ≤ r.specificity) (hc : ∀ r ∈ c, r.specificity ≤ k) :
    rules.foldr insertBySpecificity (a ++ c) =
      (rules.filter fun r => k ≤ r.specificity).foldr insertBySpecificity a ++
        (rules.filter fun r => r.specificity < k).foldr insertBySpecificity c := by
  have hmem (l a : RuleList) {r : Rule} (h : r ∈ l.foldr insertBySpecificity a) :
      r ∈ l ∨ r ∈ a := by
    induction l with
    | nil => exact .inr h
    | cons p l ih =>
        rcases mem_of_mem_insertBySpecificity h with rfl | h
        · exact .inl List.mem_cons_self
        · exact (ih h).imp_left (List.mem_cons_of_mem _)
  induction rules with
  | nil => rfl
  | cons p rules ih =>
      rw [List.foldr_cons, ih]
      by_cases hp : k ≤ p.specificity
      · rw [List.filter_cons_of_pos (by simpa using hp),
          List.filter_cons_of_neg (by simpa using hp), List.foldr_cons]
        refine insertBySpecificity_append_left fun r hr => ?_
        rcases hmem _ _ hr with hr | hr
        · have := (List.mem_filter.mp hr).2
          simp only [decide_eq_true_eq] at this
          omega
        · have := hc r hr
          omega
      · rw [List.filter_cons_of_neg (by simpa using hp),
          List.filter_cons_of_pos (by simpa using hp), List.foldr_cons]
        refine insertBySpecificity_append_right fun r hr => ?_
        rcases hmem _ _ hr with hr | hr
        · have := (List.mem_filter.mp hr).2
          simp only [decide_eq_true_eq] at this
          omega
        · have := ha r hr
          omega

/-! ### Turns -/

/-- The rules that have their turn before one that is stored between `pre` and `post`. -/
def ahead (pre : RuleList) (rule : Rule) (post : RuleList) : RuleList :=
  (pre.filter fun r => rule.specificity ≤ r.specificity) ++
    post.filter fun r => rule.specificity < r.specificity

/-- The rules that have their turn after one that is stored between `pre` and `post`. -/
def behind (pre : RuleList) (rule : Rule) (post : RuleList) : RuleList :=
  (pre.filter fun r => r.specificity < rule.specificity) ++
    post.filter fun r => r.specificity ≤ rule.specificity

variable (pre : RuleList) (rule : Rule) (post : RuleList)

theorem bySpecificity_append (a c : RuleList) :
    bySpecificity (a ++ c) = a.foldr insertBySpecificity c.bySpecificity :=
  List.foldr_append

/-- The rules with longer patterns come before the others. -/
theorem bySpecificity_partition (k : Nat) (rules : RuleList) :
    rules.bySpecificity = bySpecificity (rules.filter fun r => k < r.specificity) ++
      bySpecificity (rules.filter fun r => r.specificity ≤ k) := by
  have h : rules.foldr insertBySpecificity [] = _ :=
    foldr_insertBySpecificity_append (k + 1) rules (a := []) (c := []) (by simp) (by simp)
  simpa only [bySpecificity, Nat.succ_le_iff, Nat.lt_succ_iff] using h

theorem specificity_of_mem_bySpecificity_filter {rules : RuleList} {P : Rule → Prop}
    [DecidablePred P] {r : Rule} (h : r ∈ bySpecificity (rules.filter fun r => P r)) : P r := by
  have := (List.mem_filter.mp (mem_of_mem_bySpecificity h)).2
  simpa using this

/-- Without the rule the others keep their order. -/
theorem bySpecificity_uncut :
    (pre ++ post).bySpecificity =
      (ahead pre rule post).bySpecificity ++ (behind pre rule post).bySpecificity := by
  rw [bySpecificity_append, bySpecificity_partition rule.specificity post,
    foldr_insertBySpecificity_append rule.specificity, ahead, behind, bySpecificity_append,
    bySpecificity_append]
  · intro r hr
    exact Nat.le_of_lt (specificity_of_mem_bySpecificity_filter hr)
  · intro r hr
    exact specificity_of_mem_bySpecificity_filter hr

/-- **A rule has its turn between those ahead of it and those behind it.** -/
theorem bySpecificity_cut :
    (pre ++ rule :: post).bySpecificity =
      (ahead pre rule post).bySpecificity ++ rule :: (behind pre rule post).bySpecificity := by
  have hpost : bySpecificity (rule :: post) =
      bySpecificity (post.filter fun r => rule.specificity < r.specificity) ++
        rule :: bySpecificity (post.filter fun r => r.specificity ≤ rule.specificity) := by
    have hle : ∀ r ∈ bySpecificity (post.filter fun r => r.specificity ≤ rule.specificity),
        r.specificity ≤ rule.specificity := fun r hr => specificity_of_mem_bySpecificity_filter hr
    have hlt : ∀ r ∈ bySpecificity (post.filter fun r => rule.specificity < r.specificity),
        rule.specificity < r.specificity := fun r hr => specificity_of_mem_bySpecificity_filter hr
    change insertBySpecificity rule post.bySpecificity = _
    rw [bySpecificity_partition rule.specificity post, insertBySpecificity_append_right hlt]
    exact congrArg _ (insertBySpecificity_append_left (a := []) hle)
  have hbehind (l c : RuleList) (h : ∀ r ∈ l, r.specificity < rule.specificity) :
      l.foldr insertBySpecificity (rule :: c) = rule :: l.foldr insertBySpecificity c := by
    induction l with
    | nil => rfl
    | cons p l ih =>
        obtain ⟨hp, hl⟩ := List.forall_mem_cons.mp h
        rw [List.foldr_cons, ih hl, List.foldr_cons, insertBySpecificity,
          if_neg (Nat.not_le_of_lt hp)]
  rw [bySpecificity_append, hpost, foldr_insertBySpecificity_append rule.specificity, hbehind,
    ahead, behind, bySpecificity_append, bySpecificity_append]
  · intro r hr
    simpa using (List.mem_filter.mp hr).2
  · intro r hr
    exact Nat.le_of_lt (specificity_of_mem_bySpecificity_filter hr)
  · intro r hr
    rcases List.mem_cons.mp hr with rfl | hr
    · exact Nat.le_refl _
    · exact specificity_of_mem_bySpecificity_filter hr

theorem mem_ahead {r : Rule} (h : r ∈ (ahead [] rule post).bySpecificity) :
    rule.specificity < r.specificity :=
  specificity_of_mem_bySpecificity_filter h

theorem mem_behind {r : Rule} (h : r ∈ (behind [] rule post).bySpecificity) :
    r.specificity ≤ rule.specificity :=
  specificity_of_mem_bySpecificity_filter h

/-- **Every turn is that of a stored rule.** -/
theorem exists_cut_of_bySpecificity {rules a b : RuleList} {rule : Rule}
    (h : rules.bySpecificity = a ++ rule :: b) :
    ∃ pre post, rules = pre ++ rule :: post ∧ a = (ahead pre rule post).bySpecificity := by
  induction rules generalizing a b with
  | nil => simp [bySpecificity] at h
  | cons p rest ih =>
      have hcut := bySpecificity_cut [] p rest
      have hrest : bySpecificity rest = _ := bySpecificity_uncut [] p rest
      rw [List.nil_append, h] at hcut
      rcases List.append_eq_append_iff.mp hcut with ⟨t, ht, hb⟩ | ⟨t, rfl, hb⟩
      · cases t with
        | nil =>
            obtain ⟨rfl, -⟩ := List.cons.inj hb
            exact ⟨[], rest, rfl, by rw [ht, List.append_nil]⟩
        | cons r t =>
            -- the turn of the rule comes before that of `p`
            obtain ⟨rfl, -⟩ := List.cons.inj hb
            have hlt := mem_ahead p rest (r := rule) (by simp [ht])
            rw [ht, List.append_assoc, List.cons_append] at hrest
            obtain ⟨pre, post, rfl, rfl⟩ := ih hrest
            refine ⟨p :: pre, post, rfl, ?_⟩
            rw [ahead, ahead, List.filter_cons_of_neg (by simpa using hlt)]
      · cases t with
        | nil =>
            obtain ⟨rfl, -⟩ := List.cons.inj hb
            exact ⟨[], rest, rfl, by rw [List.append_nil]⟩
        | cons r t =>
            -- the turn of the rule comes after that of `p`
            obtain ⟨rfl, htail⟩ := List.cons.inj hb
            have hb : (behind [] p rest).bySpecificity = t ++ rule :: b := htail
            rw [hb, ← List.append_assoc] at hrest
            have hle := mem_behind p rest (r := rule) (by simp [hb])
            obtain ⟨pre, post, rfl, hpre⟩ := ih hrest
            refine ⟨p :: pre, post, rfl, ?_⟩
            have hcons : (ahead (p :: pre) rule post).bySpecificity =
                insertBySpecificity p (ahead pre rule post).bySpecificity := by
              rw [ahead, List.filter_cons_of_pos (by simpa using hle)]
              rfl
            have ht : ∀ r ∈ t, r.specificity ≤ p.specificity := by
              intro r hr
              refine mem_behind p (pre ++ rule :: post) ?_
              rw [hb]
              exact List.mem_append_left _ hr
            rw [hcons, ← hpre, insertBySpecificity_append_right fun r => mem_ahead p _]
            exact congrArg _ (insertBySpecificity_append_left (a := []) ht).symm

end RuleList

end TextMasking
