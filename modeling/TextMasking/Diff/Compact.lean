import TextMasking.Diff.Basic

/-!
# Edits put together

A run of added or removed elements can be moved along common elements that repeat it. Every such run
is moved up as far as it goes and then down as far as it goes; runs of one kind that meet become
one, and it passes runs of the other kind. First the removed elements are moved, then the added
ones.
-/

namespace TextMasking.Diff

variable {α : Type}

namespace Run

/-- Whether a run holds elements that only this side has. -/
def isOnly (s : Side) : Run α → Bool
  | .only t _ => t == s
  | .keep _ => false

/-- Runs and elements together. -/
def weight : List (Run α) → Nat
  | [] => 0
  | .keep xs :: rest => 1 + xs.length + weight rest
  | .only _ xs :: rest => 1 + xs.length + weight rest

/-- Puts common elements before runs. -/
def keepBefore (xs : List α) : List (Run α) → List (Run α)
  | .keep ys :: rest => .keep (xs ++ ys) :: rest
  | runs => .keep xs :: runs

/-- Puts common elements after runs, which are given last run first. -/
def keepAfter (xs : List α) : List (Run α) → List (Run α)
  | .keep ys :: rest => .keep (ys ++ xs) :: rest
  | runs => .keep xs :: runs

theorem count_keepBefore (s : Side) (xs : List α) (runs : List (Run α)) :
    (keepBefore xs runs).countP (isOnly s) = runs.countP (isOnly s) := by
  cases runs with
  | nil => simp [keepBefore, isOnly]
  | cons r rest => cases r <;> simp [keepBefore, isOnly, List.countP_cons]

end Run

/-- A run of one side, with the runs before it, last run first, and after it. -/
structure Focus (α : Type) where
  before : List (Run α)
  here : List α
  after : List (Run α)

variable [DecidableEq α]

/-- Moves a run up as far as it goes. -/
def moveUp (s : Side) (here : List α) (before after : List (Run α)) : Focus α :=
  match before with
  | [] => ⟨[], here, after⟩
  | .keep ks :: more =>
    let n := commonEnd here ks
    if _h : n = 0 then ⟨before, here, after⟩
    else
      let moved := ks.drop (ks.length - n)
      moveUp s (moved ++ here.take (here.length - n))
        (Run.ofKept (ks.take (ks.length - n)) ++ more) (Run.keepBefore moved after)
  | .only t ys :: more =>
    if t = s then moveUp s (ys ++ here) more after
    else moveUp s here more (.only t ys :: after)
termination_by Run.weight before
decreasing_by
  · have h1 := commonEnd_le here ks
    simp only [Run.ofKept]
    split
    · simp only [List.nil_append, Run.weight]
      omega
    · simp only [List.cons_append, List.nil_append, Run.weight, List.length_take]
      omega
  · simp only [Run.weight]
    omega
  · simp only [Run.weight]
    omega

/-- Moves a run down as far as it goes. -/
def moveDown (s : Side) (here : List α) (before after : List (Run α)) : Focus α :=
  match after with
  | [] => ⟨before, here, []⟩
  | .keep ks :: more =>
    let n := commonStart here ks
    if _h : n = 0 then ⟨before, here, after⟩
    else
      let moved := ks.take n
      moveDown s (here.drop n ++ moved) (Run.keepAfter moved before)
        (Run.ofKept (ks.drop n) ++ more)
  | .only t ys :: more =>
    if t = s then moveDown s (here ++ ys) before more
    else moveDown s here (.only t ys :: before) more
termination_by Run.weight after
decreasing_by
  · have h1 := commonStart_le here ks
    simp only [Run.ofKept]
    split
    · simp only [List.nil_append, Run.weight]
      omega
    · simp only [List.cons_append, List.nil_append, Run.weight, List.length_drop]
      omega
  · simp only [Run.weight]
    omega
  · simp only [Run.weight]
    omega

theorem count_moveUp (s : Side) (here : List α) (before after : List (Run α)) :
    (moveUp s here before after).after.countP (Run.isOnly s) = after.countP (Run.isOnly s) := by
  fun_induction moveUp s here before after with
  | case1 => rfl
  | case2 => rfl
  | case3 _ _ _ _ _ _ _ ih => simpa [Run.count_keepBefore] using ih
  | case4 _ _ _ _ ih => exact ih
  | case5 _ _ t _ _ ht ih => simpa [List.countP_cons, Run.isOnly, ht] using ih

theorem count_moveDown_le (s : Side) (here : List α) (before after : List (Run α)) :
    (moveDown s here before after).after.countP (Run.isOnly s) ≤ after.countP (Run.isOnly s) := by
  fun_induction moveDown s here before after with
  | case1 => simp
  | case2 => simp
  | case3 here before ks more n h moved ih =>
    refine Nat.le_trans ih ?_
    simp only [Run.ofKept]
    split <;> simp [Run.isOnly]
  | case4 _ _ _ _ ih => exact Nat.le_trans ih (by simp [List.countP_cons])
  | case5 _ _ t _ _ ht ih => exact Nat.le_trans ih (by simp [List.countP_cons])

/-- Moves the next `n` runs of one side; the runs before are given last run first. -/
def sweep (s : Side) (before after : List (Run α)) : Nat → List (Run α)
  | 0 => before.reverse ++ after
  | n + 1 =>
    let before := (after.takeWhile (!·.isOnly s)).reverse ++ before
    match after.dropWhile (!·.isOnly s) with
    | .only _ xs :: more =>
      let up := moveUp s xs before []
      let down := moveDown s up.here up.before (up.after ++ more)
      sweep s (.only s down.here :: down.before) down.after n
    | _ => before.reverse

/-- Moves every run of one side. Moving makes no new ones (`count_moveUp`, `count_moveDown_le`), so
there are at most as many to move as there are in the beginning. -/
def sweepAll (s : Side) (runs : List (Run α)) : List (Run α) :=
  sweep s [] runs (runs.countP (Run.isOnly s))

/-- Puts the edits of a difference together. -/
def compact (runs : List (Run α)) : List (Run α) :=
  sweepAll .new (sweepAll .old runs)

end TextMasking.Diff
