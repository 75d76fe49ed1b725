/-!
# Ranges of code points

A property of characters is given by the ranges of the code points that have it, in ascending
order. `inRanges_iff` says that the early stop of the look-up loses nothing.
-/

namespace TextMasking.Unicode

/-- Whether `n` lies in one of the ranges, which are in ascending order. -/
def inRanges : List (Nat × Nat) → Nat → Bool
  | [], _ => false
  | (lo, hi) :: rest, n => if n < lo then false else n ≤ hi || inRanges rest n

/-- Ranges in ascending order: each is not empty and ends before the next begins. -/
def Ascending : List (Nat × Nat) → Prop
  | [] => True
  | [(lo, hi)] => lo ≤ hi
  | (lo, hi) :: (lo', hi') :: rest => lo ≤ hi ∧ hi < lo' ∧ Ascending ((lo', hi') :: rest)

theorem Ascending.tail {r : Nat × Nat} {rest : List (Nat × Nat)} (h : Ascending (r :: rest)) :
    Ascending rest := by
  cases rest with
  | nil => trivial
  | cons s rest => exact h.2.2

theorem Ascending.lt {lo hi : Nat} {rest : List (Nat × Nat)} (h : Ascending ((lo, hi) :: rest)) :
    ∀ r ∈ rest, lo < r.1 := by
  induction rest generalizing lo hi with
  | nil => simp
  | cons s rest ih =>
    obtain ⟨lo', hi'⟩ := s
    obtain ⟨h₁, h₂, h₃⟩ := h
    intro r hr
    rcases List.mem_cons.1 hr with rfl | hr
    · exact Nat.lt_of_le_of_lt h₁ h₂
    · exact Nat.lt_trans (Nat.lt_of_le_of_lt h₁ h₂) (ih h₃ r hr)

theorem inRanges_iff {ranges : List (Nat × Nat)} (h : Ascending ranges) (n : Nat) :
    inRanges ranges n = true ↔ ∃ r ∈ ranges, r.1 ≤ n ∧ n ≤ r.2 := by
  induction ranges with
  | nil => simp [inRanges]
  | cons r rest ih =>
    obtain ⟨lo, hi⟩ := r
    rw [inRanges]
    by_cases hn : n < lo
    · simp only [hn, if_true, Bool.false_eq_true, false_iff]
      rintro ⟨r, hr, h₁, _⟩
      rcases List.mem_cons.1 hr with rfl | hr
      · exact absurd h₁ (Nat.not_le.2 hn)
      · exact absurd h₁ (Nat.not_le.2 (Nat.lt_trans hn (h.lt r hr)))
    · simp [hn, ih h.tail, Nat.not_lt.1 hn]

end TextMasking.Unicode
