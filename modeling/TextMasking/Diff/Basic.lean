/-!
# Differences of two sequences

A difference is a list of runs: elements that both sequences have, and elements that only the old or
only the new one has. `Run.sideAll` reads each sequence off the runs.
-/

namespace TextMasking.Diff

/-- One of the two sequences. -/
inductive Side where
  | old
  | new
  deriving DecidableEq, Repr

/-- A run of elements. -/
inductive Run (α : Type) where
  | keep (elements : List α)
  | only (side : Side) (elements : List α)
  deriving Repr

namespace Run

variable {α : Type}

/-- The elements of one of the sequences. -/
def side (s : Side) : Run α → List α
  | .keep xs => xs
  | .only t xs => if t = s then xs else []

/-- One of the sequences. -/
def sideAll (s : Side) (runs : List (Run α)) : List α :=
  runs.flatMap (side s)

/-- A run of common elements, if there are any. -/
def ofKept (xs : List α) : List (Run α) :=
  if xs.isEmpty then [] else [.keep xs]

theorem sideAll_append (s : Side) (a b : List (Run α)) :
    sideAll s (a ++ b) = sideAll s a ++ sideAll s b := by
  simp [sideAll]

theorem sideAll_ofKept (s : Side) (xs : List α) : sideAll s (ofKept xs) = xs := by
  cases xs <;> simp [ofKept, sideAll, side]

end Run

variable {α : Type} [DecidableEq α]

/-- The number of elements that two sequences have in common at their start. -/
def commonStart : List α → List α → Nat
  | x :: xs, y :: ys => if x = y then commonStart xs ys + 1 else 0
  | _, _ => 0

/-- The number of elements that two sequences have in common at their end. -/
def commonEnd (xs ys : List α) : Nat :=
  commonStart xs.reverse ys.reverse

theorem take_commonStart (xs ys : List α) :
    xs.take (commonStart xs ys) = ys.take (commonStart xs ys) := by
  induction xs generalizing ys with
  | nil => simp [commonStart]
  | cons x xs ih =>
    cases ys with
    | nil => simp [commonStart]
    | cons y ys => by_cases h : x = y <;> simp [commonStart, h, ih]

theorem commonStart_le (xs ys : List α) : commonStart xs ys ≤ ys.length := by
  induction xs generalizing ys with
  | nil => simp [commonStart]
  | cons x xs ih =>
    cases ys with
    | nil => simp [commonStart]
    | cons y ys => by_cases h : x = y <;> simp [commonStart, h, ih]

theorem commonEnd_le (xs ys : List α) : commonEnd xs ys ≤ ys.length := by
  simpa [commonEnd] using commonStart_le xs.reverse ys.reverse

end TextMasking.Diff
