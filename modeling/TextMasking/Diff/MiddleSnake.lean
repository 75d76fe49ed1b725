import TextMasking.Diff.Basic

/-!
# The middle of a shortest edit

Two sequences span a grid; an edit is a path through it, and common elements are diagonal steps.
From both corners the paths that reach furthest with a number of edits are followed along every
diagonal, until one from the start meets one from the end. The diagonal stretch where they meet lies
on a shortest path.
-/

namespace TextMasking.Diff

/-- How far paths reach along each diagonal. -/
structure Frontier where
  reach : Array Nat
  shift : Nat

namespace Frontier

/-- The paths before the first step. -/
def start (edits : Nat) : Frontier := ⟨Array.replicate (2 * edits + 3) 0, edits + 1⟩

/-- How far the path on a diagonal reaches. -/
def get (f : Frontier) (diagonal : Int) : Nat :=
  (f.reach[(diagonal + f.shift).toNat]?).getD 0

/-- Sets how far the path on a diagonal reaches. -/
def set (f : Frontier) (diagonal : Int) (x : Nat) : Frontier :=
  { f with reach := f.reach.setIfInBounds (diagonal + f.shift).toNat x }

/-- Where a path with `d` edits comes to a diagonal: from the neighbour that reaches further. -/
def enter (f : Frontier) (d : Nat) (diagonal : Int) : Nat :=
  if diagonal = -d ∨ (diagonal ≠ d ∧ f.get (diagonal - 1) < f.get (diagonal + 1)) then
    f.get (diagonal + 1)
  else f.get (diagonal - 1) + 1

end Frontier

/-- The diagonals that paths with `d` edits can end on, from the highest to the lowest. -/
def diagonals (d : Nat) : List Int :=
  (List.range (d + 1)).map fun (i : Nat) => (d : Int) - 2 * (i : Int)

variable {α : Type} [DecidableEq α]

/-- The number of common elements from `x` in one sequence and `y` in the other on, at most
`fuel`. -/
def stretch (xs ys : Array α) (x y : Nat) : Nat → Nat
  | 0 => 0
  | fuel + 1 =>
    match xs[x]?, ys[y]? with
    | some a, some b => if a = b then stretch xs ys (x + 1) (y + 1) fuel + 1 else 0
    | _, _ => 0

/-- Follows the paths with `d` edits along diagonals of the grid of `xs` and `ys`. The answer is the
new frontier, or the stretch that meets a path of `other` if `meets` tells for a diagonal that one
can. -/
def follow (xs ys : Array α) (d : Nat) (other : Frontier) (delta : Int) (meets : Int → Bool) :
    List Int → Frontier → Frontier ⊕ (Nat × Nat × Nat)
  | [], f => .inl f
  | k :: rest, f =>
    let x := f.enter d k
    let y := ((x : Int) - k).toNat
    let n := stretch xs ys x y xs.size
    let f := f.set k (x + n)
    if meets (k - delta) && xs.size ≤ f.get k + other.get (-(k - delta)) then .inr (x, y, n)
    else follow xs ys d other delta meets rest f

/-- Lengthens the paths from both ends until they meet; the answer is where the common stretch
begins. `rounds` bounds the number of edits. -/
def meet (xs ys xsBack ysBack : Array α) (delta : Int) (d : Nat) (ahead back : Frontier) :
    Nat → Nat × Nat
  | 0 => (xs.size, ys.size)
  | rounds + 1 =>
    let odd := delta % 2 != 0
    match follow xs ys d back delta (fun k => odd && k.natAbs + 1 ≤ d) (diagonals d) ahead with
    | .inr (x, y, _) => (x, y)
    | .inl ahead =>
      let touches (k : Int) : Bool := !odd && k.natAbs ≤ d
      match follow xsBack ysBack d ahead delta touches (diagonals d) back with
      | .inr (x, y, n) => (xs.size - (x + n), ys.size - (y + n))
      | .inl back => meet xs ys xsBack ysBack delta (d + 1) ahead back rounds

/-- Where a common stretch on a shortest edit begins, in both sequences. -/
def middle (old new : List α) : Nat × Nat :=
  let rounds := (old.length + new.length + 1) / 2 + 1
  meet old.toArray new.toArray old.reverse.toArray new.reverse.toArray
    ((old.length : Int) - new.length) 0 (Frontier.start rounds) (Frontier.start rounds) rounds

end TextMasking.Diff
