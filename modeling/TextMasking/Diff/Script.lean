import TextMasking.Diff.MiddleSnake

/-!
# A shortest edit

The common start and end of two sequences are kept; what is left in between is cut where a shortest
edit has its middle, and the parts are treated alike. Whatever the cuts are, the runs read as the
two sequences (`sideAll_old_script`, `sideAll_new_script`).
-/

namespace TextMasking.Diff

variable {α : Type} [DecidableEq α]

/-- The sequences without their common start and end. -/
structure Core (α : Type) where
  start : List α
  old : List α
  new : List α
  stop : List α

/-- Splits off the common start and end. -/
def core (old new : List α) : Core α :=
  let p := commonStart old new
  let restOld := old.drop p
  let restNew := new.drop p
  let s := commonEnd restOld restNew
  { start := new.take p
    old := restOld.take (restOld.length - s)
    new := restNew.take (restNew.length - s)
    stop := restNew.drop (restNew.length - s) }

/-- The runs between two sequences; `fuel` bounds the number of cuts. -/
def scriptWith (fuel : Nat) (old new : List α) : List (Run α) :=
  let c := core old new
  let inner :=
    match c.old, c.new with
    | [], [] => []
    | [], ys => [.only .new ys]
    | xs, [] => [.only .old xs]
    | xs, ys =>
      match fuel with
      | 0 => [.only .old xs, .only .new ys]
      | fuel + 1 =>
        let (x, y) := middle xs ys
        scriptWith fuel (xs.take x) (ys.take y) ++ scriptWith fuel (xs.drop x) (ys.drop y)
  Run.ofKept c.start ++ inner ++ Run.ofKept c.stop

/-- The runs between two sequences. -/
def script (old new : List α) : List (Run α) :=
  scriptWith (old.length + new.length) old new

theorem core_new (old new : List α) :
    (core old new).start ++ (core old new).new ++ (core old new).stop = new := by
  simp only [core]
  rw [List.append_assoc, List.take_append_drop, List.take_append_drop]

theorem drop_commonEnd (xs ys : List α) :
    xs.drop (xs.length - commonEnd xs ys) = ys.drop (ys.length - commonEnd xs ys) := by
  have h := take_commonStart xs.reverse ys.reverse
  have h' := congrArg List.reverse h
  simpa [commonEnd, List.take_reverse] using h'

theorem core_old (old new : List α) :
    (core old new).start ++ (core old new).old ++ (core old new).stop = old := by
  simp only [core]
  rw [← drop_commonEnd, ← take_commonStart, List.append_assoc, List.take_append_drop,
    List.take_append_drop]

theorem sideAll_new_script (old new : List α) : Run.sideAll .new (script old new) = new := by
  have main : ∀ fuel (old new : List α), Run.sideAll .new (scriptWith fuel old new) = new := by
    intro fuel
    induction fuel with
    | zero =>
      intro old new
      rw [scriptWith]
      conv => rhs; rw [← core_new old new]
      simp only [Run.sideAll_append, Run.sideAll_ofKept]
      congr 2
      split <;> simp_all [Run.sideAll, Run.side]
    | succ fuel ih =>
      intro old new
      rw [scriptWith]
      conv => rhs; rw [← core_new old new]
      simp only [Run.sideAll_append, Run.sideAll_ofKept]
      congr 2
      split
      · simp_all [Run.sideAll]
      · simp_all [Run.sideAll, Run.side]
      · simp_all [Run.sideAll, Run.side]
      · simp only [Run.sideAll_append, ih, List.take_append_drop]
  exact main _ old new

theorem sideAll_old_script (old new : List α) : Run.sideAll .old (script old new) = old := by
  have main : ∀ fuel (old new : List α), Run.sideAll .old (scriptWith fuel old new) = old := by
    intro fuel
    induction fuel with
    | zero =>
      intro old new
      rw [scriptWith]
      conv => rhs; rw [← core_old old new]
      simp only [Run.sideAll_append, Run.sideAll_ofKept]
      congr 2
      split <;> simp_all [Run.sideAll, Run.side]
    | succ fuel ih =>
      intro old new
      rw [scriptWith]
      conv => rhs; rw [← core_old old new]
      simp only [Run.sideAll_append, Run.sideAll_ofKept]
      congr 2
      split
      · simp_all [Run.sideAll]
      · simp_all [Run.sideAll, Run.side]
      · simp_all [Run.sideAll, Run.side]
      · simp only [Run.sideAll_append, ih, List.take_append_drop]
  exact main _ old new

end TextMasking.Diff
