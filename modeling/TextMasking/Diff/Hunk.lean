import TextMasking.Diff.Compact
import TextMasking.Diff.Script

/-!
# Hunks

The changes of a difference are shown with a few common lines around them. Changes whose
surroundings overlap share a hunk.
-/

namespace TextMasking.Diff

/-- The number of common lines around a change. -/
def contextSize : Nat := 3

/-- A part of the old sequence that a part of the new one stands for, as positions. -/
structure Change where
  oldStart : Nat
  oldStop : Nat
  newStart : Nat
  newStop : Nat
  deriving DecidableEq, Repr

/-- A line of a hunk. -/
inductive HunkLine (α : Type) where
  | context (line : α)
  | removed (line : α)
  | added (line : α)
  deriving Repr

/-- A hunk: its place in both sequences and its lines. An empty part is placed after the line before
it, any other at its first line; lines are counted from one. -/
structure Hunk (α : Type) where
  oldStart : Nat
  oldSize : Nat
  newStart : Nat
  newSize : Nat
  lines : List (HunkLine α)
  deriving Repr

namespace Change

variable {α : Type}

/-- The changes of runs that begin at these positions; `pending` is the change that has begun. -/
def ofRunsFrom (i j : Nat) (pending : Option Change) : List (Run α) → List Change
  | [] => pending.toList
  | .keep xs :: rest =>
    pending.toList ++ ofRunsFrom (i + xs.length) (j + xs.length) none rest
  | .only s xs :: rest =>
    let c := pending.getD ⟨i, i, j, j⟩
    match s with
    | .old => ofRunsFrom (i + xs.length) j (some { c with oldStop := c.oldStop + xs.length }) rest
    | .new => ofRunsFrom i (j + xs.length) (some { c with newStop := c.newStop + xs.length }) rest

/-- The changes of a difference. -/
def ofRuns (runs : List (Run α)) : List Change :=
  ofRunsFrom 0 0 none runs

end Change

/-- A hunk that may still take more changes. -/
structure OpenHunk (α : Type) where
  oldStart : Nat
  newStart : Nat
  last : Change
  lines : List (HunkLine α)

namespace OpenHunk

variable {α : Type} (old new : List α)

/-- The elements between two positions. -/
def slice (xs : List α) (start stop : Nat) : List α :=
  (xs.drop start).take (stop - start)

/-- The lines that a change takes away and adds. -/
def changeLines (c : Change) : List (HunkLine α) :=
  (slice old c.oldStart c.oldStop).map .removed ++ (slice new c.newStart c.newStop).map .added

/-- The number of common lines after a change. -/
def after (c : Change) : Nat :=
  min contextSize (min (old.length - c.oldStop) (new.length - c.newStop))

/-- A hunk with one change. -/
def start (c : Change) : OpenHunk α :=
  let newStart := c.newStart - contextSize
  { oldStart := c.oldStart - contextSize
    newStart
    last := c
    lines := (slice new newStart c.newStart).map .context ++ changeLines old new c }

/-- Whether the surroundings of the next change begin in the hunk. -/
def reaches (h : OpenHunk α) (c : Change) : Bool :=
  min c.oldStart (old.length - 1) - contextSize < h.last.oldStop + after old new h.last

/-- Takes the next change into the hunk. -/
def extend (h : OpenHunk α) (c : Change) : OpenHunk α :=
  { h with
    last := c
    lines := h.lines ++ (slice new h.last.newStop c.newStart).map .context
      ++ changeLines old new c }

/-- The hunk with the common lines after it. -/
def close (h : OpenHunk α) : Hunk α :=
  let n := after old new h.last
  let oldSize := h.last.oldStop + n - h.oldStart
  let newSize := h.last.newStop + n - h.newStart
  { oldStart := if 0 < oldSize then h.oldStart + 1 else h.oldStart
    oldSize
    newStart := if 0 < newSize then h.newStart + 1 else h.newStart
    newSize
    lines := h.lines ++ (slice new h.last.newStop (h.last.newStop + n)).map .context }

/-- The hunk and those of the changes after it. -/
def hunks (h : OpenHunk α) : List Change → List (Hunk α)
  | [] => [h.close old new]
  | c :: rest =>
    if h.reaches old new c then (h.extend old new c).hunks rest
    else h.close old new :: (start old new c).hunks rest

end OpenHunk

/-- The hunks between two sequences. -/
def hunks {α : Type} [DecidableEq α] (old new : List α) : List (Hunk α) :=
  match Change.ofRuns (compact (script old new)) with
  | [] => []
  | c :: rest => (OpenHunk.start old new c).hunks old new rest

end TextMasking.Diff
