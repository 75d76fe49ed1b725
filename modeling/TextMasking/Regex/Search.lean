import TextMasking.Regex.Basic

/-!
# Searching a text

A search keeps a list of threads, the preferred one first. A thread is a list of goals that remain
to be met and the groups met so far. Between two characters every thread is taken apart into the
characters that it can read next (`expand`); a character then moves the threads that read it, and of
threads with the same goals only the preferred one goes on. So the work is bounded by the text and
the expression, and the preferred match is found: the leftmost one, and of those that start there
the one that the alternatives and repetitions prefer.

Positions count characters.
-/

namespace TextMasking

/-- Part of a text, from `start` up to but not including `stop`. -/
structure Span where
  start : Nat
  stop : Nat
  deriving DecidableEq, Repr

/-- Where named groups were entered, and the last part of the text that each matched; the latest
entry of a name counts. -/
structure Captures where
  opened : List (String × Nat)
  closed : List (String × Span)
  deriving DecidableEq, Repr

namespace Captures

/-- No group was met. -/
def empty : Captures := ⟨[], []⟩

def enter (caps : Captures) (name : String) (pos : Nat) : Captures :=
  { caps with opened := (name, pos) :: caps.opened }

def leave (caps : Captures) (name : String) (pos : Nat) : Captures :=
  match caps.opened.lookup name with
  | some start => { caps with closed := (name, ⟨start, pos⟩) :: caps.closed }
  | none => caps

/-- The part of the text that the group matched. -/
def span? (caps : Captures) (name : String) : Option Span :=
  caps.closed.lookup name

end Captures

/-- What a thread has still to do. -/
inductive Goal where
  | run (r : Regex)
  | leave (name : String)
  /-- A copy of `r` was just read: take another or go on. A copy that read nothing is the last. -/
  | again (r : Regex) (greedy moved : Bool)
  deriving DecidableEq

namespace Goal

def weight : Goal → Nat
  | .run r => r.weight
  | .leave _ => 1
  | .again r _ moved => if moved then r.weight + 3 else 1

/-- The goal after a character was read. -/
def advance : Goal → Goal
  | .again r greedy _ => .again r greedy true
  | g => g

end Goal

/-- Bounds how often a list of goals is taken apart. -/
def goalsWeight : List Goal → Nat
  | [] => 0
  | g :: gs => g.weight + goalsWeight gs

/-- A way to go on from a position: all goals are met, or a character of a set is read first. -/
inductive Leaf where
  | accept (caps : Captures)
  | read (s : CharSet) (goals : List Goal) (caps : Captures)

/-- Two lists in order of preference. -/
def prefer {α : Type} (greedy : Bool) (more fewer : List α) : List α :=
  if greedy then more ++ fewer else fewer ++ more

/-- Fewer copies and one more of the body weigh less. -/
theorem copies_lt {a b w : Nat} (h : a < b) (g : Nat) :
    w + (a * (w + 2) + g) < b * (w + 2) + g := by
  have := Nat.mul_le_mul_right (w + 2) h
  rw [Nat.succ_mul] at this
  omega

/-- The ways to go on at `pos` between the characters `prev` and `next`, the preferred first. -/
def expand (prev next : Option Char) (pos : Nat) : List Goal → Captures → List Leaf
  | [], caps => [.accept caps]
  | .leave name :: gs, caps => expand prev next pos gs (caps.leave name pos)
  | .again r greedy true :: gs, caps =>
    prefer greedy (expand prev next pos (.run r :: .again r greedy false :: gs) caps)
      (expand prev next pos gs caps)
  | .again _ _ false :: gs, caps => expand prev next pos gs caps
  | .run .empty :: gs, caps => expand prev next pos gs caps
  | .run (.set s) :: gs, caps => [.read s gs caps]
  | .run (.assert a) :: gs, caps => if a.holds prev next then expand prev next pos gs caps else []
  | .run (.group name r) :: gs, caps =>
    expand prev next pos (.run r :: .leave name :: gs) (caps.enter name pos)
  | .run (.seq a b) :: gs, caps => expand prev next pos (.run a :: .run b :: gs) caps
  | .run (.alt a b) :: gs, caps =>
    expand prev next pos (.run a :: gs) caps ++ expand prev next pos (.run b :: gs) caps
  | .run (.times _ 0 (some 0) _) :: gs, caps => expand prev next pos gs caps
  | .run (.times r 0 (some (m + 1)) greedy) :: gs, caps =>
    prefer greedy (expand prev next pos (.run r :: .run (.times r 0 (some m) greedy) :: gs) caps)
      (expand prev next pos gs caps)
  | .run (.times r 0 none greedy) :: gs, caps =>
    prefer greedy (expand prev next pos (.run r :: .again r greedy false :: gs) caps)
      (expand prev next pos gs caps)
  | .run (.times r 1 none greedy) :: gs, caps =>
    expand prev next pos (.run r :: .again r greedy false :: gs) caps
  | .run (.times r (n + 2) none greedy) :: gs, caps =>
    expand prev next pos (.run r :: .run (.times r (n + 1) none greedy) :: gs) caps
  | .run (.times r (n + 1) (some m) greedy) :: gs, caps =>
    expand prev next pos (.run r :: .run (.times r n (some (m - 1)) greedy) :: gs) caps
termination_by gs => goalsWeight gs
decreasing_by
  all_goals simp only [goalsWeight, Goal.weight, Regex.weight, Option.getD_some, Option.getD_none,
    if_true, Bool.false_eq_true, if_false]
  all_goals try omega
  · exact copies_lt (by omega) _
  · exact Nat.lt_add_of_pos_left (Nat.mul_pos (by omega) (by omega))
  · exact copies_lt (by omega) _
  · exact copies_lt (by omega) _

/-- Goals to meet and the groups met before. -/
structure Thread where
  goals : List Goal
  caps : Captures

/-- The leaves before the first one that accepts, and the groups of that one. -/
def cut : List Leaf → List (CharSet × List Goal × Captures) × Option Captures
  | [] => ([], none)
  | .accept caps :: _ => ([], some caps)
  | .read s gs caps :: rest => ((s, gs, caps) :: (cut rest).1, (cut rest).2)

/-- Keeps the first of the threads with the same goals. -/
def distinct : List Thread → List Thread
  | [] => []
  | t :: rest => t :: (distinct rest).filter fun u => u.goals != t.goals

/-- The threads that read `c`. -/
def step (c : Char) (leaves : List (CharSet × List Goal × Captures)) : List Thread :=
  distinct <| leaves.filterMap fun (s, gs, caps) =>
    if s.holds c then some ⟨gs.map Goal.advance, caps⟩ else none

/-- Runs the threads over the characters that follow `prev`. The answer is where the preferred match
ends, with its groups; `best` is the one known so far, which every thread is preferred to. -/
def runThreads (prev : Option Char) (pos : Nat) (best : Option (Nat × Captures)) :
    List Char → List Thread → Option (Nat × Captures)
  | [], threads =>
    match (cut (threads.flatMap fun t => expand prev none pos t.goals t.caps)).2 with
    | some caps => some (pos, caps)
    | none => best
  | c :: rest, threads =>
    let leaves := cut (threads.flatMap fun t => expand prev (some c) pos t.goals t.caps)
    let best :=
      match leaves.2 with
      | some caps => some (pos, caps)
      | none => best
    match step c leaves.1 with
    | [] => best
    | moved => runThreads (some c) (pos + 1) best rest moved

/-- A match: the part of the text and the groups in it. -/
structure Match where
  start : Nat
  stop : Nat
  caps : Captures
  deriving DecidableEq, Repr

namespace Regex

/-- The preferred match that starts at `pos`, before the characters `rest`. -/
def matchAt (r : Regex) (prev : Option Char) (rest : List Char) (pos : Nat) : Option Match :=
  (runThreads prev pos none rest [⟨[.run r], .empty⟩]).map fun (stop, caps) => ⟨pos, stop, caps⟩

/-- The leftmost match that starts at `pos` or later. -/
def findFrom (r : Regex) (prev : Option Char) : List Char → Nat → Option Match
  | [], pos => r.matchAt prev [] pos
  | c :: rest, pos =>
    match r.matchAt prev (c :: rest) pos with
    | some m => some m
    | none => findFrom r (some c) rest (pos + 1)

/-- The leftmost match in `text` that starts at position `start` or later. -/
def find (r : Regex) (text : List Char) (start : Nat) : Option Match :=
  r.findFrom (if start = 0 then none else text[start - 1]?) (text.drop start) start

theorem start_of_matchAt {r : Regex} {prev : Option Char} {rest : List Char} {pos : Nat} {m : Match}
    (h : r.matchAt prev rest pos = some m) : m.start = pos := by
  simp only [matchAt, Option.map_eq_some_iff] at h
  obtain ⟨_, _, rfl⟩ := h
  rfl

theorem le_start_of_findFrom {r : Regex} {prev : Option Char} {rest : List Char} {pos : Nat}
    {m : Match} (h : r.findFrom prev rest pos = some m) : pos ≤ m.start := by
  induction rest generalizing prev pos with
  | nil => exact Nat.le_of_eq (start_of_matchAt h).symm
  | cons c rest ih =>
    rw [findFrom] at h
    split at h
    · rename_i m' hm
      cases h
      exact Nat.le_of_eq (start_of_matchAt hm).symm
    · exact Nat.le_of_succ_le (ih h)

/-- A match is found where the search begins or later. -/
theorem le_start_of_find {r : Regex} {text : List Char} {start : Nat} {m : Match}
    (h : r.find text start = some m) : start ≤ m.start :=
  le_start_of_findFrom h

end Regex

end TextMasking
