import TextMasking.Regex.CharSet

/-!
# Regular expressions

Regular expressions over characters, with assertions on the two characters around a position, named
groups, and repetitions that take as many or as few copies as they can. A group without a name
leaves no trace.
-/

namespace TextMasking

open Unicode

/-- A condition on the edge between two words. -/
inductive WordEdge where
  | boundary
  | notBoundary
  | start
  | stop
  | startHalf
  | stopHalf
  deriving DecidableEq, Repr

/-- A condition on a position that reads no character. -/
inductive Assertion where
  | textStart
  | textEnd
  | lineStart
  | lineEnd
  /-- Start of a line where a carriage return ends lines too. -/
  | lineStartCr
  /-- End of a line where a carriage return ends lines too. -/
  | lineEndCr
  /-- An edge between words of any script, or of ASCII characters only. -/
  | word (edge : WordEdge) (ascii : Bool)
  deriving DecidableEq, Repr

namespace WordEdge

/-- Decides the edge from whether a word character comes before and after. -/
def holds : WordEdge → Bool → Bool → Bool
  | .boundary, before, after => before != after
  | .notBoundary, before, after => before == after
  | .start, before, after => !before && after
  | .stop, before, after => before && !after
  | .startHalf, before, _ => !before
  | .stopHalf, _, after => !after

end WordEdge

namespace Assertion

/-- Whether the assertion holds between the characters `prev` and `next`. -/
def holds (a : Assertion) (prev next : Option Char) : Bool :=
  match a with
  | .textStart => prev.isNone
  | .textEnd => next.isNone
  | .lineStart => prev.isNone || prev == some '\n'
  | .lineEnd => next.isNone || next == some '\n'
  | .lineStartCr =>
    prev.isNone || prev == some '\n' || (prev == some '\r' && next != some '\n')
  | .lineEndCr =>
    next.isNone || next == some '\r' || (next == some '\n' && prev != some '\r')
  | .word edge ascii =>
    let set := if ascii then CharSet.asciiWord else CharSet.word
    edge.holds (prev.any set.holds) (next.any set.holds)

end Assertion

/-- A regular expression. -/
inductive Regex where
  | empty
  | set (s : CharSet)
  | assert (a : Assertion)
  | group (name : String) (r : Regex)
  | seq (a b : Regex)
  /-- Either of two; the first is preferred. -/
  | alt (a b : Regex)
  /-- At least `min` and at most `max` copies; as many as possible if `greedy`, else as few. -/
  | times (r : Regex) (min : Nat) (max : Option Nat) (greedy : Bool)
  deriving DecidableEq

namespace Regex

/-- The expressions one after the other. -/
def seqs : List Regex → Regex
  | [] => .empty
  | [r] => r
  | r :: rest => .seq r (seqs rest)

/-- Any of the expressions, the earlier the better. -/
def alts : List Regex → Regex
  | [] => .empty
  | [r] => r
  | r :: rest => .alt r (alts rest)

/-- The expression or nothing, preferably the expression. -/
def optional (r : Regex) : Regex := .times r 0 (some 1) true

/-- The character `c`, in either case if `fold`. -/
def char (fold : Bool) (c : Char) : Regex :=
  .set (if fold then .folded (.char c) else .char c)

/-- Bounds how often an expression is taken apart between two characters of a text. -/
def weight : Regex → Nat
  | .empty => 1
  | .set _ => 1
  | .assert _ => 1
  | .group _ r => r.weight + 3
  | .seq a b => a.weight + b.weight + 1
  | .alt a b => a.weight + b.weight + 1
  | .times r min max _ => (min + max.getD 0 + 1) * (r.weight + 2)

end Regex

end TextMasking
