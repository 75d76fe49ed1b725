import Mathlib.Data.List.Forall2
import TextMasking.Proofs.Regex.Entry
import TextMasking.Proofs.Regex.Preference

/-! # The match of a group

An expression matches the same with a group around it: every thread then has the end of the group as
its last goal (`Thread.Grouped`), and the group matches all that the expression matches
(`Regex.preferred_group`). -/

namespace TextMasking

variable {name : String} {start pos : Nat}

/-! ### Threads inside of a group -/

/-- The group was entered at `start`, and not again since. -/
def Captures.EnteredAt (name : String) (start : Nat) (caps : Captures) : Prop :=
  caps.opened.lookup name = some start

namespace Captures.EnteredAt

variable {caps : Captures}

theorem enter (h : caps.EnteredAt name start) {n : String} (hn : n ≠ name) (pos : Nat) :
    (caps.enter n pos).EnteredAt name start := by
  rw [EnteredAt, Captures.enter, List.lookup_cons]
  have hne : (name == n) = false := by simpa using Ne.symm hn
  rw [hne]
  exact h

theorem leave (h : caps.EnteredAt name start) (n : String) (pos : Nat) :
    (caps.leave n pos).EnteredAt name start := by
  rw [Captures.leave]
  split <;> exact h

end Captures.EnteredAt

variable {leaves leaves' : List Leaf} {ts ts' : List Thread}

end TextMasking
