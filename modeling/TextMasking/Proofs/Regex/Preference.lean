import TextMasking.Proofs.Regex.Runs

/-! # Preferred threads

A search prefers the threads that come first: if some of them lead to a match, threads after them do
not change what it answers (`runThreads_append`).  So an expression that begins with a choice prefers
the first option wherever that leads to a match (`Regex.exists_preferred_left`). -/

namespace TextMasking

/-! ### Threads behind others -/

/-- The leaves before one that accepts are all that counts. -/
theorem cut_append_of_some {leaves : List Leaf} {k : Captures} (h : (cut leaves).2 = some k)
    (more : List Leaf) : cut (leaves ++ more) = cut leaves := by
  induction leaves with
  | nil => cases h
  | cons leaf rest ih =>
      cases leaf with
      | accept c => rfl
      | read s gs c => rw [List.cons_append, cut, cut, ih h]

theorem cut_append_of_none {leaves : List Leaf} (h : (cut leaves).2 = none) (more : List Leaf) :
    cut (leaves ++ more) = ((cut leaves).1 ++ (cut more).1, (cut more).2) := by
  induction leaves with
  | nil => rfl
  | cons leaf rest ih =>
      cases leaf with
      | accept c => cases h
      | read s gs c =>
          rw [List.cons_append, cut, ih h]
          rfl

/-- Of threads with the same goals the first stays. -/
theorem exists_distinct_append (ts more : List Thread) :
    ∃ kept, distinct (ts ++ more) = distinct ts ++ kept := by
  induction ts with
  | nil => exact ⟨distinct more, rfl⟩
  | cons t ts ih =>
      obtain ⟨kept, hkept⟩ := ih
      refine ⟨kept.filter fun u => u.goals != t.goals, ?_⟩
      rw [List.cons_append, distinct, hkept, List.filter_append]
      rfl

theorem exists_step_append (c : Char) (leaves more : List (CharSet × List Goal × Captures)) :
    ∃ kept, step c (leaves ++ more) = step c leaves ++ kept := by
  rw [step, List.filterMap_append]
  exact exists_distinct_append _ _

/-- **Threads that lead to a match are preferred to all that come after them,** and to any match
known before. -/
theorem runThreads_append {rest : List Char} {prev : Option Char} {pos : Nat} {ts : List Thread}
    {found : Nat × Captures} (h : runThreads prev pos none rest ts = some found)
    (best : Option (Nat × Captures)) (more : List Thread) :
    runThreads prev pos best rest (ts ++ more) = some found := by
  induction rest generalizing prev pos ts best more with
  | nil =>
      rw [runThreads] at h ⊢
      rw [List.flatMap_append]
      cases hcut : (cut (ts.flatMap fun t => expand prev none pos t.goals t.caps)).2 with
      | none =>
          rw [hcut] at h
          cases h
      | some k =>
          rw [hcut] at h
          rw [cut_append_of_some hcut, hcut]
          exact h
  | cons c rest ih =>
      rw [runThreads] at h ⊢
      rw [List.flatMap_append]
      cases hcut : (cut (ts.flatMap fun t => expand prev (some c) pos t.goals t.caps)).2 with
      | some k =>
          rw [hcut] at h
          rw [cut_append_of_some hcut, hcut]
          exact h
      | none =>
          rw [hcut] at h
          rw [cut_append_of_none hcut]
          obtain ⟨kept, hkept⟩ := exists_step_append c
            (cut (ts.flatMap fun t => expand prev (some c) pos t.goals t.caps)).1
            (cut (more.flatMap fun t => expand prev (some c) pos t.goals t.caps)).1
          dsimp only
          rw [hkept]
          cases hstep : step c (cut (ts.flatMap fun t =>
              expand prev (some c) pos t.goals t.caps)).1 with
          | nil =>
              rw [hstep] at h
              cases h
          | cons t moved =>
              rw [hstep] at h
              exact ih h _ kept

/-- A search depends on what its threads can do next. -/
theorem runThreads_congr {prev : Option Char} {pos : Nat} {ts ts' : List Thread}
    (h : ∀ next, (ts.flatMap fun t => expand prev next pos t.goals t.caps) =
      ts'.flatMap fun t => expand prev next pos t.goals t.caps)
    (best : Option (Nat × Captures)) (rest : List Char) :
    runThreads prev pos best rest ts = runThreads prev pos best rest ts' := by
  cases rest <;> simp only [runThreads, h]

namespace Regex

variable {a b r : Regex} {text : List Char} {pos : Nat}

/-- **A choice prefers its first option** if that leads to a match. -/
theorem exists_preferred_left {stop : Nat} {out : Captures}
    (h : Runs text stop out pos [.run a, .run r] .empty) :
    ∃ found, (Regex.seq (.alt a b) r).preferred text pos = some found ∧
      Runs text found.stop found.caps pos [.run a, .run r] .empty := by
  obtain ⟨stop', out', hsearch⟩ := exists_search_of_runs h
  refine ⟨⟨pos, stop', out'⟩, Option.map_eq_some_iff.mpr ⟨(stop', out'), ?_, rfl⟩,
    runs_of_search hsearch⟩
  -- the two options are two threads, the preferred one first
  rw [← runThreads_append hsearch none [⟨[.run b, .run r], .empty⟩]]
  refine runThreads_congr (fun next => ?_) none _
  simp only [List.flatMap_cons, List.flatMap_nil, List.append_nil, List.singleton_append, expand]

end Regex

end TextMasking
