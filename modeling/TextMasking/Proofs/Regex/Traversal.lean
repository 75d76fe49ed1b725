import Mathlib.Tactic.SplitIfs
import TextMasking.Regex.Search

/-! # What a search keeps

A search takes goals apart one at a time (`Unfolds`) and reads characters.  Whatever both keep holds
of the groups of every match that is found (`Regex.matchAt_invariant`), although a search runs many
threads at once and drops some of them.

The first use: what a named group matched lies in what the whole expression matched
(`Regex.span?_of_find`). -/

namespace TextMasking

/-- One step of taking goals apart at `pos`, between the characters `prev` and `next`. -/
inductive Unfolds (prev next : Option Char) (pos : Nat) :
    List Goal → Captures → List Goal → Captures → Prop
  | leave (name : String) (gs : List Goal) (caps : Captures) :
      Unfolds prev next pos (.leave name :: gs) caps gs (caps.leave name pos)
  | againMore (r : Regex) (greedy : Bool) (gs : List Goal) (caps : Captures) :
      Unfolds prev next pos (.again r greedy true :: gs) caps
        (.run r :: .again r greedy false :: gs) caps
  | againDone (r : Regex) (greedy moved : Bool) (gs : List Goal) (caps : Captures) :
      Unfolds prev next pos (.again r greedy moved :: gs) caps gs caps
  | empty (gs : List Goal) (caps : Captures) :
      Unfolds prev next pos (.run .empty :: gs) caps gs caps
  | assert (a : Assertion) (gs : List Goal) (caps : Captures) (h : a.holds prev next = true) :
      Unfolds prev next pos (.run (.assert a) :: gs) caps gs caps
  | enter (name : String) (r : Regex) (gs : List Goal) (caps : Captures) :
      Unfolds prev next pos (.run (.group name r) :: gs) caps (.run r :: .leave name :: gs)
        (caps.enter name pos)
  | seq (a b : Regex) (gs : List Goal) (caps : Captures) :
      Unfolds prev next pos (.run (.seq a b) :: gs) caps (.run a :: .run b :: gs) caps
  | left (a b : Regex) (gs : List Goal) (caps : Captures) :
      Unfolds prev next pos (.run (.alt a b) :: gs) caps (.run a :: gs) caps
  | right (a b : Regex) (gs : List Goal) (caps : Captures) :
      Unfolds prev next pos (.run (.alt a b) :: gs) caps (.run b :: gs) caps
  | timesDone (r : Regex) (max : Option Nat) (greedy : Bool) (gs : List Goal) (caps : Captures) :
      Unfolds prev next pos (.run (.times r 0 max greedy) :: gs) caps gs caps
  | timesOptional (r : Regex) (m : Nat) (greedy : Bool) (gs : List Goal) (caps : Captures) :
      Unfolds prev next pos (.run (.times r 0 (some (m + 1)) greedy) :: gs) caps
        (.run r :: .run (.times r 0 (some m) greedy) :: gs) caps
  | timesBounded (r : Regex) (n m : Nat) (greedy : Bool) (gs : List Goal) (caps : Captures) :
      Unfolds prev next pos (.run (.times r (n + 1) (some m) greedy) :: gs) caps
        (.run r :: .run (.times r n (some (m - 1)) greedy) :: gs) caps
  | timesAny (r : Regex) (greedy : Bool) (gs : List Goal) (caps : Captures) :
      Unfolds prev next pos (.run (.times r 0 none greedy) :: gs) caps
        (.run r :: .again r greedy false :: gs) caps
  | timesSome (r : Regex) (greedy : Bool) (gs : List Goal) (caps : Captures) :
      Unfolds prev next pos (.run (.times r 1 none greedy) :: gs) caps
        (.run r :: .again r greedy false :: gs) caps
  | timesMore (r : Regex) (n : Nat) (greedy : Bool) (gs : List Goal) (caps : Captures) :
      Unfolds prev next pos (.run (.times r (n + 2) none greedy) :: gs) caps
        (.run r :: .run (.times r (n + 1) none greedy) :: gs) caps

/-- What is asked of a leaf if `P` is asked of goals and groups: a thread that reads is asked it
before it reads. -/
def Leaf.Holds (P : List Goal → Captures → Prop) : Leaf → Prop
  | .accept caps => P [] caps
  | .read s gs caps => P (.run (.set s) :: gs) caps

theorem mem_prefer {α : Type} {greedy : Bool} {more fewer : List α} {x : α} :
    x ∈ prefer greedy more fewer ↔ x ∈ more ∨ x ∈ fewer := by
  cases greedy <;> simp [prefer, or_comm]

/-- What every step of taking goals apart keeps holds of every leaf. -/
theorem expand_invariant {prev next : Option Char} {pos : Nat}
    {P : List Goal → Captures → Prop}
    (hP : ∀ {gs caps gs' caps'}, Unfolds prev next pos gs caps gs' caps' → P gs caps → P gs' caps')
    {gs : List Goal} {caps : Captures} (h : P gs caps) :
    ∀ leaf ∈ expand prev next pos gs caps, leaf.Holds P := by
  induction gs, caps using expand.induct prev next pos with
  | case1 caps =>
      intro leaf hl
      rw [expand, List.mem_singleton] at hl
      rw [hl]
      exact h
  | case2 caps name gs ih =>
      rw [expand]
      exact ih (hP (.leave ..) h)
  | case3 r greedy gs caps ihMore ihDone =>
      intro leaf hl
      rw [expand, mem_prefer] at hl
      exact hl.elim (ihMore (hP (.againMore ..) h) leaf) (ihDone (hP (.againDone ..) h) leaf)
  | case4 r greedy gs caps ih =>
      rw [expand]
      exact ih (hP (.againDone ..) h)
  | case5 gs caps ih =>
      rw [expand]
      exact ih (hP (.empty ..) h)
  | case6 s gs caps =>
      intro leaf hl
      rw [expand, List.mem_singleton] at hl
      rw [hl]
      exact h
  | case7 a gs caps ha ih =>
      rw [expand, if_pos ha]
      exact ih (hP (.assert a gs caps ha) h)
  | case8 a gs caps ha =>
      rw [expand, if_neg ha]
      simp
  | case9 name r gs caps ih =>
      rw [expand]
      exact ih (hP (.enter ..) h)
  | case10 a b gs caps ih =>
      rw [expand]
      exact ih (hP (.seq ..) h)
  | case11 a b gs caps ihLeft ihRight =>
      intro leaf hl
      rw [expand, List.mem_append] at hl
      exact hl.elim (ihLeft (hP (.left ..) h) leaf) (ihRight (hP (.right ..) h) leaf)
  | case12 r greedy gs caps ih =>
      rw [expand]
      exact ih (hP (.timesDone ..) h)
  | case13 r m greedy gs caps ihMore ihDone =>
      intro leaf hl
      rw [expand, mem_prefer] at hl
      exact hl.elim (ihMore (hP (.timesOptional ..) h) leaf) (ihDone (hP (.timesDone ..) h) leaf)
  | case14 r greedy gs caps ihMore ihDone =>
      intro leaf hl
      rw [expand, mem_prefer] at hl
      exact hl.elim (ihMore (hP (.timesAny ..) h) leaf) (ihDone (hP (.timesDone ..) h) leaf)
  | case15 r greedy gs caps ih =>
      rw [expand]
      exact ih (hP (.timesSome ..) h)
  | case16 r n greedy gs caps ih =>
      rw [expand]
      exact ih (hP (.timesMore ..) h)
  | case17 r n m greedy gs caps ih =>
      rw [expand]
      exact ih (hP (.timesBounded ..) h)

/-! ### Whole searches -/

theorem mem_of_mem_distinct {ts : List Thread} {t : Thread} (h : t ∈ distinct ts) : t ∈ ts := by
  induction ts with
  | nil => cases h
  | cons u rest ih =>
      rcases List.mem_cons.mp h with rfl | h
      · exact List.mem_cons_self
      · exact List.mem_cons_of_mem _ (ih (List.mem_filter.mp h).1)

theorem mem_of_cut_fst {leaves : List Leaf} {s : CharSet} {gs : List Goal} {caps : Captures}
    (h : (s, gs, caps) ∈ (cut leaves).1) : .read s gs caps ∈ leaves := by
  induction leaves with
  | nil => cases h
  | cons leaf rest ih =>
      cases leaf with
      | accept c => cases h
      | read s' gs' c =>
          rcases List.mem_cons.mp h with e | h
          · cases e
            exact List.mem_cons_self
          · exact List.mem_cons_of_mem _ (ih h)

theorem mem_of_cut_snd {leaves : List Leaf} {caps : Captures} (h : (cut leaves).2 = some caps) :
    .accept caps ∈ leaves := by
  induction leaves with
  | nil => cases h
  | cons leaf rest ih =>
      cases leaf with
      | accept c =>
          cases h
          exact List.mem_cons_self
      | read s' gs' c => exact List.mem_cons_of_mem _ (ih h)

/-- A thread after a character was one that could read it. -/
theorem exists_leaf_of_mem_step {c : Char} {leaves : List (CharSet × List Goal × Captures)}
    {t : Thread} (h : t ∈ step c leaves) :
    ∃ s gs, (s, gs, t.caps) ∈ leaves ∧ s.holds c = true ∧ t.goals = gs.map Goal.advance := by
  obtain ⟨⟨s, gs, caps⟩, hmem, ht⟩ := List.mem_filterMap.mp (mem_of_mem_distinct h)
  dsimp only at ht
  split_ifs at ht with hs
  cases ht
  exact ⟨s, gs, hmem, hs, rfl⟩

section

variable {P : Nat → List Goal → Captures → Prop}
  (hunfold : ∀ {prev next pos gs caps gs' caps'}, Unfolds prev next pos gs caps gs' caps' →
    P pos gs caps → P pos gs' caps')
  (hread : ∀ {pos s gs caps}, P pos (.run (.set s) :: gs) caps →
    P (pos + 1) (gs.map Goal.advance) caps)

include hunfold

theorem holds_leaf {prev next : Option Char} {pos : Nat} {threads : List Thread}
    (hthreads : ∀ t ∈ threads, P pos t.goals t.caps) {leaf : Leaf}
    (h : leaf ∈ threads.flatMap fun t => expand prev next pos t.goals t.caps) :
    leaf.Holds (P pos) := by
  obtain ⟨t, ht, hleaf⟩ := List.mem_flatMap.mp h
  exact expand_invariant hunfold (hthreads t ht) leaf hleaf

theorem best_cut (prev next : Option Char) {pos : Nat} {best : Option (Nat × Captures)}
    {threads : List Thread} (hthreads : ∀ t ∈ threads, P pos t.goals t.caps)
    (hbest : ∀ s c, best = some (s, c) → P s [] c ∧ s ≤ pos) (s : Nat) (k : Captures)
    (h : (match (cut (threads.flatMap fun t => expand prev next pos t.goals t.caps)).2 with
      | some caps => some (pos, caps)
      | none => best) = some (s, k)) : P s [] k ∧ s ≤ pos := by
  split at h
  · rename_i k' hc
    cases h
    exact ⟨holds_leaf hunfold hthreads (mem_of_cut_snd hc), Nat.le_refl _⟩
  · exact hbest _ _ h

include hread

/-- What threads keep while they unfold and read holds of the match that is answered. -/
theorem runThreads_invariant {prev : Option Char} {pos stop : Nat} {rest : List Char}
    {best : Option (Nat × Captures)} {threads : List Thread} {caps : Captures}
    (hthreads : ∀ t ∈ threads, P pos t.goals t.caps)
    (hbest : ∀ s c, best = some (s, c) → P s [] c ∧ s ≤ pos)
    (h : runThreads prev pos best rest threads = some (stop, caps)) :
    P stop [] caps ∧ stop ≤ pos + rest.length := by
  induction rest generalizing prev pos best threads with
  | nil =>
      rw [runThreads] at h
      split at h
      · rename_i c hc
        cases h
        exact ⟨holds_leaf hunfold hthreads (mem_of_cut_snd hc), Nat.le_refl _⟩
      · exact hbest _ _ h
  | cons c rest ih =>
      rw [runThreads] at h
      have hbest' := best_cut hunfold prev (some c) hthreads hbest
      split at h
      · obtain ⟨hP, hle⟩ := hbest' _ _ h
        exact ⟨hP, Nat.le_add_right_of_le hle⟩
      · have hmoved : ∀ t ∈ step c (cut (threads.flatMap fun t =>
            expand prev (some c) pos t.goals t.caps)).1, P (pos + 1) t.goals t.caps := by
          intro t ht
          obtain ⟨s, gs, hmem, -, hgoals⟩ := exists_leaf_of_mem_step ht
          rw [hgoals]
          exact hread (holds_leaf hunfold hthreads (mem_of_cut_fst hmem))
        obtain ⟨hP, hle⟩ := ih hmoved (fun s k hk => (hbest' s k hk).imp_right Nat.le_succ_of_le) h
        refine ⟨hP, Nat.le_trans hle ?_⟩
        rw [List.length_cons]
        omega

/-- What unfolding and reading keep holds of the match that starts at a position. -/
theorem Regex.matchAt_invariant {r : Regex} {prev : Option Char} {rest : List Char} {pos : Nat}
    {m : Match} (hstart : P pos [.run r] .empty) (h : r.matchAt prev rest pos = some m) :
    P m.stop [] m.caps ∧ m.stop ≤ pos + rest.length := by
  obtain ⟨⟨stop, caps⟩, hrun, rfl⟩ := Option.map_eq_some_iff.mp h
  refine runThreads_invariant hunfold hread ?_ ?_ hrun
  · intro t ht
    rw [List.mem_singleton.mp ht]
    exact hstart
  · intro s c e
    cases e

end

/-! ### Groups lie in matches -/

/-- At `pos` every group was entered at `start` or later, and what it matched lies before `pos`. -/
def Captures.Within (start pos : Nat) (caps : Captures) : Prop :=
  (∀ o ∈ caps.opened, start ≤ o.2 ∧ o.2 ≤ pos) ∧
    ∀ c ∈ caps.closed, start ≤ c.2.start ∧ c.2.start ≤ c.2.stop ∧ c.2.stop ≤ pos

theorem mem_of_lookup {α β : Type} [BEq α] [LawfulBEq α] {k : α} {v : β} {l : List (α × β)}
    (h : l.lookup k = some v) : (k, v) ∈ l := by
  induction l with
  | nil => cases h
  | cons e l ih =>
      rw [List.lookup_cons] at h
      split at h
      · rename_i he
        cases h
        rw [eq_of_beq he]
        exact List.mem_cons_self
      · exact List.mem_cons_of_mem _ (ih h)

namespace Captures

variable {start pos : Nat} {caps : Captures}

theorem Within.enter (h : caps.Within start pos) (hle : start ≤ pos) (name : String) :
    (caps.enter name pos).Within start pos := by
  refine ⟨?_, h.2⟩
  intro o ho
  rcases List.mem_cons.mp ho with rfl | ho
  · exact ⟨hle, Nat.le_refl _⟩
  · exact h.1 o ho

theorem Within.leave (h : caps.Within start pos) (name : String) :
    (caps.leave name pos).Within start pos := by
  rw [Captures.leave]
  split
  · rename_i o ho
    refine ⟨h.1, ?_⟩
    intro c hc
    rcases List.mem_cons.mp hc with rfl | hc
    · obtain ⟨hs, hp⟩ := h.1 _ (mem_of_lookup ho)
      exact ⟨hs, hp, Nat.le_refl _⟩
    · exact h.2 c hc
  · exact h

theorem Within.succ (h : caps.Within start pos) : caps.Within start (pos + 1) :=
  ⟨fun o ho => (h.1 o ho).imp_right Nat.le_succ_of_le,
    fun c hc => ⟨(h.2 c hc).1, (h.2 c hc).2.1, Nat.le_succ_of_le (h.2 c hc).2.2⟩⟩

end Captures

namespace Regex

/-- What the groups of a match matched lies in the match. -/
theorem within_of_matchAt {r : Regex} {prev : Option Char} {rest : List Char} {pos : Nat}
    {m : Match} (h : r.matchAt prev rest pos = some m) :
    m.caps.Within pos m.stop ∧ m.stop ≤ pos + rest.length := by
  have := matchAt_invariant (P := fun p _ caps => pos ≤ p ∧ caps.Within pos p) ?_ ?_ ?_ h
  · exact ⟨this.1.2, this.2⟩
  · rintro prev next p gs caps gs' caps' hu ⟨hle, hw⟩
    refine ⟨hle, ?_⟩
    cases hu with
    | leave name => exact hw.leave name
    | enter name r gs => exact hw.enter hle name
    | _ => exact hw
  · rintro p s gs caps ⟨hle, hw⟩
    exact ⟨Nat.le_succ_of_le hle, hw.succ⟩
  · exact ⟨Nat.le_refl _, by simp [Captures.empty], by simp [Captures.empty]⟩

/-- The preferred match that starts at a position of a text. -/
def preferred (r : Regex) (text : List Char) (pos : Nat) : Option Match :=
  r.matchAt (if pos = 0 then none else text[pos - 1]?) (text.drop pos) pos

theorem start_of_preferred {r : Regex} {text : List Char} {pos : Nat} {m : Match}
    (h : r.preferred text pos = some m) : m.start = pos :=
  start_of_matchAt h

/-- A search tries one position after the other. -/
theorem find_eq {r : Regex} {text : List Char} {start : Nat} :
    r.find text start = (r.preferred text start).or
      (if start < text.length then r.find text (start + 1) else none) := by
  rw [find, preferred]
  cases hd : text.drop start with
  | nil =>
      have : text.length ≤ start := List.drop_eq_nil_iff.mp hd
      rw [findFrom, if_neg (Nat.not_lt_of_le this), Option.or_none]
  | cons c rest =>
      have hlt : start < text.length := by
        refine Nat.lt_of_not_le fun hge => ?_
        rw [List.drop_eq_nil_of_le hge] at hd
        cases hd
      rw [List.drop_eq_getElem_cons hlt] at hd
      obtain ⟨hc, hrest⟩ := List.cons.inj hd
      rw [findFrom, if_pos hlt, find, if_neg (Nat.succ_ne_zero _), Nat.add_sub_cancel,
        List.getElem?_eq_getElem hlt, hc, hrest]
      cases r.matchAt (if start = 0 then none else text[start - 1]?) (c :: rest) start <;> rfl

/-- **A search finds the preferred match at the first position where there is one.** -/
theorem find_spec {r : Regex} {text : List Char} {start : Nat} (hs : start ≤ text.length) :
    match r.find text start with
    | some m => start ≤ m.start ∧ m.start ≤ text.length ∧ r.preferred text m.start = some m ∧
        ∀ q, start ≤ q → q < m.start → r.preferred text q = none
    | none => ∀ q, start ≤ q → q ≤ text.length → r.preferred text q = none := by
  obtain ⟨n, hn⟩ : ∃ n, n = text.length - start := ⟨_, rfl⟩
  induction n generalizing start with
  | zero =>
      obtain rfl : start = text.length := by omega
      rw [find_eq, if_neg (Nat.lt_irrefl _), Option.or_none]
      cases h : r.preferred text text.length with
      | some m =>
          have := start_of_preferred h
          refine ⟨by omega, by omega, by rw [this, h], by omega⟩
      | none =>
          intro q hq hq'
          rw [Nat.le_antisymm hq' hq, h]
  | succ n ih =>
      have hlt : start < text.length := by omega
      rw [find_eq, if_pos hlt]
      cases h : r.preferred text start with
      | some m =>
          have := start_of_preferred h
          exact ⟨by omega, by omega, by rw [this, h], by omega⟩
      | none =>
          have := @ih (start + 1) hlt (by omega)
          rw [Option.none_or]
          cases hf : r.find text (start + 1) with
          | some m =>
              rw [hf] at this
              obtain ⟨h₁, h₂, h₃, h₄⟩ := this
              refine ⟨by omega, h₂, h₃, ?_⟩
              intro q hq hlt'
              rcases Nat.eq_or_lt_of_le hq with rfl | hq
              · exact h
              · exact h₄ q hq hlt'
          | none =>
              rw [hf] at this
              intro q hq hle
              rcases Nat.eq_or_lt_of_le hq with rfl | hq
              · exact h
              · exact this q hq hle

/-- A search that finds nothing has no match from its start on. -/
theorem preferred_eq_none_of_find {r : Regex} {text : List Char} {start pos : Nat}
    (hs : start ≤ text.length) (h : r.find text start = none) (hpos : start ≤ pos)
    (hlen : pos ≤ text.length) : r.preferred text pos = none := by
  have hspec := find_spec (r := r) hs
  rw [h] at hspec
  exact hspec pos hpos hlen

/-- **What a group of a match matched is a part of the text within the match.** -/
theorem span?_of_find {r : Regex} {text : List Char} {start : Nat} {m : Match} {name : String}
    {s : Span} (hs : start ≤ text.length) (h : r.find text start = some m)
    (hspan : m.caps.span? name = some s) :
    m.start ≤ s.start ∧ s.start ≤ s.stop ∧ s.stop ≤ m.stop ∧ m.stop ≤ text.length := by
  have hspec := find_spec (r := r) hs
  rw [h] at hspec
  obtain ⟨-, hle, hm, -⟩ := hspec
  obtain ⟨hw, hstop⟩ := within_of_matchAt hm
  obtain ⟨h₁, h₂, h₃⟩ := hw.2 _ (mem_of_lookup hspan)
  rw [List.length_drop] at hstop
  exact ⟨h₁, h₂, h₃, by omega⟩

end Regex

end TextMasking
