import TextMasking.Proofs.Regex.Traversal

/-! # Runs of one thread

A search keeps many threads and drops those that stand where a preferred one stands.  What it
answers is nevertheless described by runs of a single thread through the text (`Runs`): the match
that starts at a position is the end of a run from there (`Regex.runs_of_preferred`), and where there
is a run there is a match (`Regex.exists_preferred_of_runs`).

A run is taken apart as its goals are.  An expression without assertions, groups and unbounded
repetition reads the texts of a language, whatever goals follow it (`Regex.Reads`). -/

namespace TextMasking

/-- The character before a position. -/
def charBefore (text : List Char) (pos : Nat) : Option Char :=
  if pos = 0 then none else text[pos - 1]?

/-- A thread that stands at a position with these goals and groups can go on to meet its goals at
`stop`, with the groups `out`. -/
inductive Runs (text : List Char) (stop : Nat) (out : Captures) :
    Nat → List Goal → Captures → Prop
  | done : Runs text stop out stop [] out
  | unfold {pos : Nat} {gs gs' : List Goal} {caps caps' : Captures}
      (h : Unfolds (charBefore text pos) text[pos]? pos gs caps gs' caps')
      (more : Runs text stop out pos gs' caps') : Runs text stop out pos gs caps
  | read {pos : Nat} {s : CharSet} {gs : List Goal} {caps : Captures} {c : Char}
      (hc : text[pos]? = some c) (hs : s.holds c = true)
      (more : Runs text stop out (pos + 1) (gs.map Goal.advance) caps) :
      Runs text stop out pos (.run (.set s) :: gs) caps

/-- What a thread can do after a step, it could do before. -/
theorem Unfolds.expand_subset {prev next : Option Char} {pos : Nat} {gs gs' : List Goal}
    {caps caps' : Captures} (h : Unfolds prev next pos gs caps gs' caps') {leaf : Leaf}
    (hl : leaf ∈ expand prev next pos gs' caps') : leaf ∈ expand prev next pos gs caps := by
  cases h with
  | againMore r greedy gs caps =>
      rw [expand, mem_prefer]
      exact .inl hl
  | againDone r greedy moved gs caps =>
      cases moved with
      | false => rwa [expand]
      | true =>
          rw [expand, mem_prefer]
          exact .inr hl
  | assert a gs caps ha => rwa [expand, if_pos ha]
  | left a b gs caps =>
      rw [expand, List.mem_append]
      exact .inl hl
  | right a b gs caps =>
      rw [expand, List.mem_append]
      exact .inr hl
  | timesDone r max greedy gs caps =>
      rcases max with _ | _ | m
      · rw [expand, mem_prefer]
        exact .inr hl
      · rwa [expand]
      · rw [expand, mem_prefer]
        exact .inr hl
  | timesOptional r m greedy gs caps =>
      rw [expand, mem_prefer]
      exact .inl hl
  | timesAny r greedy gs caps =>
      rw [expand, mem_prefer]
      exact .inl hl
  | _ => rwa [expand]

/-- Which steps a thread can take does not depend on its groups. -/
theorem Unfolds.exists_caps {prev next : Option Char} {pos : Nat} {gs gs' : List Goal}
    {caps caps' : Captures} (h : Unfolds prev next pos gs caps gs' caps') (k : Captures) :
    ∃ k', Unfolds prev next pos gs k gs' k' := by
  cases h with
  | assert a gs caps ha => exact ⟨k, .assert a gs' k ha⟩
  | _ => exact ⟨_, by constructor⟩

namespace Runs

variable {text : List Char} {stop pos : Nat} {out caps : Captures} {gs : List Goal}

/-- The first character of a run is read from a leaf, or the run ends where it begins. -/
theorem exists_leaf (h : Runs text stop out pos gs caps) :
    (∃ k, .accept k ∈ expand (charBefore text pos) text[pos]? pos gs caps) ∨
      ∃ s gs' k c, .read s gs' k ∈ expand (charBefore text pos) text[pos]? pos gs caps ∧
        text[pos]? = some c ∧ s.holds c = true ∧
          Runs text stop out (pos + 1) (gs'.map Goal.advance) k := by
  induction h with
  | done => exact .inl ⟨out, by rw [expand]; exact List.mem_singleton_self _⟩
  | unfold hu more ih =>
      obtain ⟨k, hk⟩ | ⟨s, gs', k, c, hl, hrest⟩ := ih
      · exact .inl ⟨k, hu.expand_subset hk⟩
      · exact .inr ⟨s, gs', k, c, hu.expand_subset hl, hrest⟩
  | @read pos s gs caps c hc hs more ih =>
      refine .inr ⟨s, gs, caps, c, ?_, hc, hs, more⟩
      rw [expand]
      exact List.mem_singleton_self _

/-- Where a run can end does not depend on the groups at its start. -/
theorem exists_caps (h : Runs text stop out pos gs caps) (k : Captures) :
    ∃ out', Runs text stop out' pos gs k := by
  induction h generalizing k with
  | done => exact ⟨k, .done⟩
  | unfold hu more ih =>
      obtain ⟨k', hu'⟩ := hu.exists_caps k
      obtain ⟨out', hmore⟩ := ih k'
      exact ⟨out', .unfold hu' hmore⟩
  | read hc hs more ih =>
      obtain ⟨out', hmore⟩ := ih k
      exact ⟨out', .read hc hs hmore⟩

/-- A leaf of a thread that reads is a way for the thread to go on. -/
theorem of_leaf {leaf : Leaf} (hl : leaf ∈ expand (charBefore text pos) text[pos]? pos gs caps) :
    leaf.Holds fun gs' k => Runs text stop out pos gs' k → Runs text stop out pos gs caps := by
  refine expand_invariant (P := fun gs' k => Runs text stop out pos gs' k →
    Runs text stop out pos gs caps) ?_ ?_ leaf hl
  · intro gs₁ k₁ gs₂ k₂ hu h hrun
    exact h (.unfold hu hrun)
  · exact id

end Runs

/-! ### Searches find runs -/

theorem isSome_cut_snd {leaves : List Leaf} {k : Captures} (h : .accept k ∈ leaves) :
    (cut leaves).2.isSome := by
  induction leaves with
  | nil => cases h
  | cons leaf rest ih =>
      cases leaf with
      | accept c => rfl
      | read s gs c => exact ih ((List.mem_cons.mp h).resolve_left (fun e => by cases e))

theorem mem_cut_fst {leaves : List Leaf} {s : CharSet} {gs : List Goal} {k : Captures}
    (h : .read s gs k ∈ leaves) : (s, gs, k) ∈ (cut leaves).1 ∨ (cut leaves).2.isSome := by
  induction leaves with
  | nil => cases h
  | cons leaf rest ih =>
      cases leaf with
      | accept c => exact .inr rfl
      | read s' gs' c =>
          rcases List.mem_cons.mp h with e | h
          · cases e
            exact .inl List.mem_cons_self
          · exact (ih h).imp_left (List.mem_cons_of_mem _)

/-- A thread that is dropped leaves one with the same goals. -/
theorem exists_mem_distinct {ts : List Thread} {t : Thread} (h : t ∈ ts) :
    ∃ u ∈ distinct ts, u.goals = t.goals := by
  induction ts with
  | nil => cases h
  | cons v rest ih =>
      rw [distinct]
      by_cases hv : v.goals = t.goals
      · exact ⟨v, List.mem_cons_self, hv⟩
      · have hrest : t ∈ rest := (List.mem_cons.mp h).resolve_left fun e => hv (e ▸ rfl)
        obtain ⟨u, hu, hgoals⟩ := ih hrest
        refine ⟨u, List.mem_cons_of_mem _ (List.mem_filter.mpr ⟨hu, ?_⟩), hgoals⟩
        rw [hgoals]
        simpa using fun e => hv e.symm

theorem exists_mem_step {c : Char} {leaves : List (CharSet × List Goal × Captures)} {s : CharSet}
    {gs : List Goal} {k : Captures} (h : (s, gs, k) ∈ leaves) (hs : s.holds c = true) :
    ∃ u ∈ step c leaves, u.goals = gs.map Goal.advance := by
  refine exists_mem_distinct (t := ⟨gs.map Goal.advance, k⟩) (List.mem_filterMap.mpr ⟨_, h, ?_⟩)
  exact if_pos hs

section

variable {text : List Char}

theorem drop_eq_cons {pos : Nat} {c : Char} {rest : List Char} (h : text.drop pos = c :: rest) :
    text[pos]? = some c ∧ text.drop (pos + 1) = rest ∧ charBefore text (pos + 1) = some c := by
  have hc : text[pos]? = some c := by
    rw [← List.head?_drop, h]
    rfl
  refine ⟨hc, ?_, ?_⟩
  · rw [← List.tail_drop, h]
    rfl
  · rw [charBefore, if_neg (Nat.succ_ne_zero pos), Nat.add_sub_cancel, hc]

theorem getElem?_of_drop_eq_nil {pos : Nat} (h : text.drop pos = []) : text[pos]? = none := by
  rw [← List.head?_drop, h]
  rfl

/-- A search with a thread that can run, or with a match, answers a match. -/
theorem isSome_runThreads {rest : List Char} {pos : Nat} {best : Option (Nat × Captures)}
    {threads : List Thread} (hrest : text.drop pos = rest)
    (h : best.isSome ∨ ∃ t ∈ threads, ∃ stop out, Runs text stop out pos t.goals t.caps) :
    (runThreads (charBefore text pos) pos best rest threads).isSome := by
  induction rest generalizing pos best threads with
  | nil =>
      have hnext := getElem?_of_drop_eq_nil hrest
      rw [runThreads]
      split
      · rfl
      · rename_i hcut
        refine h.resolve_right ?_
        rintro ⟨t, ht, stop, out, hrun⟩
        obtain ⟨k, hk⟩ | ⟨s, gs, k, c, -, hc, -⟩ := hrun.exists_leaf
        · rw [hnext] at hk
          have hmem : Leaf.accept k ∈
              threads.flatMap fun t => expand (charBefore text pos) none pos t.goals t.caps :=
            List.mem_flatMap.mpr ⟨t, ht, hk⟩
          have hsome := isSome_cut_snd hmem
          rw [hcut] at hsome
          cases hsome
        · rw [hnext] at hc
          cases hc
  | cons c rest ih =>
      obtain ⟨hnext, hdrop, hbefore⟩ := drop_eq_cons hrest
      rw [runThreads]
      generalize hleaves : (threads.flatMap fun t =>
        expand (charBefore text pos) (some c) pos t.goals t.caps) = leaves
      have hleaf : ∀ t ∈ threads, ∀ leaf ∈ expand (charBefore text pos) (some c) pos t.goals t.caps,
          leaf ∈ leaves := by
        intro t ht leaf hl
        rw [← hleaves]
        exact List.mem_flatMap.mpr ⟨t, ht, hl⟩
      -- a thread that runs is moved on, unless a match is known that is preferred to it
      have hmoved : (∃ k, (cut leaves).2 = some k) ∨ best.isSome ∨
          ∃ t ∈ step c (cut leaves).1, ∃ stop out,
            Runs text stop out (pos + 1) t.goals t.caps := by
        rcases h with hbest | ⟨t, ht, stop, out, hrun⟩
        · exact .inr (.inl hbest)
        · obtain ⟨k, hk⟩ | ⟨s, gs, k, d, hl, hd, hs, hmore⟩ := hrun.exists_leaf
          · rw [hnext] at hk
            exact .inl (Option.isSome_iff_exists.mp (isSome_cut_snd (hleaf t ht _ hk)))
          · rw [hnext] at hl hd
            cases hd
            rcases mem_cut_fst (hleaf t ht _ hl) with hcut | hcut
            · obtain ⟨u, hu, hgoals⟩ := exists_mem_step hcut hs
              obtain ⟨out', hrun'⟩ := hmore.exists_caps u.caps
              exact .inr (.inr ⟨u, hu, stop, out', hgoals ▸ hrun'⟩)
            · exact .inl (Option.isSome_iff_exists.mp hcut)
      rw [← hbefore]
      cases hcut : (cut leaves).2 with
      | some k =>
          cases hstep : step c (cut leaves).1 with
          | nil => rfl
          | cons t ts => exact ih hdrop (.inl rfl)
      | none =>
          rw [hcut] at hmoved
          obtain ⟨k, hk⟩ | hbest | ⟨t, ht, hrun⟩ := hmoved
          · cases hk
          · cases hstep : step c (cut leaves).1 with
            | nil => exact hbest
            | cons t ts => exact ih hdrop (.inl hbest)
          · cases hstep : step c (cut leaves).1 with
            | nil =>
                rw [hstep] at ht
                cases ht
            | cons u us =>
                rw [hstep] at ht
                exact ih hdrop (.inr ⟨t, ht, hrun⟩)

/-- What a search answers is the end of a run from where it began. -/
theorem runs_of_runThreads {rest : List Char} {pos : Nat} {best : Option (Nat × Captures)}
    {threads : List Thread} (hrest : text.drop pos = rest) {start : Nat} {gs : List Goal}
    {caps : Captures}
    (hthreads : ∀ t ∈ threads, ∀ stop out, Runs text stop out pos t.goals t.caps →
      Runs text stop out start gs caps)
    (hbest : ∀ stop out, best = some (stop, out) → Runs text stop out start gs caps)
    {stop : Nat} {out : Captures}
    (h : runThreads (charBefore text pos) pos best rest threads = some (stop, out)) :
    Runs text stop out start gs caps := by
  induction rest generalizing pos best threads with
  | nil =>
      have hnext := getElem?_of_drop_eq_nil hrest
      rw [runThreads] at h
      split at h
      · rename_i k hcut
        cases h
        obtain ⟨t, ht, hl⟩ := List.mem_flatMap.mp (mem_of_cut_snd hcut)
        rw [← hnext] at hl
        exact hthreads t ht _ _ (Runs.of_leaf hl .done)
      · exact hbest _ _ h
  | cons c rest ih =>
      obtain ⟨hnext, hdrop, hbefore⟩ := drop_eq_cons hrest
      rw [runThreads] at h
      generalize hleaves : (threads.flatMap fun t =>
        expand (charBefore text pos) (some c) pos t.goals t.caps) = leaves at h
      have hleaf : ∀ {leaf : Leaf}, leaf ∈ leaves →
          ∃ t ∈ threads, leaf ∈ expand (charBefore text pos) text[pos]? pos t.goals t.caps := by
        intro leaf hl
        rw [← hleaves, ← hnext] at hl
        exact List.mem_flatMap.mp hl
      have hmoved : ∀ best', (∀ stop out, best' = some (stop, out) → Runs text stop out start gs caps) →
          runThreads (some c) (pos + 1) best' rest (step c (cut leaves).1) = some (stop, out) →
            Runs text stop out start gs caps := by
        intro best' hbest' h
        rw [← hbefore] at h
        refine ih hdrop ?_ hbest' h
        intro u hu stop out hrun
        obtain ⟨s, gs', hmem, hs, hgoals⟩ := exists_leaf_of_mem_step hu
        obtain ⟨t, ht, hl⟩ := hleaf (mem_of_cut_fst hmem)
        rw [hgoals] at hrun
        exact hthreads t ht _ _ (Runs.of_leaf hl (.read hnext hs hrun))
      cases hcut : (cut leaves).2 with
      | some k =>
          have hk : ∀ stop out, some (pos, k) = some (stop, out) →
              Runs text stop out start gs caps := by
            rintro _ _ ⟨⟩
            obtain ⟨t, ht, hl⟩ := hleaf (mem_of_cut_snd hcut)
            exact hthreads t ht _ _ (Runs.of_leaf hl .done)
          rw [hcut] at h
          cases hstep : step c (cut leaves).1 with
          | nil =>
              rw [hstep] at h
              exact hk _ _ h
          | cons u us =>
              rw [hstep] at h
              exact hmoved _ hk (hstep ▸ h)
      | none =>
          rw [hcut] at h
          cases hstep : step c (cut leaves).1 with
          | nil =>
              rw [hstep] at h
              exact hbest _ _ h
          | cons u us =>
              rw [hstep] at h
              exact hmoved _ hbest (hstep ▸ h)

/-- What a search with one thread answers is the end of a run of it. -/
theorem runs_of_search {pos stop : Nat} {out : Captures} {gs : List Goal}
    (h : runThreads (charBefore text pos) pos none (text.drop pos) [⟨gs, .empty⟩] =
      some (stop, out)) : Runs text stop out pos gs .empty := by
  refine runs_of_runThreads (Eq.refl (text.drop pos)) ?_ ?_ h
  · intro t ht stop out hrun
    rwa [List.mem_singleton.mp ht] at hrun
  · intro stop out e
    cases e

/-- A search with a thread that can run answers something. -/
theorem exists_search_of_runs {pos stop : Nat} {out : Captures} {gs : List Goal}
    (h : Runs text stop out pos gs .empty) :
    ∃ stop' out', runThreads (charBefore text pos) pos none (text.drop pos) [⟨gs, .empty⟩] =
      some (stop', out') := by
  have hsome : (runThreads (charBefore text pos) pos none (text.drop pos) [⟨gs, .empty⟩]).isSome :=
    isSome_runThreads rfl (.inr ⟨_, List.mem_singleton_self _, stop, out, h⟩)
  obtain ⟨⟨stop', out'⟩, hrun⟩ := Option.isSome_iff_exists.mp hsome
  exact ⟨stop', out', hrun⟩

end

namespace Regex

variable {r : Regex} {text : List Char} {pos : Nat}

/-- **A match is the end of a run.** -/
theorem runs_of_preferred {m : Match} (h : r.preferred text pos = some m) :
    Runs text m.stop m.caps pos [.run r] .empty := by
  obtain ⟨⟨stop, out⟩, hrun, rfl⟩ := Option.map_eq_some_iff.mp h
  exact runs_of_search hrun

/-- **Where there is a run there is a match.** -/
theorem exists_preferred_of_runs {stop : Nat} {out : Captures}
    (h : Runs text stop out pos [.run r] .empty) : ∃ m, r.preferred text pos = some m := by
  obtain ⟨stop', out', hrun⟩ := exists_search_of_runs h
  exact ⟨⟨pos, stop', out'⟩, Option.map_eq_some_iff.mpr ⟨_, hrun, rfl⟩⟩

end Regex

/-! ### Runs by their first goal -/

/-- None of the goals is changed when a character is read. -/
def Goal.Unmoved (gs : List Goal) : Prop := gs.map Goal.advance = gs

namespace Goal

theorem unmoved_nil : Unmoved [] := rfl

theorem unmoved_run {r : Regex} {gs : List Goal} (h : Unmoved gs) : Unmoved (.run r :: gs) :=
  congrArg (Goal.run r :: ·) h

theorem unmoved_leave {name : String} {gs : List Goal} (h : Unmoved gs) :
    Unmoved (.leave name :: gs) :=
  congrArg (Goal.leave name :: ·) h

end Goal

namespace Runs

variable {text : List Char} {stop pos : Nat} {out caps : Captures} {gs : List Goal}

theorem nil_iff : Runs text stop out pos [] caps ↔ pos = stop ∧ caps = out := by
  constructor
  · intro h
    cases h with
    | done => exact ⟨rfl, rfl⟩
    | unfold h more => cases h
  · rintro ⟨rfl, rfl⟩
    exact .done

theorem leave_iff {name : String} : Runs text stop out pos (.leave name :: gs) caps ↔
    Runs text stop out pos gs (caps.leave name pos) := by
  constructor
  · intro h
    cases h with
    | unfold h more =>
        cases h
        exact more
  · exact .unfold (.leave name gs caps)

theorem empty_iff : Runs text stop out pos (.run .empty :: gs) caps ↔
    Runs text stop out pos gs caps := by
  constructor
  · intro h
    cases h with
    | unfold h more =>
        cases h
        exact more
  · exact .unfold (.empty gs caps)

theorem set_iff {s : CharSet} (hgs : Goal.Unmoved gs) :
    Runs text stop out pos (.run (.set s) :: gs) caps ↔
      ∃ c, text[pos]? = some c ∧ s.holds c = true ∧ Runs text stop out (pos + 1) gs caps := by
  constructor
  · intro h
    cases h with
    | unfold h more => cases h
    | read hc hs more => exact ⟨_, hc, hs, hgs ▸ more⟩
  · rintro ⟨c, hc, hs, more⟩
    exact .read hc hs (hgs.symm ▸ more)

theorem assert_iff {a : Assertion} : Runs text stop out pos (.run (.assert a) :: gs) caps ↔
    a.holds (charBefore text pos) text[pos]? = true ∧ Runs text stop out pos gs caps := by
  constructor
  · intro h
    cases h with
    | unfold h more =>
        cases h with
        | assert _ _ _ ha => exact ⟨ha, more⟩
  · rintro ⟨ha, more⟩
    exact .unfold (.assert a gs caps ha) more

theorem group_iff {name : String} {r : Regex} :
    Runs text stop out pos (.run (.group name r) :: gs) caps ↔
      Runs text stop out pos (.run r :: .leave name :: gs) (caps.enter name pos) := by
  constructor
  · intro h
    cases h with
    | unfold h more =>
        cases h
        exact more
  · exact .unfold (.enter name r gs caps)

theorem seq_iff {a b : Regex} : Runs text stop out pos (.run (.seq a b) :: gs) caps ↔
    Runs text stop out pos (.run a :: .run b :: gs) caps := by
  constructor
  · intro h
    cases h with
    | unfold h more =>
        cases h
        exact more
  · exact .unfold (.seq a b gs caps)

theorem alt_iff {a b : Regex} : Runs text stop out pos (.run (.alt a b) :: gs) caps ↔
    Runs text stop out pos (.run a :: gs) caps ∨ Runs text stop out pos (.run b :: gs) caps := by
  constructor
  · intro h
    cases h with
    | unfold h more =>
        cases h with
        | left => exact .inl more
        | right => exact .inr more
  · rintro (h | h)
    · exact .unfold (.left a b gs caps) h
    · exact .unfold (.right a b gs caps) h

theorem none_iff {r : Regex} {greedy : Bool} :
    Runs text stop out pos (.run (.times r 0 (some 0) greedy) :: gs) caps ↔
      Runs text stop out pos gs caps := by
  constructor
  · intro h
    cases h with
    | unfold h more =>
        cases h
        exact more
  · exact .unfold (.timesDone r (some 0) greedy gs caps)

theorem optional_iff {r : Regex} {greedy : Bool} :
    Runs text stop out pos (.run (.times r 0 (some 1) greedy) :: gs) caps ↔
      Runs text stop out pos gs caps ∨
        Runs text stop out pos (.run r :: .run (.times r 0 (some 0) greedy) :: gs) caps := by
  constructor
  · intro h
    cases h with
    | unfold h more =>
        cases h with
        | timesDone => exact .inl more
        | timesOptional => exact .inr more
  · rintro (h | h)
    · exact .unfold (.timesDone r (some 1) greedy gs caps) h
    · exact .unfold (.timesOptional r 0 greedy gs caps) h

theorem times_one_iff {r : Regex} {m : Nat} {greedy : Bool} :
    Runs text stop out pos (.run (.times r 1 (some (m + 1)) greedy) :: gs) caps ↔
      Runs text stop out pos (.run r :: .run (.times r 0 (some m) greedy) :: gs) caps := by
  constructor
  · intro h
    cases h with
    | unfold h more =>
        cases h
        exact more
  · exact .unfold (.timesBounded r 0 (m + 1) greedy gs caps)

end Runs

/-! ### Expressions that read a language -/

theorem append_prefix_drop {text x y : List Char} {pos : Nat} :
    x ++ y <+: text.drop pos ↔ x <+: text.drop pos ∧ y <+: text.drop (pos + x.length) := by
  constructor
  · rintro ⟨z, hz⟩
    refine ⟨⟨y ++ z, by rw [← hz, List.append_assoc]⟩, z, ?_⟩
    rw [← List.drop_drop, ← hz, List.append_assoc, List.drop_left]
  · rintro ⟨⟨z, hz⟩, z', hz'⟩
    refine ⟨z', ?_⟩
    rw [← List.drop_drop, ← hz, List.drop_left] at hz'
    rw [List.append_assoc, hz', hz]

theorem singleton_prefix_drop {text : List Char} {c : Char} {pos : Nat} :
    [c] <+: text.drop pos ↔ text[pos]? = some c := by
  rw [← List.head?_drop]
  cases h : text.drop pos with
  | nil => simp
  | cons d rest => simp [List.cons_prefix_cons, eq_comm]

namespace Regex

/-- The expression reads the texts of the language `L`, whatever goals follow it. -/
def Reads (r : Regex) (L : List Char → Prop) : Prop :=
  ∀ (text : List Char) (stop pos : Nat) (out caps : Captures) (gs : List Goal), Goal.Unmoved gs →
    (Runs text stop out pos (.run r :: gs) caps ↔
      ∃ u, L u ∧ u <+: text.drop pos ∧ Runs text stop out (pos + u.length) gs caps)

/-- Two languages one after the other. -/
def Joined (A B : List Char → Prop) (u : List Char) : Prop :=
  ∃ x y, A x ∧ B y ∧ u = x ++ y

namespace Reads

variable {a b : Regex} {A B : List Char → Prop}

theorem runs_iff (ha : a.Reads A) {text : List Char} {stop pos : Nat} {out caps : Captures}
    {gs : List Goal} (hgs : Goal.Unmoved gs) : Runs text stop out pos (.run a :: gs) caps ↔
      ∃ u, A u ∧ u <+: text.drop pos ∧ Runs text stop out (pos + u.length) gs caps :=
  ha text stop pos out caps gs hgs

theorem congr (h : a.Reads A) (hAB : ∀ u, A u ↔ B u) : a.Reads B := by
  intro text stop pos out caps gs hgs
  rw [h.runs_iff hgs]
  simp only [hAB]

theorem empty : Regex.empty.Reads (· = []) := by
  intro text stop pos out caps gs hgs
  rw [Runs.empty_iff]
  constructor
  · intro h
    exact ⟨[], rfl, List.nil_prefix, h⟩
  · rintro ⟨_, rfl, -, h⟩
    exact h

theorem set (s : CharSet) : (Regex.set s).Reads fun u => ∃ c, u = [c] ∧ s.holds c = true := by
  intro text stop pos out caps gs hgs
  rw [Runs.set_iff hgs]
  constructor
  · rintro ⟨c, hc, hs, h⟩
    exact ⟨[c], ⟨c, rfl, hs⟩, singleton_prefix_drop.mpr hc, h⟩
  · rintro ⟨_, ⟨c, rfl, hs⟩, hc, h⟩
    exact ⟨c, singleton_prefix_drop.mp hc, hs, h⟩

/-- The goals `a` and `b` one after the other. -/
theorem run_run (ha : a.Reads A) (hb : b.Reads B) {text : List Char} {stop pos : Nat}
    {out caps : Captures} {gs : List Goal} (hgs : Goal.Unmoved gs) :
    Runs text stop out pos (.run a :: .run b :: gs) caps ↔
      ∃ u, Joined A B u ∧ u <+: text.drop pos ∧ Runs text stop out (pos + u.length) gs caps := by
  rw [ha.runs_iff (Goal.unmoved_run hgs)]
  constructor
  · rintro ⟨x, hx, hpx, h⟩
    obtain ⟨y, hy, hpy, h⟩ := (hb.runs_iff hgs).mp h
    refine ⟨x ++ y, ⟨x, y, hx, hy, rfl⟩, append_prefix_drop.mpr ⟨hpx, hpy⟩, ?_⟩
    rwa [List.length_append, ← Nat.add_assoc]
  · rintro ⟨_, ⟨x, y, hx, hy, rfl⟩, hp, h⟩
    obtain ⟨hpx, hpy⟩ := append_prefix_drop.mp hp
    rw [List.length_append, ← Nat.add_assoc] at h
    exact ⟨x, hx, hpx, (hb.runs_iff hgs).mpr ⟨y, hy, hpy, h⟩⟩

theorem seq (ha : a.Reads A) (hb : b.Reads B) : (Regex.seq a b).Reads (Joined A B) := by
  intro text stop pos out caps gs hgs
  rw [Runs.seq_iff, run_run ha hb hgs]

theorem none (greedy : Bool) : (Regex.times a 0 (some 0) greedy).Reads (· = []) := by
  intro text stop pos out caps gs hgs
  rw [Runs.none_iff, ← Runs.empty_iff, empty.runs_iff hgs]

theorem optional (ha : a.Reads A) (greedy : Bool) :
    (Regex.times a 0 (some 1) greedy).Reads fun u => u = [] ∨ A u := by
  intro text stop pos out caps gs hgs
  rw [Runs.optional_iff, run_run ha (none greedy) hgs]
  constructor
  · rintro (h | ⟨_, ⟨x, _, hx, rfl, rfl⟩, hp, h⟩)
    · exact ⟨[], .inl rfl, List.nil_prefix, h⟩
    · rw [List.append_nil] at hp h
      exact ⟨x, .inr hx, hp, h⟩
  · rintro ⟨u, rfl | hu, hp, h⟩
    · exact .inl h
    · exact .inr ⟨u, ⟨u, [], hu, rfl, (List.append_nil u).symm⟩, hp, h⟩

theorem oneOrTwo (ha : a.Reads A) (greedy : Bool) :
    (Regex.times a 1 (some 2) greedy).Reads (Joined A fun u => u = [] ∨ A u) := by
  intro text stop pos out caps gs hgs
  rw [Runs.times_one_iff, run_run ha (ha.optional greedy) hgs]

end Reads

/-- The languages one after the other. -/
def AllJoined : List (List Char → Prop) → List Char → Prop
  | [] => (· = [])
  | A :: rest => Joined A (AllJoined rest)

theorem Reads.seqs {α : Type} {f : α → Regex} {L : α → List Char → Prop} {l : List α}
    (h : ∀ a ∈ l, (f a).Reads (L a)) : (Regex.seqs (l.map f)).Reads (AllJoined (l.map L)) := by
  induction l with
  | nil => exact empty
  | cons a l ih =>
      obtain ⟨ha, hl⟩ := List.forall_mem_cons.mp h
      cases l with
      | nil =>
          refine ha.congr fun u => ?_
          constructor
          · intro hu
            exact ⟨u, [], hu, rfl, (List.append_nil u).symm⟩
          · rintro ⟨x, _, hx, rfl, rfl⟩
            rwa [List.append_nil]
      | cons b l => exact ha.seq (ih hl)

end Regex

end TextMasking
