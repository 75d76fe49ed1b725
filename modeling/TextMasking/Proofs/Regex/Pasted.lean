import TextMasking.Proofs.Regex.Moves

/-! # A pattern pasted into groups

A pattern makes the same moves by itself and inside of groups that are open already
(`Regex.Beside.run`), unless one of its groups has a name that is taken.  So what is read of it
there is what is read of it by itself, with the groups around it as they were (`Regex.rest_readParts`).
What comes after it is read next, unless a comment goes on to the end of the pattern. -/

namespace TextMasking.Regex

variable {fold : Bool} {name : String} {x : List Char} {t : List Char → List Char}
  {st st' st₁ : Reading}

/-! ### Steps of a reading -/

/-- The part that a group makes: its name, if it has one, and what was read in it. -/
def closed (name : Option String) (body : Part) : Part :=
  ⟨match name with
    | some n => .group n body.regex
    | none => body.regex, 1 + body.depth, false⟩

theorem closeGroup_eq {g : OpenGroup} {groups : List OpenGroup} (h : st.groups = g :: groups) :
    st.closeGroup = .ok (({ st with level := g.outer, groups, flags := g.flags }).push
      (closed g.name st.level.toPart)) := by
  rw [Reading.closeGroup, h]
  rfl

theorem closeGroup_ok (h : st.closeGroup = .ok st₁) : ∃ g groups, st.groups = g :: groups ∧
    st₁ = ({ st with level := g.outer, groups, flags := g.flags }).push
      (closed g.name st.level.toPart) := by
  cases hg : st.groups with
  | nil =>
      rw [Reading.closeGroup, hg] at h
      cases h
  | cons g groups =>
      rw [closeGroup_eq hg] at h
      cases h
      exact ⟨g, groups, rfl, rfl⟩

theorem repeatLast_eq {p : Part} {items : List Part} (h : st.level.items = p :: items)
    (hp : p.isFlags = false) (min : Nat) (max : Option Nat) (greedy : Bool) :
    st.repeatLast min max greedy = .ok { st with level := { st.level with items :=
      ⟨.times p.regex min max (greedy != st.flags.lazyFirst), 1 + p.depth, false⟩ :: items } } := by
  rw [Reading.repeatLast, h]
  exact if_neg (by simp [hp])

theorem repeatLast_ok {min : Nat} {max : Option Nat} {greedy : Bool}
    (h : st.repeatLast min max greedy = .ok st₁) : ∃ p items, st.level.items = p :: items ∧
      p.isFlags = false ∧ st₁ = { st with level := { st.level with items :=
        ⟨.times p.regex min max (greedy != st.flags.lazyFirst), 1 + p.depth, false⟩ :: items } } := by
  unfold Reading.repeatLast at h
  split at h
  · cases h
  · rename_i p items hitems
    split_ifs at h with hp
    cases h
    exact ⟨p, items, hitems, by simpa using hp, rfl⟩

/-! ### Names -/

/-- No group that was read or is open has the name. -/
def Reading.Avoids (name : String) (st : Reading) : Prop :=
  st.level.Avoids name ∧ ∀ g ∈ st.groups, g.name ≠ some name ∧ g.outer.Avoids name

/-- The names on record are those of the groups that were read or are open. -/
def Reading.Recorded (st : Reading) : Prop :=
  ∀ name, st.Avoids name ↔ name ∉ st.names

theorem Level.avoids_push {level : Level} {p : Part} :
    Level.Avoids name { level with items := p :: level.items } ↔
      p.regex.Avoids name ∧ level.Avoids name := by
  rw [Level.Avoids, Level.Avoids, List.forall_mem_cons]
  exact and_left_comm

theorem Level.avoids_alternate {level : Level} :
    Level.Avoids name ⟨joinSequence level.items :: level.branches, []⟩ ↔ level.Avoids name := by
  rw [Level.Avoids, Level.Avoids, List.forall_mem_cons, avoids_joinSequence]
  simp only [List.not_mem_nil, false_implies, implies_true, and_true]
  exact and_comm

theorem Level.avoids_times {branches items : List Part} {p : Part} {min : Nat} {max : Option Nat}
    {greedy isFlags : Bool} {d : Nat} :
    Level.Avoids name ⟨branches, ⟨.times p.regex min max greedy, d, isFlags⟩ :: items⟩ ↔
      Level.Avoids name ⟨branches, p :: items⟩ := by
  rw [Level.Avoids, Level.Avoids, List.forall_mem_cons, List.forall_mem_cons]
  rfl

theorem avoids_closed {n : Option String} {p : Part} :
    (closed n p).regex.Avoids name ↔ n ≠ some name ∧ p.regex.Avoids name := by
  cases n with
  | none => exact ⟨fun h => ⟨by simp, h⟩, fun h => h.2⟩
  | some m => exact and_congr_left' (by simp)

namespace Reading.Recorded

theorem initial : Reading.initial.Recorded :=
  fun _ => iff_of_true ⟨.empty, by simp [Reading.initial]⟩ (by simp [Reading.initial])

theorem avoids_openGroup {n : Option String} {f : Flags} :
    (st.openGroup n f).Avoids name ↔ n ≠ some name ∧ st.Avoids name := by
  have hempty : Level.Avoids name ⟨[], []⟩ := .empty
  refine (and_iff_right hempty).trans ?_
  rw [Reading.openGroup, List.forall_mem_cons]
  exact and_assoc

/-- A move keeps the record. -/
theorem run (hst : st.Recorded) {m : Move} (hm : m.Plain) (h : m.run st = .ok st₁) :
    st₁.Recorded := by
  intro name
  have hname := hst name
  cases m with
  | push p =>
      cases h
      exact (and_congr_left' (Level.avoids_push.trans (and_iff_right (hm name)))).trans hname
  | close =>
      obtain ⟨g, groups, hg, rfl⟩ := closeGroup_ok h
      rw [Reading.Avoids, hg, List.forall_mem_cons] at hname
      refine Iff.trans ?_ hname
      show Level.Avoids name { g.outer with items := _ :: g.outer.items } ∧ _ ↔ _
      rw [Level.avoids_push, avoids_closed, avoids_toPart]
      simp only [and_assoc, and_left_comm]
      exact Iff.rfl
  | alternate =>
      cases h
      exact (and_congr_left' Level.avoids_alternate).trans hname
  | times min max greedy =>
      obtain ⟨p, items, hitems, -, rfl⟩ := repeatLast_ok h
      refine (and_congr_left' (Level.avoids_times.trans ?_)).trans hname
      rw [← hitems]
  | named n =>
      rw [Move.run] at h
      split_ifs at h
      cases h
      refine avoids_openGroup.trans ?_
      show _ ↔ name ∉ n :: st.names
      rw [List.mem_cons, not_or, ← hname]
      exact and_congr_left' (by simp [eq_comm])
  | unnamed items =>
      cases h
      exact (avoids_openGroup.trans (and_iff_right (by simp))).trans hname
  | flags items =>
      cases h
      have hempty : Regex.empty.Avoids name := trivial
      exact (and_congr_left' (Level.avoids_push.trans (and_iff_right hempty))).trans hname

end Reading.Recorded

/-- Names stay on record. -/
theorem Move.names_subset {m : Move} (h : m.run st = .ok st₁) : st.names ⊆ st₁.names := by
  cases m with
  | close =>
      obtain ⟨g, groups, -, rfl⟩ := closeGroup_ok h
      exact List.Subset.refl _
  | times min max greedy =>
      obtain ⟨p, items, -, -, rfl⟩ := repeatLast_ok h
      exact List.Subset.refl _
  | named n =>
      rw [Move.run] at h
      split_ifs at h
      cases h
      exact List.subset_cons_self n st.names
  | _ =>
      cases h
      exact List.Subset.refl _

theorem Reading.Recorded.avoids_toPart (hst : st.Recorded) (hg : st.groups = []) :
    st.level.toPart.regex.Avoids name ↔ name ∉ st.names := by
  rw [Regex.avoids_toPart, ← hst name, Reading.Avoids, hg]
  simp

/-- A name on record is that of a group of the whole. -/
theorem Reading.Recorded.readParts {steps : Nat} {p : Part} (hst : st.Recorded)
    (h : Regex.readParts steps st x = .ok p) (hn : name ∈ st.names) : ¬p.regex.Avoids name := by
  have hend (hg : st.groups = []) (hp : p = st.level.toPart) : ¬p.regex.Avoids name := by
    rw [hp, hst.avoids_toPart hg]
    exact not_not_intro hn
  induction steps generalizing st x with
  | zero =>
      rcases readParts_ok h with ⟨-, hg, hp⟩ | ⟨_, _, _, _, _, _, hk, _⟩
      · exact hend hg hp
      · cases hk
  | succ steps ih =>
      rcases readParts_ok h with ⟨-, hg, hp⟩ | ⟨c, rest, k, st₁, r, -, hk, hstep, h⟩
      · exact hend hg hp
      · cases hk
        obtain ⟨m, -, hm, hrun, -⟩ := makes_readPart false hstep
        have hn₁ := Move.names_subset hrun hn
        exact ih (hst.run hm hrun) h hn₁ fun hg hp => by
          rw [hp, (hst.run hm hrun).avoids_toPart hg]
          exact not_not_intro hn₁

/-! ### Two readings side by side -/

/-- The reading `st` of a pattern by itself beside the reading `st'` of the pattern inside the
groups `base`, where the names `taken` were read before; none of them has come again. -/
structure Beside (fold : Bool) (base : List OpenGroup) (taken : List String) (st st' : Reading) :
    Prop where
  level : st'.level.shape fold = st.level.shape fold
  groups : ∃ inner, st'.groups = inner ++ base ∧
    inner.map (·.shape fold) = st.groups.map (·.shape fold)
  flags : st.flags.Alike fold st'.flags
  names : st'.names = st.names ++ taken
  fresh : ∀ name ∈ taken, name ∉ st.names

theorem Flags.Alike.set {f f' : Flags} (hf : f.Alike fold f') (item : FlagItem) (on : Bool) :
    (f.set item on).Alike fold (f'.set item on) := by
  obtain ⟨_, _, _, _, _, _, _⟩ := f
  obtain ⟨_, _, _, _, _, _, _⟩ := f'
  cases fold
  all_goals
    cases hf
    cases item <;> rfl

theorem Flags.Alike.apply {f f' : Flags} (hf : f.Alike fold f') (items : List FlagItem)
    (on : Bool) : (f.apply items on).Alike fold (f'.apply items on) := by
  induction items generalizing f f' on with
  | nil => exact hf
  | cons item items ih =>
      cases item with
      | negation => exact ih hf false
      | _ => exact ih (hf.set _ on) on

theorem shape_closed (n : Option String) (p : Part) :
    (closed n p).shape fold = closed n (p.shape fold) := by
  cases n <;> rfl

/-- Moves alike are the same but for the sets of what they add. -/
theorem Move.eq_of_shape {m m' : Move} (h : m'.shape fold = m.shape fold) :
    (∃ p p', m = .push p ∧ m' = .push p' ∧ p'.shape fold = p.shape fold) ∨ m' = m := by
  cases m' with
  | push p' =>
      cases m with
      | push p => exact .inl ⟨p, p', rfl, rfl, Move.push.inj h⟩
      | _ => cases h
  | _ =>
      cases m with
      | push p => cases h
      | _ => exact .inr h

namespace Beside

variable {base : List OpenGroup} {taken : List String}

theorem push (hb : Beside fold base taken st st') {p p' : Part}
    (hp : p'.shape fold = p.shape fold) : Beside fold base taken (st.push p) (st'.push p') where
  level := by
    obtain ⟨hbranches, hitems⟩ := Level.mk.inj hb.level
    exact Level.shape_congr hbranches (map_cons_congr hp hitems)
  groups := hb.groups
  flags := hb.flags
  names := hb.names
  fresh := hb.fresh

theorem flagged (hb : Beside fold base taken st st') {f f' : Flags} (hf : f.Alike fold f') :
    Beside fold base taken { st with flags := f } { st' with flags := f' } :=
  { hb with flags := hf }

theorem named (hb : Beside fold base taken st st') {n : String} (hn : n ∉ taken) :
    Beside fold base taken { st with names := n :: st.names }
      { st' with names := n :: st'.names } :=
  { hb with
    names := congrArg (n :: ·) hb.names
    fresh := fun name hname hmem => by
      rcases List.mem_cons.mp hmem with rfl | hmem
      · exact hn hname
      · exact hb.fresh name hname hmem }

theorem openGroup (hb : Beside fold base taken st st') (n : Option String) {f f' : Flags}
    (hf : f.Alike fold f') :
    Beside fold base taken (st.openGroup n f) (st'.openGroup n f') where
  level := rfl
  groups := by
    obtain ⟨inner, hgroups, hinner⟩ := hb.groups
    refine ⟨⟨n, st'.flags, st'.level⟩ :: inner, congrArg _ hgroups, map_cons_congr ?_ hinner⟩
    rw [OpenGroup.shape, OpenGroup.shape, hb.level, show st'.flags.shape fold = _ from hb.flags]
  flags := hf
  names := hb.names
  fresh := hb.fresh

theorem close (hb : Beside fold base taken st st') (h : st.closeGroup = .ok st₁) :
    ∃ st₁', st'.closeGroup = .ok st₁' ∧ Beside fold base taken st₁ st₁' := by
  obtain ⟨g, groups, hg, rfl⟩ := closeGroup_ok h
  obtain ⟨inner, hgroups, hinner⟩ := hb.groups
  rw [hg] at hinner
  cases inner with
  | nil => cases hinner
  | cons g' inner =>
      obtain ⟨hshape, hinner⟩ := List.cons.inj hinner
      obtain ⟨hname, hflags, houter⟩ := OpenGroup.mk.inj hshape
      have hbeside : Beside fold base taken
          { st with level := g.outer, groups, flags := g.flags }
          { st' with level := g'.outer, groups := inner ++ base, flags := g'.flags } :=
        ⟨houter, ⟨inner, rfl, hinner⟩, hflags, hb.names, hb.fresh⟩
      refine ⟨_, closeGroup_eq hgroups, hbeside.push ?_⟩
      rw [shape_closed, shape_closed, Level.shape_toPart, Level.shape_toPart, hb.level, hname]

theorem alternate (hb : Beside fold base taken st st') :
    Beside fold base taken st.alternate st'.alternate := by
  obtain ⟨hbranches, hitems⟩ := Level.mk.inj hb.level
  refine { hb with level := Level.shape_congr (map_cons_congr ?_ hbranches) rfl }
  rw [shape_joinSequence, hitems, ← shape_joinSequence]

theorem times (hb : Beside fold base taken st st') {min : Nat} {max : Option Nat} {greedy : Bool}
    (h : st.repeatLast min max greedy = .ok st₁) :
    ∃ st₁', st'.repeatLast min max greedy = .ok st₁' ∧ Beside fold base taken st₁ st₁' := by
  obtain ⟨p, items, hp, hflags, rfl⟩ := repeatLast_ok h
  obtain ⟨hbranches, hitems⟩ := Level.mk.inj hb.level
  rw [hp] at hitems
  cases hp' : st'.level.items with
  | nil =>
      rw [hp'] at hitems
      cases hitems
  | cons p' items' =>
      rw [hp'] at hitems
      obtain ⟨hpart, hitems⟩ := List.cons.inj hitems
      obtain ⟨hregex, hdepth, hisFlags⟩ := Part.mk.inj hpart
      refine ⟨_, repeatLast_eq hp' (hisFlags.trans hflags) min max greedy, ?_⟩
      refine { hb with level := Level.shape_congr hbranches (map_cons_congr ?_ hitems) }
      rw [Part.shape, Part.shape, shape, shape, hregex, hdepth, hb.flags.lazyFirst]

/-- Where a pattern begins nothing of it was read. -/
theorem start {flags : Flags} (hf : Flags.initial.Alike fold flags) (base : List OpenGroup)
    (taken : List String) :
    Beside fold base taken Reading.initial ⟨⟨[], []⟩, base, flags, taken⟩ where
  level := rfl
  groups := ⟨[], rfl, rfl⟩
  flags := hf
  names := rfl
  fresh := fun _ _ h => absurd h List.not_mem_nil

/-- A move is made in both readings, unless it opens a group of a name that is taken. -/
theorem run (hb : Beside fold base taken st st') {m m' : Move} (hm : m'.shape fold = m.shape fold)
    (h : m.run st = .ok st₁) :
    (∃ name ∈ taken, name ∈ st₁.names) ∧ (∃ e, m'.run st' = .error e) ∨
      ∃ st₁', m'.run st' = .ok st₁' ∧ Beside fold base taken st₁ st₁' := by
  rcases Move.eq_of_shape hm with ⟨p, p', rfl, rfl, hp⟩ | rfl
  · cases h
    exact .inr ⟨_, rfl, hb.push hp⟩
  · cases m' with
    | push p =>
        cases h
        exact .inr ⟨_, rfl, hb.push rfl⟩
    | close => exact .inr (hb.close h)
    | alternate =>
        cases h
        exact .inr ⟨_, rfl, hb.alternate⟩
    | times min max greedy => exact .inr (hb.times h)
    | named n =>
        rw [Move.run] at h ⊢
        split_ifs at h with hn
        cases h
        by_cases ht : n ∈ taken
        · refine .inl ⟨⟨n, ht, List.mem_cons_self⟩, .repeatedName, if_pos ?_⟩
          rw [hb.names]
          simp [ht]
        · refine .inr ⟨_, if_neg ?_, ?_⟩
          · rw [hb.names]
            simpa [ht] using hn
          · exact (hb.named ht).openGroup (some n) hb.flags
    | unnamed items =>
        cases h
        exact .inr ⟨_, rfl, hb.openGroup none (hb.flags.apply items true)⟩
    | flags items =>
        cases h
        exact .inr ⟨_, rfl, (hb.flagged (hb.flags.apply items true)).push rfl⟩

end Beside

/-- How a reading inside of the groups `base` goes on, given the part `p` that the pattern makes by
itself: it fails as one of the `taken` names comes again, or it comes to the end of the pattern with
at least `steps` left, has read the same and finds the text `left`. -/
inductive Pasted (fold : Bool) (p : Part) (base : List OpenGroup) (taken : List String)
    (steps : Nat) (left : List Char) : Except SyntaxError Part → Prop
  | clash {e : SyntaxError} (h : ∃ name ∈ taken, ¬p.regex.Avoids name) :
      Pasted fold p base taken steps left (.error e)
  | read {k : Nat} {q : Reading} {rest : List Char} (h : ∀ name ∈ taken, p.regex.Avoids name)
      (hk : steps ≤ k) (hleft : q.flags.skip rest = left) (hgroups : q.groups = base)
      (hpart : q.level.toPart.shape fold = p.shape fold) :
      Pasted fold p base taken steps left (readParts k q rest)

theorem Beside.atEnd {base : List OpenGroup} {taken : List String} {k n : Nat}
    {rest left : List Char} (hb : Beside fold base taken st st') (hst : st.Recorded)
    (hg : st.groups = []) (hleft : st'.flags.skip rest = left) (hn : n ≤ k) :
    Pasted fold st.level.toPart base taken n left (readParts k st' rest) := by
  refine .read (fun name hname => (hst.avoids_toPart hg).mpr (hb.fresh name hname)) hn hleft ?_ ?_
  · obtain ⟨inner, hgroups, hinner⟩ := hb.groups
    rw [hg, List.map_nil, List.map_eq_nil_iff] at hinner
    rw [hgroups, hinner, List.nil_append]
  · rw [Level.shape_toPart, Level.shape_toPart, hb.level]

/-- A text writes the expression of the part that it is read as, unless that is nested too deep. -/
theorem read_eq_ok_iff {r : Regex} : read x = .ok r ↔ ∃ p,
    readParts x.length Reading.initial x = .ok p ∧ p.depth ≤ maxDepth ∧ p.regex = r := by
  rw [read]
  cases readParts x.length Reading.initial x with
  | error e =>
      constructor
      · intro h
        cases h
      · rintro ⟨p, h, -⟩
        cases h
  | ok p =>
      show (if p.depth > maxDepth then Except.error SyntaxError.tooDeep else .ok p.regex) =
        .ok r ↔ _
      split_ifs with h
      · constructor
        · intro h
          cases h
        · rintro ⟨p', hp, hle, -⟩
          cases hp
          exact absurd hle (Nat.not_le_of_lt h)
      · constructor
        · intro hr
          exact ⟨p, rfl, Nat.le_of_not_lt h, Except.ok.inj hr⟩
        · rintro ⟨p', hp, -, rfl⟩
          cases hp
          rfl

section

variable {pattern : List Char} {alone : Part} {taken : List String}

end

end TextMasking.Regex
