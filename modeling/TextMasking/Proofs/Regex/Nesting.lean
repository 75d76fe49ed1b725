import TextMasking.Proofs.Regex.Classes
import TextMasking.Proofs.Regex.Entry

/-! # A pattern inside its wrapping

A pattern that is a regular expression by itself closes no group but those that it has opened.  So
when it is read inside groups that were opened before it, those groups are still open at its end,
and they hold what the pattern says (`Regex.Inside.readParts`).  A group of a name that is taken
cannot occur in it. -/

namespace TextMasking.Regex

/-! ### Parts without a group of the name -/

/-- No part that was read at the level has a group of the name. -/
def Level.Avoids (name : String) (level : Level) : Prop :=
  (∀ p ∈ level.branches, p.regex.Avoids name) ∧ ∀ p ∈ level.items, p.regex.Avoids name

variable {name : String}

theorem avoids_joinSequence {ps : List Part} :
    (joinSequence ps).regex.Avoids name ↔ ∀ p ∈ ps, p.regex.Avoids name := by
  unfold joinSequence
  split
  · exact iff_of_true trivial (by simp)
  · rw [List.forall_mem_singleton]
  · rw [avoids_seqs, List.forall_mem_map]
    simp only [List.mem_reverse]

theorem avoids_joinAlternatives {ps : List Part} :
    (joinAlternatives ps).regex.Avoids name ↔ ∀ p ∈ ps, p.regex.Avoids name := by
  unfold joinAlternatives
  split
  · exact iff_of_true trivial (by simp)
  · rw [List.forall_mem_singleton]
  · rw [avoids_alts, List.forall_mem_map]
    simp only [List.mem_reverse]

theorem avoids_toPart {level : Level} :
    level.toPart.regex.Avoids name ↔ level.Avoids name := by
  rw [Level.toPart, avoids_joinAlternatives, List.forall_mem_cons, avoids_joinSequence]
  exact and_comm

namespace Level.Avoids

variable {level : Level}

theorem empty : Level.Avoids name ⟨[], []⟩ :=
  ⟨by simp, by simp⟩

theorem toPart (h : level.Avoids name) : level.toPart.regex.Avoids name :=
  avoids_toPart.mpr h

theorem push (h : level.Avoids name) {p : Part} (hp : p.regex.Avoids name) :
    Level.Avoids name { level with items := p :: level.items } :=
  ⟨h.1, List.forall_mem_cons.mpr ⟨hp, h.2⟩⟩

end Level.Avoids

/-! ### Two readings side by side -/

/-- The reading `st` of a pattern by itself beside the reading `st'` of the pattern inside the
groups `base`, one of which has the name; `inner` are the groups that the pattern has opened. -/
structure Inside (name : String) (base inner : List OpenGroup) (st st' : Reading) : Prop where
  verbose : st'.flags.verbose = st.flags.verbose
  groups : st'.groups = inner ++ base
  saved : inner.map (·.flags.verbose) = st.groups.map (·.flags.verbose)
  taken : name ∈ st'.names
  level : st'.level.Avoids name
  inner_avoids : ∀ g ∈ inner, g.name ≠ some name ∧ g.outer.Avoids name

namespace Inside

variable {base inner : List OpenGroup} {st st' : Reading}

theorem push (h : Inside name base inner st st') {p p' : Part} (hp : p'.regex.Avoids name) :
    Inside name base inner (st.push p) (st'.push p') :=
  { h with level := h.level.push hp }

theorem alternate (h : Inside name base inner st st') :
    Inside name base inner st.alternate st'.alternate :=
  { h with
    level := ⟨List.forall_mem_cons.mpr ⟨avoids_joinSequence.mpr h.level.2, h.level.1⟩,
      fun _ hp => absurd hp List.not_mem_nil⟩ }

theorem flags (h : Inside name base inner st st') {f f' : Flags} (hf : f'.verbose = f.verbose) :
    Inside name base inner { st with flags := f } { st' with flags := f' } :=
  { h with verbose := hf }

theorem names (h : Inside name base inner st st') {ns ns' : List String} (hns : name ∈ ns') :
    Inside name base inner { st with names := ns } { st' with names := ns' } :=
  { h with taken := hns }

theorem repeatLast (h : Inside name base inner st st') {min min' : Nat} {max max' : Option Nat}
    {greedy greedy' : Bool} {st₁ st₁' : Reading} (hst : st.repeatLast min max greedy = .ok st₁)
    (hst' : st'.repeatLast min' max' greedy' = .ok st₁') :
    Inside name base inner st₁ st₁' := by
  unfold Reading.repeatLast at hst hst'
  split at hst
  · cases hst
  · split_ifs at hst
    split at hst'
    · cases hst'
    · rename_i p' items' hitems
      split_ifs at hst'
      cases hst
      cases hst'
      have hlevel := h.level.2
      rw [hitems, List.forall_mem_cons] at hlevel
      exact { h with level := ⟨h.level.1, List.forall_mem_cons.mpr ⟨hlevel.1, hlevel.2⟩⟩ }

theorem openGroup (h : Inside name base inner st st') {n n' : Option String} {f f' : Flags}
    (hn : n' ≠ some name) (hf : f'.verbose = f.verbose) :
    Inside name base (⟨n', st'.flags, st'.level⟩ :: inner) (st.openGroup n f)
      (st'.openGroup n' f') where
  verbose := hf
  groups := congrArg _ h.groups
  saved := List.cons_eq_cons.mpr ⟨h.verbose, h.saved⟩
  taken := h.taken
  level := .empty
  inner_avoids := List.forall_mem_cons.mpr ⟨⟨hn, h.level⟩, h.inner_avoids⟩

/-- The pattern closes a group that it has opened. -/
theorem closeGroup (h : Inside name base inner st st') {st₁ st₁' : Reading}
    (hst : st.closeGroup = .ok st₁) (hst' : st'.closeGroup = .ok st₁') :
    ∃ inner₁, Inside name base inner₁ st₁ st₁' := by
  have hsaved := h.saved
  unfold Reading.closeGroup at hst hst'
  split at hst
  · cases hst
  · rename_i n f outer groups hgroups
    cases hst
    rw [hgroups] at hsaved
    cases inner with
    | nil => cases hsaved
    | cons g inner =>
        rw [h.groups, List.cons_append] at hst'
        dsimp only at hst'
        cases hst'
        obtain ⟨hn, houter⟩ := h.inner_avoids g List.mem_cons_self
        obtain ⟨hf, hsaved⟩ := List.cons.inj hsaved
        refine ⟨inner, hf, rfl, hsaved, h.taken, houter.push ?_, ?_⟩
        · cases hname : g.name with
          | none => exact h.level.toPart
          | some m =>
              refine ⟨fun e => hn (hname.trans (congrArg _ e)), h.level.toPart⟩
        · exact fun g' hg' => h.inner_avoids g' (List.mem_cons_of_mem _ hg')

end Inside

/-! ### Groups and parts -/

theorem verbose_set {f f' : Flags} (hf : f'.verbose = f.verbose) (item : FlagItem) (on : Bool) :
    (f'.set item on).verbose = (f.set item on).verbose := by
  cases item <;> first | exact hf | rfl

theorem verbose_apply {f f' : Flags} (hf : f'.verbose = f.verbose) (items : List FlagItem)
    (on : Bool) : (f'.apply items on).verbose = (f.apply items on).verbose := by
  induction items generalizing f f' on with
  | nil => exact hf
  | cons item items ih =>
      cases item with
      | negation => exact ih hf false
      | _ => exact ih (verbose_set hf _ on) on

section

variable {suf x x' r r' : List Char}

/-- The text after what announces the name of a group. -/
inductive Announces : List Char → List Char → Prop
  | long (rest : List Char) : Announces ('?' :: 'P' :: '<' :: rest) rest
  | short (rest : List Char) : Announces ('?' :: '<' :: rest) rest

theorem Announces.append (h : Announces x r) (suf : List Char) :
    Announces (x ++ suf) (r ++ suf) := by
  cases h with
  | long => exact .long (r ++ suf)
  | short => exact .short (r ++ suf)

theorem Announces.unique (h : Announces x r) (h' : Announces x r') : r' = r := by
  cases h <;> cases h' <;> rfl

theorem Announces.head (h : Announces x r) : ∃ rest, x = '?' :: rest := by
  cases h <;> exact ⟨_, rfl⟩

theorem namedGroup_ok {st st₁ : Reading} {rest : List Char} (h : (do
      let (name, rest) ← readName rest
      if st.names.contains name then throw .repeatedName
      return ({ st with names := name :: st.names }.openGroup (some name) st.flags, rest) :
    Except SyntaxError (Reading × List Char)) = .ok (st₁, r)) :
    ∃ n, readName rest = .ok (n, r) ∧ n ∉ st.names ∧
      st₁ = ({ st with names := n :: st.names }).openGroup (some n) st.flags := by
  obtain ⟨⟨n, q⟩, hq, h⟩ := ok_of_bind h
  dsimp only at h
  split_ifs at h with hn
  · cases h
  · cases h
    exact ⟨n, hq, by simpa using hn, rfl⟩

/-- What opens a group: a name, flags, or neither. -/
theorem readGroup_ok {st st₁ : Reading} (h : readGroup st x = .ok (st₁, r)) :
    (∃ rest n, Announces (st.flags.skip x) rest ∧ readName rest = .ok (n, r) ∧ n ∉ st.names ∧
        st₁ = ({ st with names := n :: st.names }).openGroup (some n) st.flags) ∨
      (∃ rest items stop, st.flags.skip x = '?' :: rest ∧
        Flags.read [] rest = .ok (items, stop, r) ∧
        (stop = ':' ∧ st₁ = st.openGroup none (st.flags.apply items true) ∨
          stop ≠ ':' ∧
            st₁ = ({ st with flags := st.flags.apply items true }).push ⟨.empty, 0, true⟩)) ∨
      (∀ rest, st.flags.skip x ≠ '?' :: rest) ∧ r = st.flags.skip x ∧
        st₁ = st.openGroup none st.flags := by
  unfold readGroup at h
  dsimp only at h
  split at h
  · cases h
  · cases h
  · cases h
  · cases h
  · rename_i rest hx
    obtain ⟨n, hn⟩ := namedGroup_ok h
    rw [hx]
    exact .inl ⟨rest, n, .long rest, hn⟩
  · rename_i rest _ _ hx
    obtain ⟨n, hn⟩ := namedGroup_ok h
    rw [hx]
    exact .inl ⟨rest, n, .short rest, hn⟩
  · rename_i rest _ _ _ _ _ _ hx
    obtain ⟨⟨items, stop, q⟩, hq, h⟩ := ok_of_bind h
    dsimp only at h
    split_ifs at h with hstop hitems
    · cases h
      exact .inr (.inl ⟨rest, items, stop, hx, hq, .inl ⟨hstop, rfl⟩⟩)
    · cases h
      exact .inr (.inl ⟨rest, items, stop, hx, hq, .inr ⟨hstop, rfl⟩⟩)
  · rename_i hne
    cases h
    exact .inr (.inr ⟨hne, rfl, rfl⟩)

/-- A list of flags does not announce a name. -/
theorem not_announces_of_flagsRead {res : List FlagItem × Char × List Char}
    (h : Flags.read [] x = .ok res) (r : List Char) : ¬Announces ('?' :: x) r := by
  intro ha
  cases ha <;> cases h

variable {base inner : List OpenGroup} {st st' st₁ st₁' : Reading}

/-- What opens a group in the pattern opens one in both readings. -/
theorem Inside.readGroup (hsuf : Closing suf) (hi : Inside name base inner st st')
    (hx : Continued suf x x') (h : Regex.readGroup st x = .ok (st₁, r))
    (h' : Regex.readGroup st' x' = .ok (st₁', r')) :
    ∃ inner₁, Inside name base inner₁ st₁ st₁' ∧ Continued suf r r' := by
  have hs := hx.skip hsuf hi.verbose
  rcases readGroup_ok h with ⟨rest, n, hn, hq, -, rfl⟩ | ⟨rest, items, stop, hrest, hq, hst⟩ |
    ⟨hne, rfl, rfl⟩
  · have hn' : Announces (st'.flags.skip x') (rest ++ suf) := by
      obtain ⟨t, ht⟩ := hn.head
      rw [ht] at hs hn
      rw [hs.cons]
      exact hn.append suf
    rcases readGroup_ok h' with ⟨rest', n', hann, hq', hnew, rfl⟩ | ⟨rest', _, _, hrest', hf, -⟩ |
      ⟨hne', -, -⟩
    · rw [hn'.unique hann] at hq'
      refine ⟨_, (hi.names (List.mem_cons_of_mem _ hi.taken)).openGroup ?_ hi.verbose,
        continued_readName (.append suf rest) hq hq'⟩
      -- the name is taken by the wrapping
      intro e
      cases e
      exact hnew hi.taken
    · rw [hrest'] at hn'
      exact absurd hn' (not_announces_of_flagsRead hf _)
    · obtain ⟨t, ht⟩ := hn'.head
      exact absurd ht (hne' t)
  · rw [hrest] at hs
    have hf := flagsRead_append hq suf
    rcases readGroup_ok h' with ⟨rest', n', hann, -⟩ | ⟨rest', items', stop', hrest', hf', hst'⟩ |
      ⟨hne', -, -⟩
    · rw [hs.cons] at hann
      exact absurd hann (not_announces_of_flagsRead hf _)
    · rw [hrest'] at hs
      rw [(List.cons.inj hs.cons).2, hf] at hf'
      cases hf'
      have hverbose := verbose_apply hi.verbose items true
      rcases hst with ⟨hstop, rfl⟩ | ⟨hstop, rfl⟩
      · rcases hst' with ⟨-, rfl⟩ | ⟨hstop', -⟩
        · exact ⟨_, hi.openGroup (by simp) hverbose, .append suf r⟩
        · exact absurd hstop hstop'
      · rcases hst' with ⟨hstop', -⟩ | ⟨-, rfl⟩
        · exact absurd hstop' hstop
        · exact ⟨inner, (hi.flags hverbose).push trivial, .append suf r⟩
    · exact absurd hs.cons (hne' _)
  · have hne' {t : List Char} (ht : st'.flags.skip x' = '?' :: t) : False := by
      rw [ht] at hs
      obtain ⟨t₀, ht₀, -⟩ := hs.head hsuf (by decide)
      exact hne t₀ ht₀
    rcases readGroup_ok h' with ⟨rest', n', hann, -⟩ | ⟨rest', _, _, hrest', -⟩ | ⟨-, rfl, rfl⟩
    · obtain ⟨t, ht⟩ := hann.head
      exact (hne' ht).elim
    · exact (hne' hrest').elim
    · exact ⟨_, hi.openGroup (by simp) hi.verbose, hs⟩

/-- Characters that stand for more than themselves where a part begins. -/
def partChars : List Char :=
  ['(', ')', '|', '[', '?', '*', '+', '\x7b', '\\', '.', '^', '$']

theorem readPart_literal {c : Char} (hc : c ∉ partChars) :
    readPart st c x = (do
      let s ← literalSet st.flags c false
      return (st.push ⟨.set s, 0, false⟩, x)) := by
  unfold readPart
  dsimp only
  split
  all_goals first
    | exact absurd (by decide) hc
    | rfl

theorem avoids_toRegex {f : Flags} {a : Atom} {q : Regex} (h : a.toRegex f = .ok q) :
    q.Avoids name := by
  cases a with
  | literal c asByte =>
      change (literalSet f c asByte).map .set = .ok q at h
      cases hs : literalSet f c asByte with
      | error e =>
          rw [hs] at h
          cases h
      | ok s =>
          rw [hs] at h
          cases h
          trivial
  | set s =>
      cases h
      trivial
  | assert a =>
      cases h
      trivial

theorem Inside.readRepeat (hsuf : Closing suf) (hi : Inside name base inner st st')
    (hx : Continued suf x x') {min : Nat} {max : Option Nat}
    (h : (do return (← st.repeatLast min max (readGreed x).1, (readGreed x).2) :
      Except SyntaxError (Reading × List Char)) = .ok (st₁, r))
    (h' : (do return (← st'.repeatLast min max (readGreed x').1, (readGreed x').2) :
      Except SyntaxError (Reading × List Char)) = .ok (st₁', r')) :
    ∃ inner₁, Inside name base inner₁ st₁ st₁' ∧ Continued suf r r' := by
  obtain ⟨q, hq, h⟩ := ok_of_bind h
  obtain ⟨q', hq', h'⟩ := ok_of_bind h'
  cases h
  cases h'
  exact ⟨inner, hi.repeatLast hq hq', continued_readGreed hsuf hx⟩

/-- Each part of the pattern is read alike in both readings. -/
theorem Inside.readPart (hsuf : Closing suf) (hi : Inside name base inner st st')
    (hx : Continued suf x x') {c : Char} (h : Regex.readPart st c x = .ok (st₁, r))
    (h' : Regex.readPart st' c x' = .ok (st₁', r')) :
    ∃ inner₁, Inside name base inner₁ st₁ st₁' ∧ Continued suf r r' := by
  by_cases hc : c ∈ partChars
  · simp only [partChars, List.mem_cons, List.not_mem_nil, or_false] at hc
    rcases hc with rfl | rfl | rfl | rfl | rfl | rfl | rfl | rfl | rfl | rfl | rfl | rfl
    · exact hi.readGroup hsuf hx h h'
    · obtain ⟨q, hq, h⟩ := ok_of_bind (x := st.closeGroup) h
      obtain ⟨q', hq', h'⟩ := ok_of_bind (x := st'.closeGroup) h'
      cases h
      cases h'
      obtain ⟨inner₁, hi₁⟩ := hi.closeGroup hq hq'
      exact ⟨inner₁, hi₁, hx⟩
    · cases h
      cases h'
      exact ⟨inner, hi.alternate, hx⟩
    · obtain ⟨⟨p, q⟩, hq, h⟩ := ok_of_bind (x := readBracket st.flags x) h
      obtain ⟨⟨p', q'⟩, hq', h'⟩ := ok_of_bind (x := readBracket st'.flags x') h'
      cases h
      cases h'
      exact ⟨inner, hi.push trivial, continued_readBracket hsuf hi.verbose hx hq hq'⟩
    · exact hi.readRepeat hsuf hx h h'
    · exact hi.readRepeat hsuf hx h h'
    · exact hi.readRepeat hsuf hx h h'
    · obtain ⟨rest, hrest, rfl, _, _, _, hst⟩ := readCounts_ok h
      obtain ⟨rest', hrest', rfl, _, _, _, hst'⟩ := readCounts_ok h'
      have hcounts := continued_afterCounts hsuf hi.verbose
        (continued_readDigits hsuf hi.verbose (hx.skip hsuf hi.verbose))
      rw [hrest, hrest'] at hcounts
      rw [(List.cons.inj hcounts.cons).2]
      exact ⟨inner, hi.repeatLast hst hst',
        continued_readGreed hsuf ((Continued.append suf rest).skip hsuf hi.verbose)⟩
    · obtain ⟨⟨a, q⟩, hq, h⟩ := ok_of_bind (x := readEscape st.flags x) h
      obtain ⟨⟨a', q'⟩, hq', h'⟩ := ok_of_bind (x := readEscape st'.flags x') h'
      obtain ⟨_, -, h⟩ := ok_of_bind h
      obtain ⟨_, ha', h'⟩ := ok_of_bind h'
      cases h
      cases h'
      exact ⟨inner, hi.push (avoids_toRegex ha'), continued_readEscape hsuf hi.verbose hx hq hq'⟩
    · obtain ⟨_, -, h⟩ := ok_of_bind (x := st.flags.dot) h
      obtain ⟨_, -, h'⟩ := ok_of_bind (x := st'.flags.dot) h'
      cases h
      cases h'
      exact ⟨inner, hi.push trivial, hx⟩
    · cases h
      cases h'
      exact ⟨inner, hi.push trivial, hx⟩
    · cases h
      cases h'
      exact ⟨inner, hi.push trivial, hx⟩
  · rw [readPart_literal hc] at h h'
    obtain ⟨s, -, h⟩ := ok_of_bind h
    obtain ⟨s', -, h'⟩ := ok_of_bind h'
    cases h
    cases h'
    exact ⟨inner, hi.push trivial, hx⟩

/-- Reading ends where no group is open, or it reads a part and goes on. -/
theorem readParts_ok {steps : Nat} {p : Part} (h : readParts steps st x = .ok p) :
    (st.flags.skip x = [] ∧ st.groups = [] ∧ p = st.level.toPart) ∨
      ∃ c rest k st₁ r, st.flags.skip x = c :: rest ∧ steps = k + 1 ∧
        Regex.readPart st c rest = .ok (st₁, r) ∧ readParts k st₁ r = .ok p := by
  unfold readParts at h
  split at h
  · rename_i hx
    split_ifs at h with hgroups
    cases h
    exact .inl ⟨hx, List.isEmpty_iff.mp hgroups, rfl⟩
  · rename_i c rest hx
    split at h
    · cases h
    · rename_i k
      obtain ⟨⟨st₁, r⟩, hst, h⟩ := ok_of_bind h
      exact .inr ⟨c, rest, k, st₁, r, hx, rfl, hst, h⟩

/-- Where the pattern ends, the groups around it are open. -/
theorem Inside.atEnd (hi : Inside name base inner st st') (hbase : base ≠ [])
    (hx : Continued suf x x') (hsuf : Closing suf) (hend : st.flags.skip x = [])
    (hgroups : st.groups = []) {steps' : Nat} {p' : Part}
    (h' : Regex.readParts steps' st' x' = .ok p') :
    ∃ q rest k, q.flags.skip rest = suf ∧ q.groups = base ∧ q.level.Avoids name ∧
      Regex.readParts k q rest = .ok p' := by
  have hinner : inner = [] := by
    have := hi.saved
    rwa [hgroups, List.map_nil, List.map_eq_nil_iff] at this
  have hbase' : st'.groups = base := by rw [hi.groups, hinner, List.nil_append]
  have hs := hx.skip hsuf hi.verbose
  rw [hend] at hs
  rcases hs with hs | ⟨-, hs⟩
  · exact ⟨st', x', steps', hs, hbase', hi.level, h'⟩
  · -- a comment has swallowed the ends of the groups, so they are never closed
    rcases readParts_ok h' with ⟨-, hnil, -⟩ | ⟨_, _, _, _, _, hc, -⟩
    · exact absurd (hbase'.symm.trans hnil) hbase
    · rw [hs] at hc
      cases hc

/-- **A pattern leaves open what was open before it:** read inside of groups, it ends where they are
closed, and what was read in them since has no group of the name. -/
theorem Inside.readParts (hsuf : Closing suf) (hbase : base ≠ [])
    (hi : Inside name base inner st st') (hx : Continued suf x x') {steps steps' : Nat}
    {p p' : Part} (h : Regex.readParts steps st x = .ok p)
    (h' : Regex.readParts steps' st' x' = .ok p') :
    ∃ q rest k, q.flags.skip rest = suf ∧ q.groups = base ∧ q.level.Avoids name ∧
      Regex.readParts k q rest = .ok p' := by
  induction steps generalizing inner st st' x x' steps' with
  | zero =>
      rcases readParts_ok h with hend | ⟨_, _, _, _, _, _, hk, _⟩
      · exact hi.atEnd hbase hx hsuf hend.1 hend.2.1 h'
      · cases hk
  | succ steps ih =>
      rcases readParts_ok h with hend | ⟨c, rest, k, st₁, r, hrest, hk, hst, h⟩
      · exact hi.atEnd hbase hx hsuf hend.1 hend.2.1 h'
      · cases hk
        have hs := hx.skip hsuf hi.verbose
        rw [hrest] at hs
        rcases readParts_ok h' with hend' | ⟨c', rest', k', st₁', r', hrest', -, hst', h'⟩
        · rw [hend'.1] at hs
          exact absurd hs.cons (List.cons_ne_nil _ _).symm
        · rw [hrest'] at hs
          obtain ⟨rfl, rfl⟩ := List.cons.inj hs.cons
          obtain ⟨inner₁, hi₁, hr⟩ := hi.readPart hsuf (.append suf rest) hst hst'
          exact ih hi₁ hr h h'

end

end TextMasking.Regex
