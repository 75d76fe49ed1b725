import TextMasking.Proofs.Regex.ExtendedClasses
import TextMasking.Proofs.Regex.Nesting

/-! # What a part of a pattern does

Reading a part of a pattern makes a move (`Regex.Move`): it adds an expression, repeats the last
one, or opens or closes a group.  Which move that is depends on the text and the flags only, and the text
after the pattern has no influence on it (`Regex.makes_readPart`). -/

namespace TextMasking.Regex

open Unicode

variable {fold : Bool}

/-! ### What letter case does not change -/

/-- The expression, with no set in particular if letter case may differ. -/
def shape (fold : Bool) : Regex → Regex
  | .empty => .empty
  | .set s => .set (s.shape fold)
  | .assert a => .assert a
  | .group n r => .group n (r.shape fold)
  | .seq a b => .seq (a.shape fold) (b.shape fold)
  | .alt a b => .alt (a.shape fold) (b.shape fold)
  | .times r min max greedy => .times (r.shape fold) min max greedy

theorem shape_seqs (rs : List Regex) : (seqs rs).shape fold = seqs (rs.map (shape fold)) := by
  induction rs with
  | nil => rfl
  | cons r rest ih =>
      cases rest with
      | nil => rfl
      | cons s rest => exact congrArg (Regex.seq (r.shape fold)) ih

theorem shape_alts (rs : List Regex) : (alts rs).shape fold = alts (rs.map (shape fold)) := by
  induction rs with
  | nil => rfl
  | cons r rest ih =>
      cases rest with
      | nil => rfl
      | cons s rest => exact congrArg (Regex.alt (r.shape fold)) ih

/-- The part, with no set in particular if letter case may differ. -/
def Part.shape (fold : Bool) (p : Part) : Part := ⟨p.regex.shape fold, p.depth, p.isFlags⟩

theorem maxPartDepth_shape (fold : Bool) (ps : List Part) :
    maxPartDepth (ps.map (·.shape fold)) = maxPartDepth ps := by
  rw [maxPartDepth, List.map_map]
  rfl

theorem regexes_shape (ps : List Part) : (ps.reverse.map (·.regex)).map (Regex.shape fold) =
    (ps.map (·.shape fold)).reverse.map (·.regex) := by
  rw [List.map_map, ← List.map_reverse, List.map_map]
  rfl

theorem shape_joinSequence (ps : List Part) :
    (joinSequence ps).shape fold = joinSequence (ps.map (·.shape fold)) := by
  match ps with
  | [] => rfl
  | [_] => rfl
  | p :: q :: ps =>
      show (⟨(seqs _).shape fold, 1 + maxPartDepth (p :: q :: ps), false⟩ : Part) = _
      rw [shape_seqs, regexes_shape, ← maxPartDepth_shape fold]
      rfl

theorem shape_joinAlternatives (ps : List Part) :
    (joinAlternatives ps).shape fold = joinAlternatives (ps.map (·.shape fold)) := by
  match ps with
  | [] => rfl
  | [_] => rfl
  | p :: q :: ps =>
      show (⟨(alts _).shape fold, 1 + maxPartDepth (p :: q :: ps), false⟩ : Part) = _
      rw [shape_alts, regexes_shape, ← maxPartDepth_shape fold]
      rfl

/-- The level, with no sets in particular if letter case may differ. -/
def Level.shape (fold : Bool) (level : Level) : Level :=
  ⟨level.branches.map (·.shape fold), level.items.map (·.shape fold)⟩

theorem Level.shape_congr {level level' : Level}
    (hbranches : level'.branches.map (·.shape fold) = level.branches.map (·.shape fold))
    (hitems : level'.items.map (·.shape fold) = level.items.map (·.shape fold)) :
    level'.shape fold = level.shape fold := by
  rw [shape, shape, hbranches, hitems]

theorem Level.shape_toPart (level : Level) :
    level.toPart.shape fold = (level.shape fold).toPart := by
  rw [toPart, shape_joinAlternatives, List.map_cons, shape_joinSequence]
  rfl

/-- The open group, with no sets in particular if letter case may differ. -/
def OpenGroup.shape (fold : Bool) (g : OpenGroup) : OpenGroup :=
  ⟨g.name, g.flags.shape fold, g.outer.shape fold⟩

/-! ### Moves -/

/-- What a part of a pattern does to what was read before. -/
inductive Move where
  | push (p : Part)
  | close
  | alternate
  | times (min : Nat) (max : Option Nat) (greedy : Bool)
  | named (name : String)
  | unnamed (items : List FlagItem)
  | flags (items : List FlagItem)

namespace Move

def run (st : Reading) : Move → Except SyntaxError Reading
  | .push p => .ok (st.push p)
  | .close => st.closeGroup
  | .alternate => .ok st.alternate
  | .times min max greedy => st.repeatLast min max greedy
  | .named name =>
    if st.names.contains name then .error .repeatedName
    else .ok (({ st with names := name :: st.names }).openGroup (some name) st.flags)
  | .unnamed items => .ok (st.openGroup none (st.flags.apply items true))
  | .flags items => .ok (({ st with flags := st.flags.apply items true }).push ⟨.empty, 0, true⟩)

/-- The move, with no set in particular if letter case may differ. -/
def shape (fold : Bool) : Move → Move
  | .push p => .push (p.shape fold)
  | m => m

/-- What the move adds has no groups. -/
def Plain : Move → Prop
  | .push p => ∀ name, p.regex.Avoids name
  | _ => True

end Move

/-- Reading `x` makes a move from `st` to `st₁` and leaves `r`, and reading on from another state
makes a like one if more text follows. -/
def Makes (fold : Bool) (read : Reading → List Char → Except SyntaxError (Reading × List Char))
    (st : Reading) (x : List Char) (st₁ : Reading) (r : List Char) : Prop :=
  ∃ (m : Move) (t : List Char → List Char), m.Plain ∧ m.run st = .ok st₁ ∧ Rest r t ∧
    ∀ {suf : List Char} {st' : Reading}, Closing suf → st.flags.Alike fold st'.flags →
      ∃ m' : Move, m'.shape fold = m.shape fold ∧
        read st' (x ++ suf) = (m'.run st').map (·, t suf)

variable {suf : List Char} {f f' : Flags} {x r : List Char} {t : List Char → List Char}
  {st st' st₁ : Reading}

/-! ### Groups -/

theorem isNameChar_of_readName {c : Char} {n : String} (h : readName (c :: x) = .ok (n, r)) :
    isNameChar true c = true := by
  unfold readName at h
  dsimp only at h
  split at h
  · rename_i d more e rest hname hrest
    split_ifs at h with hchars
    by_cases hc : c = '>'
    · subst hc
      cases hname
    · rw [List.takeWhile_cons_of_pos (by simpa using hc)] at hname
      rw [(List.cons.inj hname).1]
      simp only [Bool.and_eq_true] at hchars
      exact hchars.1
  · cases h

theorem readGroup_named {rest : List Char} {n : String} (h : Announces (st.flags.skip x) rest)
    (hn : readName rest = .ok (n, r)) :
    readGroup st x = ((Move.named n).run st).map (·, r) := by
  have hrun : (do
      let q ← readName rest
      if st.names.contains q.1 then throw .repeatedName
      return (({ st with names := q.1 :: st.names }).openGroup (some q.1) st.flags, q.2) :
        Except SyntaxError (Reading × List Char)) = ((Move.named n).run st).map (·, r) := by
    rw [hn, Move.run]
    simp only [bind, Except.bind]
    split_ifs <;> rfl
  rw [← hrun]
  unfold readGroup
  generalize st.flags.skip x = y at h
  have hedge : isNameChar true '=' = false ∧ isNameChar true '!' = false := by decide
  cases h with
  | long => rfl
  | short =>
      split
      all_goals try
        rename_i e
        cases e
      · exact absurd (isNameChar_of_readName hn) (by simp [hedge.1])
      · exact absurd (isNameChar_of_readName hn) (by simp [hedge.2])
      · rfl
      · rename_i hne
        exact absurd rfl (hne rest)
      · rename_i hne
        exact absurd rfl (hne _)

theorem readGroup_flags {rest : List Char} {items : List FlagItem} {stop : Char}
    (hx : st.flags.skip x = '?' :: rest) (hr : Flags.read [] rest = .ok (items, stop, r)) :
    readGroup st x =
      if stop = ':' then .ok (st.openGroup none (st.flags.apply items true), r)
      else if items.isEmpty then .error .nothingToRepeat
      else .ok (({ st with flags := st.flags.apply items true }).push ⟨.empty, 0, true⟩, r) := by
  unfold readGroup
  rw [hx]
  dsimp only
  split
  all_goals try
    rename_i e
    cases e
    cases hr
  · rename_i e
    cases e
    rw [hr]
    simp only [bind, Except.bind]
    split_ifs <;> rfl
  · rename_i hne
    exact absurd rfl (hne rest)

theorem readGroup_unnamed (h : ∀ rest, st.flags.skip x ≠ '?' :: rest) :
    readGroup st x = .ok (st.openGroup none st.flags, st.flags.skip x) := by
  unfold readGroup
  dsimp only
  split
  all_goals first
    | (rename_i e; exact absurd e (h _))
    | rfl

theorem makes_readGroup (h : readGroup st x = .ok (st₁, r)) :
    Makes fold readGroup st x st₁ r := by
  rcases readGroup_ok h with ⟨rest, n, hann, hq, hnew, rfl⟩ | ⟨rest, items, stop, hx, hq, -⟩ |
    ⟨hne, rfl, rfl⟩
  · refine ⟨.named n, _, trivial, ?_, .kept, fun {suf st'} hsuf hf => ⟨.named n, rfl, ?_⟩⟩
    · exact if_neg (by simpa using hnew)
    · obtain ⟨y, hy⟩ := hann.head
      have hann' : Announces (st'.flags.skip (x ++ suf)) (rest ++ suf) := by
        rw [skip_append hy hsuf hf.verbose, ← List.cons_append, ← hy]
        exact hann.append suf
      exact readGroup_named hann' (readName_append hq suf)
  · have hread {suf : List Char} {st' : Reading} (hsuf : Closing suf)
        (hf : st.flags.Alike fold st'.flags) :=
      readGroup_flags (skip_append hx hsuf hf.verbose) (flagsRead_append hq suf)
    rw [readGroup_flags hx hq] at h
    split_ifs at h with hstop hitems
    · cases h
      refine ⟨.unnamed items, _, trivial, rfl, .kept, fun {suf st'} hsuf hf => ?_⟩
      exact ⟨.unnamed items, rfl, (hread hsuf hf).trans (if_pos hstop)⟩
    · cases h
      refine ⟨.flags items, _, trivial, rfl, .kept, fun {suf st'} hsuf hf => ?_⟩
      exact ⟨.flags items, rfl, (hread hsuf hf).trans ((if_neg hstop).trans (if_neg hitems))⟩
  · obtain ⟨t, ht, hskip⟩ := (Rest.kept : Rest x _).skip st.flags
    refine ⟨.unnamed [], t, trivial, rfl, ht, fun {suf st'} hsuf hf => ⟨.unnamed [], rfl, ?_⟩⟩
    have hs := hskip hsuf hf.verbose
    rw [readGroup_unnamed, hs]
    · rfl
    · intro rest e
      obtain ⟨y, hy⟩ := ht.head hsuf (hs.symm.trans e) (by decide)
      exact hne y hy

/-! ### Parts -/

theorem toRegex_alike {a a' : Atom} {q : Regex} (h : a.toRegex f = .ok q) (hf : f.Alike fold f')
    (ha : a'.shape fold = a.shape fold) :
    ∃ q', a'.toRegex f' = .ok q' ∧ q'.shape fold = q.shape fold := by
  cases a with
  | literal c asByte =>
      obtain rfl := Atom.eq_literal_of_shape ha
      rw [Atom.toRegex] at h ⊢
      cases hs : literalSet f c asByte with
      | error e =>
          rw [hs] at h
          cases h
      | ok s =>
          rw [hs] at h
          cases h
          obtain ⟨s', hs', hset⟩ := literalSet_alike hs hf
          rw [hs']
          exact ⟨_, rfl, congrArg Regex.set hset⟩
  | set s =>
      obtain ⟨s', rfl, hset⟩ := Atom.exists_set_of_shape ha
      cases h
      exact ⟨_, rfl, congrArg Regex.set hset⟩
  | assert e =>
      cases a' with
      | set s' => cases ha
      | literal c asByte => cases ha
      | assert e' =>
          cases ha
          cases h
          exact ⟨_, rfl, rfl⟩

/-- An expression that is added makes a move if it is read alike. -/
theorem makes_push {read : Reading → List Char → Except SyntaxError (Reading × List Char)}
    {q : Regex} {d : Nat} (hq : ∀ name, q.Avoids name) (ht : Rest r t)
    (h : ∀ {suf : List Char} {st' : Reading}, Closing suf → st.flags.Alike fold st'.flags →
      ∃ q', q'.shape fold = q.shape fold ∧
        read st' (x ++ suf) = .ok (st'.push ⟨q', d, false⟩, t suf)) :
    Makes fold read st x (st.push ⟨q, d, false⟩) r := by
  refine ⟨.push ⟨q, d, false⟩, t, hq, rfl, ht, fun {suf st'} hsuf hf => ?_⟩
  obtain ⟨q', hshape, hread⟩ := h hsuf hf
  refine ⟨.push ⟨q', d, false⟩, ?_, hread⟩
  rw [Move.shape, Move.shape, Part.shape, Part.shape, hshape]

theorem makes_class (h : readPart st '[' x = .ok (st₁, r)) :
    Makes fold (readPart · '[' ·) st x st₁ r := by
  obtain ⟨⟨p, q⟩, hq, h⟩ := ok_of_bind (x := readBracket st.flags x) h
  cases h
  refine makes_push (fun _ => trivial) .kept fun {suf st'} hsuf hf => ?_
  obtain ⟨p', hp', hshape⟩ := readBracket_append hsuf hf hq
  obtain ⟨hset, hdepth⟩ := ClassPart.mk.inj hshape
  refine ⟨.set p'.set, congrArg Regex.set hset, ?_⟩
  rw [← hdepth]
  show (do
    let q ← readBracket st'.flags (x ++ suf)
    return (st'.push ⟨.set q.1.set, q.1.depth, false⟩, q.2) :
      Except SyntaxError (Reading × List Char)) = _
  rw [hp']
  rfl

theorem makes_escape (h : readPart st '\\' x = .ok (st₁, r)) :
    Makes fold (readPart · '\\' ·) st x st₁ r := by
  obtain ⟨⟨a, q⟩, hq, h⟩ := ok_of_bind (x := readEscape st.flags x) h
  obtain ⟨e, ha, h⟩ := ok_of_bind h
  cases h
  obtain ⟨t, ht, hread⟩ := rest_readEscape fold hq
  refine makes_push (fun name => avoids_toRegex ha) ht fun {suf st'} hsuf hf => ?_
  obtain ⟨a', ha', hshape⟩ := hread hsuf hf
  obtain ⟨e', he', hregex⟩ := toRegex_alike ha hf hshape
  refine ⟨e', hregex, ?_⟩
  show (do
    let q ← readEscape st'.flags (x ++ suf)
    return (st'.push ⟨← q.1.toRegex st'.flags, 0, false⟩, q.2) :
      Except SyntaxError (Reading × List Char)) = _
  rw [ha']
  simp only [bind, Except.bind, he']
  rfl

/-- **The text after a pattern has no influence on the moves that the pattern makes.** -/
theorem makes_readPart (fold : Bool) {c : Char} (h : readPart st c x = .ok (st₁, r)) :
    Makes fold (readPart · c ·) st x st₁ r := by
  have hrepeat {min : Nat} {max : Option Nat}
      (h : (do return (← st.repeatLast min max (readGreed x).1, (readGreed x).2) :
        Except SyntaxError (Reading × List Char)) = .ok (st₁, r)) :
      Makes fold (fun st x => do
        return (← st.repeatLast min max (readGreed x).1, (readGreed x).2)) st x st₁ r := by
    obtain ⟨greedy, t, hst, ht, hread⟩ := rest_repeat .kept h
    exact ⟨.times min max greedy, t, trivial, hst, ht,
      fun hsuf _ => ⟨.times min max greedy, rfl, hread hsuf⟩⟩
  by_cases hc : c ∈ partChars
  · simp only [partChars, List.mem_cons, List.not_mem_nil, or_false] at hc
    rcases hc with rfl | rfl | rfl | rfl | rfl | rfl | rfl | rfl | rfl | rfl | rfl | rfl
    · exact makes_readGroup h
    · obtain ⟨q, hq, h⟩ := ok_of_bind (x := st.closeGroup) h
      cases h
      refine ⟨.close, _, trivial, hq, .kept, fun {suf st'} hsuf hf => ⟨.close, rfl, ?_⟩⟩
      show (do return (← st'.closeGroup, x ++ suf)) = st'.closeGroup.map (·, x ++ suf)
      cases st'.closeGroup <;> rfl
    · cases h
      exact ⟨.alternate, _, trivial, rfl, .kept, fun {suf st'} hsuf hf => ⟨.alternate, rfl, rfl⟩⟩
    · exact makes_class h
    · exact hrepeat h
    · exact hrepeat h
    · exact hrepeat h
    · obtain ⟨min, max, greedy, t, hst, ht, hread⟩ := rest_readCounts h
      exact ⟨.times min max greedy, t, trivial, hst, ht,
        fun hsuf hf => ⟨.times min max greedy, rfl, hread hsuf hf.verbose⟩⟩
    · exact makes_escape h
    · obtain ⟨s, hs, h⟩ := ok_of_bind (x := st.flags.dot) h
      cases h
      refine makes_push (fun _ => trivial) .kept fun {suf st'} hsuf hf => ⟨_, rfl, ?_⟩
      show (do return (st'.push ⟨.set (← st'.flags.dot), 0, false⟩, x ++ suf) :
        Except SyntaxError (Reading × List Char)) = _
      rw [dot_alike hs hf]
      rfl
    · cases h
      refine makes_push (fun _ => trivial) .kept fun {suf st'} hsuf hf => ⟨_, rfl, ?_⟩
      rw [Flags.caret, ← hf.multiLine, ← hf.carriageReturn]
      rfl
    · cases h
      refine makes_push (fun _ => trivial) .kept fun {suf st'} hsuf hf => ⟨_, rfl, ?_⟩
      rw [Flags.dollar, ← hf.multiLine, ← hf.carriageReturn]
      rfl
  · rw [readPart_literal hc] at h
    obtain ⟨s, hs, h⟩ := ok_of_bind h
    cases h
    refine makes_push (fun _ => trivial) .kept fun {suf st'} hsuf hf => ?_
    obtain ⟨s', hs', hset⟩ := literalSet_alike hs hf
    refine ⟨.set s', congrArg Regex.set hset, ?_⟩
    rw [readPart_literal hc, hs']
    rfl

end TextMasking.Regex
