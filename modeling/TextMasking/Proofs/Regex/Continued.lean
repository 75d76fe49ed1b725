import Mathlib.Tactic.SplitIfs
import TextMasking.Regex.Reader

/-! # Reading on past the end of a pattern

A pattern can be read by itself, or with more text after it.  Where both succeed, the two readings
stay side by side: what is left of the longer text is what is left of the pattern and then the text
after it (`Regex.Continued`).  This holds for everything that is read inside one part of a pattern,
whatever the values are that are read; so only the flag that decides on space matters. -/

namespace TextMasking.Regex

open Unicode

/-- What stands after a pattern in its wrapping: it begins by closing a group, and it can end
neither a comment nor a named class that the pattern has begun. -/
structure Closing (suf : List Char) : Prop where
  head : ∃ rest, suf = ')' :: rest
  noBreak : '\n' ∉ suf
  noClassEnd : ∀ rest, suf.dropWhile (· != ':') ≠ ':' :: ']' :: rest

/-- The rest `r'` of the longer text is the rest `r` of the pattern and then `suf`, unless a comment
goes on to the end of both. -/
def Continued (suf r r' : List Char) : Prop :=
  r' = r ++ suf ∨ r = [] ∧ r' = []

namespace Continued

variable {suf r r' : List Char}

theorem append (suf r : List Char) : Continued suf r (r ++ suf) :=
  .inl rfl

theorem cons {c : Char} (h : Continued suf (c :: r) r') : r' = c :: (r ++ suf) := by
  rcases h with h | ⟨h, -⟩
  · exact h
  · cases h

/-- A character other than the one that closes a group begins both rests or none. -/
theorem head {c : Char} {t : List Char} (hsuf : Closing suf) (h : Continued suf r (c :: t))
    (hc : c ≠ ')') : ∃ t₀, r = c :: t₀ ∧ t = t₀ ++ suf := by
  cases r with
  | nil =>
      obtain ⟨rest, rfl⟩ := hsuf.head
      rcases h with h | ⟨-, h⟩
      · exact absurd (List.cons.inj h).1 hc
      · cases h
  | cons c' t₀ =>
      obtain ⟨rfl, rfl⟩ := List.cons.inj h.cons
      exact ⟨t₀, rfl, rfl⟩

end Continued

theorem ok_of_bind {ε α β : Type} {x : Except ε α} {f : α → Except ε β} {b : β}
    (h : x >>= f = .ok b) : ∃ a, x = .ok a ∧ f a = .ok b := by
  cases x with
  | error e => cases h
  | ok a => exact ⟨a, rfl, h⟩

variable {suf : List Char} {f f' : Flags} {x x' r r' : List Char}

/-! ### Space -/

theorem skipVerbose_comment (h : '\n' ∉ x) : skipVerbose true x = [] := by
  induction x with
  | nil => rfl
  | cons c x ih =>
      have hc : c ≠ '\n' := fun e => h (e ▸ List.mem_cons_self)
      rw [skipVerbose, if_pos rfl, bne_iff_ne.mpr hc]
      exact ih fun hx => h (List.mem_cons_of_mem _ hx)

/-- Space is skipped alike; a comment that is not ended skips all that follows. -/
theorem continued_skipVerbose (hsuf : Closing suf) (inComment : Bool) (x : List Char) :
    Continued suf (skipVerbose inComment x) (skipVerbose inComment (x ++ suf)) := by
  induction x generalizing inComment with
  | nil =>
      cases inComment with
      | true => exact .inr ⟨rfl, skipVerbose_comment hsuf.noBreak⟩
      | false =>
          obtain ⟨rest, rfl⟩ := hsuf.head
          exact .inl rfl
  | cons c x ih =>
      rw [List.cons_append, skipVerbose, skipVerbose]
      split_ifs
      · exact ih _
      · exact ih _
      · exact ih _
      · exact .append suf (c :: x)

theorem Continued.skip (hsuf : Closing suf) (hf : f'.verbose = f.verbose)
    (h : Continued suf r r') : Continued suf (f.skip r) (f'.skip r') := by
  rw [Flags.skip, Flags.skip, hf]
  rcases h with rfl | ⟨rfl, rfl⟩
  · split_ifs
    · exact continued_skipVerbose hsuf false r
    · exact .append suf r
  · split_ifs <;> exact .inr ⟨rfl, rfl⟩

theorem Continued.dropBlank (hsuf : Closing suf) (h : Continued suf r r') :
    Continued suf (r.dropWhile isBlank) (r'.dropWhile isBlank) := by
  rcases h with rfl | ⟨rfl, rfl⟩
  · rw [List.dropWhile_append]
    split_ifs with he
    · obtain ⟨rest, rfl⟩ := hsuf.head
      rw [List.isEmpty_iff.mp he]
      exact .inl rfl
    · exact .append _ _
  · exact .inr ⟨rfl, rfl⟩

/-! ### Escapes -/

theorem braced_ok {d : List Char} (h : braced f x = .ok (d, r)) :
    ∃ c, x.dropWhile (· != '\x7d') = c :: r := by
  rw [braced] at h
  split at h
  · cases h
  · rename_i c rest hx
    cases h
    exact ⟨c, hx⟩

theorem continued_braced (hx : Continued suf x x') {d d' : List Char}
    (h : braced f x = .ok (d, r)) (h' : braced f' x' = .ok (d', r')) : Continued suf r r' := by
  obtain ⟨c, hr⟩ := braced_ok h
  obtain ⟨c', hr'⟩ := braced_ok h'
  rcases hx with rfl | ⟨rfl, -⟩
  · rw [List.dropWhile_append, hr] at hr'
    exact .inl (List.cons.inj hr').2.symm
  · cases hr

theorem continued_takeDigits (hsuf : Closing suf) (hf : f'.verbose = f.verbose) {n : Nat}
    (hx : Continued suf x x') {d d' : List Char} (h : takeDigits f n x = .ok (d, r))
    (h' : takeDigits f' n x' = .ok (d', r')) : Continued suf r r' := by
  induction n generalizing x x' d d' with
  | zero =>
      cases h
      cases h'
      exact hx
  | succ n ih =>
      cases x with
      | nil => cases h
      | cons c x =>
          obtain rfl := hx.cons
          obtain ⟨⟨e, q⟩, hq, e₁⟩ := ok_of_bind h
          obtain ⟨⟨e', q'⟩, hq', e₁'⟩ := ok_of_bind h'
          cases e₁
          cases e₁'
          exact ih ((Continued.append suf x).skip hsuf hf) hq hq'

theorem readCodePoint_ok {w : Nat} {a : Atom} (h : readCodePoint f w x = .ok (a, r)) :
    (∃ rest d q, f.skip x = '\x7b' :: rest ∧ braced f rest = .ok (d, q) ∧ r = f.skip q) ∨
      (∀ rest, f.skip x ≠ '\x7b' :: rest) ∧ ∃ d, takeDigits f w (f.skip x) = .ok (d, r) := by
  unfold readCodePoint at h
  split at h
  · rename_i rest hx
    obtain ⟨⟨d, q⟩, hq, h⟩ := ok_of_bind h
    refine .inl ⟨rest, d, q, hx, hq, ?_⟩
    dsimp only at h
    split_ifs at h
    · cases h
    · split at h
      · cases h
        rfl
      · cases h
  · rename_i hne
    obtain ⟨⟨d, q⟩, hq, h⟩ := ok_of_bind h
    refine .inr ⟨hne, d, ?_⟩
    dsimp only at h
    split at h
    · cases h
      exact hq
    · cases h

theorem continued_readCodePoint (hsuf : Closing suf) (hf : f'.verbose = f.verbose) {w : Nat}
    (hx : Continued suf x x') {a a' : Atom} (h : readCodePoint f w x = .ok (a, r))
    (h' : readCodePoint f' w x' = .ok (a', r')) : Continued suf r r' := by
  have hs := hx.skip hsuf hf
  rcases readCodePoint_ok h with ⟨rest, d, q, he, hq, rfl⟩ | ⟨hne, d, hd⟩
  · rw [he] at hs
    rcases readCodePoint_ok h' with ⟨rest', d', q', he', hq', rfl⟩ | ⟨hne', -⟩
    · rw [he'] at hs
      obtain rfl := (List.cons.inj hs.cons).2
      exact (continued_braced (.append ..) hq hq').skip hsuf hf
    · exact absurd hs.cons (hne' _)
  · rcases readCodePoint_ok h' with ⟨rest', d', q', he', hq', rfl⟩ | ⟨-, d', hd'⟩
    · rw [he'] at hs
      obtain ⟨t, ht, -⟩ := hs.head hsuf (by decide)
      exact absurd ht (hne _)
    · exact continued_takeDigits hsuf hf hs hd hd'

theorem propertySet_ok {n : Bool} {a : Atom} {q name : List Char}
    (h : (match namedProperty? name with
      | none => throw .unknownProperty
      | some (p, flipped) => do
        let s ← f.finishSet (n != flipped) (.property p)
        return (.set s, q) : Except SyntaxError (Atom × List Char)) = .ok (a, r)) : q = r := by
  split at h
  · cases h
  · obtain ⟨s, -, h⟩ := ok_of_bind h
    cases h
    rfl

theorem readProperty_ok {n : Bool} {a : Atom} (h : readProperty f n x = .ok (a, r)) :
    (∃ rest d, f.skip x = '\x7b' :: rest ∧ braced f rest = .ok (d, r)) ∨
      ∃ c rest, f.skip x = c :: rest ∧ c ≠ '\x7b' ∧ r = f.skip rest := by
  unfold readProperty at h
  split_ifs at h
  · cases h
  · dsimp only at h
    split at h
    · cases h
    · rename_i rest hx
      obtain ⟨⟨name, q⟩, hq, h⟩ := ok_of_bind h
      obtain rfl := propertySet_ok h
      exact .inl ⟨rest, name, hx, hq⟩
    · rename_i c rest hne hx
      split_ifs at h
      · cases h
      · exact .inr ⟨c, rest, hx, hne, (propertySet_ok h).symm⟩

theorem continued_readProperty (hsuf : Closing suf) (hf : f'.verbose = f.verbose)
    {n : Bool} (hx : Continued suf x x') {a a' : Atom}
    (h : readProperty f n x = .ok (a, r)) (h' : readProperty f' n x' = .ok (a', r')) :
    Continued suf r r' := by
  have hs := hx.skip hsuf hf
  rcases readProperty_ok h with ⟨rest, d, he, hd⟩ | ⟨c, rest, he, hc, rfl⟩
  all_goals
    rw [he] at hs
    rcases readProperty_ok h' with ⟨rest', d', he', hd'⟩ | ⟨c', rest', he', hc', rfl⟩
    all_goals
      rw [he'] at hs
      obtain ⟨e, rfl⟩ := List.cons.inj hs.cons
  · exact continued_braced (.append ..) hd hd'
  · exact absurd e hc'
  · exact absurd e.symm hc
  · exact (Continued.append suf rest).skip hsuf hf

theorem readWordEdge_ok {e : WordEdge} (h : readWordEdge f x = .ok (e, r)) :
    ((∀ rest, x ≠ '\x7b' :: rest) ∧ r = x) ∨
      ∃ rest c more, x = '\x7b' :: rest ∧ f.skip rest = c :: more ∧
        (isEdgeNameChar c = false ∧ r = x ∨
          isEdgeNameChar c = true ∧ ∃ d, braced f (c :: more) = .ok (d, r)) := by
  unfold readWordEdge at h
  split at h
  · rename_i rest
    split at h
    · cases h
    · rename_i c more hx
      refine .inr ⟨rest, c, more, rfl, hx, ?_⟩
      split_ifs at h with hc
      · cases h
        exact .inl ⟨by simpa using hc, rfl⟩
      · obtain ⟨⟨d, q⟩, hq, h⟩ := ok_of_bind h
        have hr : q = r := by
          dsimp only at h
          split at h
          all_goals
            cases h
          all_goals rfl
        exact .inr ⟨by simpa using hc, d, hr ▸ hq⟩
  · rename_i hne
    cases h
    exact .inl ⟨hne, rfl⟩

theorem continued_readWordEdge (hsuf : Closing suf) (hf : f'.verbose = f.verbose)
    (hx : Continued suf x x') {e e' : WordEdge} (h : readWordEdge f x = .ok (e, r))
    (h' : readWordEdge f' x' = .ok (e', r')) : Continued suf r r' := by
  rcases readWordEdge_ok h with ⟨hne, rfl⟩ | ⟨rest, c, more, rfl, hs, hr⟩
  · rcases readWordEdge_ok h' with ⟨-, rfl⟩ | ⟨rest', c', more', rfl, -, -⟩
    · exact hx
    · obtain ⟨t, ht, -⟩ := hx.head hsuf (by decide)
      exact absurd ht (hne _)
  · obtain rfl := hx.cons
    rcases readWordEdge_ok h' with ⟨hne', -⟩ | ⟨rest', c', more', e, hs', hr'⟩
    · exact absurd rfl (hne' _)
    · obtain rfl := (List.cons.inj e).2
      have hcont := (Continued.append suf rest).skip hsuf hf
      rw [hs, hs'] at hcont
      obtain ⟨rfl, rfl⟩ := List.cons.inj hcont.cons
      rcases hr with ⟨hc, rfl⟩ | ⟨hc, d, hd⟩
      · rcases hr' with ⟨-, rfl⟩ | ⟨hc', -⟩
        · exact .append suf ('\x7b' :: rest)
        · rw [hc] at hc'
          cases hc'
      · rcases hr' with ⟨hc', -⟩ | ⟨-, d', hd'⟩
        · rw [hc] at hc'
          cases hc'
        · exact continued_braced (.append suf (c' :: more)) hd hd'

/-- Only these escapes go on after their letter. -/
theorem rest_of_readEscape {c : Char} (hc : c ∉ ['x', 'u', 'U', 'p', 'P', 'b']) {a : Atom}
    (h : readEscape f (c :: x) = .ok (a, r)) : r = x := by
  rw [readEscape] at h
  dsimp only at h
  split_ifs at h
  · cases h
  · split at h
    all_goals first
      | exact absurd (by decide) hc
      | cases h; rfl
      | (obtain ⟨s, -, h⟩ := ok_of_bind h; cases h; rfl)
      | (split_ifs at h; cases h; rfl)

theorem continued_readEscape (hsuf : Closing suf) (hf : f'.verbose = f.verbose)
    (hx : Continued suf x x') {a a' : Atom} (h : readEscape f x = .ok (a, r))
    (h' : readEscape f' x' = .ok (a', r')) : Continued suf r r' := by
  cases x with
  | nil => cases h
  | cons c rest =>
      obtain rfl := hx.cons
      have hrest := Continued.append suf rest
      by_cases hc : c ∈ ['x', 'u', 'U', 'p', 'P', 'b']
      · simp only [List.mem_cons, List.not_mem_nil, or_false] at hc
        rcases hc with rfl | rfl | rfl | rfl | rfl | rfl
        · exact continued_readCodePoint (w := 2) hsuf hf hrest h h'
        · exact continued_readCodePoint (w := 4) hsuf hf hrest h h'
        · exact continued_readCodePoint (w := 8) hsuf hf hrest h h'
        · exact continued_readProperty (n := false) hsuf hf hrest h h'
        · exact continued_readProperty (n := true) hsuf hf hrest h h'
        · obtain ⟨⟨e, q⟩, hq, h⟩ := ok_of_bind (x := readWordEdge f rest) h
          obtain ⟨⟨e', q'⟩, hq', h'⟩ := ok_of_bind (x := readWordEdge f' (rest ++ suf)) h'
          cases h
          cases h'
          exact continued_readWordEdge hsuf hf hrest hq hq'
      · rw [rest_of_readEscape hc h, rest_of_readEscape hc h']
        exact hrest

/-! ### Repetitions -/

theorem digits_comment {seen : List Char} (h : '\n' ∉ x) :
    readDigits.go f true seen x = (seen, []) := by
  induction x with
  | nil => rfl
  | cons c x ih =>
      have hc : c ≠ '\n' := fun e => h (e ▸ List.mem_cons_self)
      rw [readDigits.go, if_pos rfl, bne_iff_ne.mpr hc]
      exact ih fun hx => h (List.mem_cons_of_mem _ hx)

theorem continued_digits (hsuf : Closing suf) (hf : f'.verbose = f.verbose) (b : Bool)
    (seen : List Char) (hx : Continued suf x x') :
    Continued suf (readDigits.go f b seen x).2 (readDigits.go f' b seen x').2 := by
  induction x generalizing b seen x' with
  | nil =>
      obtain ⟨tail, hs⟩ := hsuf.head
      rcases hx with rfl | ⟨-, rfl⟩
      · cases b with
        | true =>
            rw [digits_comment hsuf.noBreak]
            exact .inr ⟨rfl, rfl⟩
        | false =>
            have hblank : isBlank ')' = false := by decide
            have hdigit : ')'.isDigit = false := by decide
            simp [hs, readDigits.go, hblank, hdigit, Continued]
      · exact .inr ⟨rfl, rfl⟩
  | cons c x ih =>
      obtain rfl := hx.cons
      have hx := Continued.append suf x
      rw [readDigits.go, readDigits.go, hf]
      split_ifs
      · exact ih _ _ hx
      · exact ih _ _ hx
      · exact ih _ _ hx
      · exact ih _ _ hx
      · exact .append suf (c :: x)

theorem continued_readDigits (hsuf : Closing suf) (hf : f'.verbose = f.verbose)
    (hx : Continued suf x x') :
    Continued suf (readDigits f x).2 (readDigits f' x').2 :=
  ((continued_digits hsuf hf false [] (hx.dropBlank hsuf)).dropBlank hsuf).skip hsuf hf

theorem continued_readGreed (hsuf : Closing suf) (hx : Continued suf x x') :
    Continued suf (readGreed x).2 (readGreed x').2 := by
  cases x with
  | nil =>
      have h' : (readGreed x').2 = x' := by
        obtain ⟨tail, hs⟩ := hsuf.head
        rcases hx with rfl | ⟨-, rfl⟩
        · rw [hs]
          rfl
        · rfl
      rw [h']
      exact hx
  | cons c x =>
      obtain rfl := hx.cons
      by_cases hc : c = '?'
      · subst hc
        exact .append suf x
      · have h (y : List Char) : readGreed (c :: y) = (true, c :: y) := by
          rw [readGreed]
          exact fun rest e => hc (List.cons.inj e).1
        rw [h, h]
        exact .append suf (c :: x)

/-- The rest after the counts of a repetition. -/
def afterCounts (f : Flags) : List Char → List Char
  | ',' :: rest =>
    match f.skip rest with
    | '\x7d' :: rest => '\x7d' :: rest
    | rest => (readDigits f rest).2
  | rest => rest

theorem afterCounts_of_ne (h : ∀ rest, x ≠ ',' :: rest) : afterCounts f x = x := by
  unfold afterCounts
  split
  · rename_i rest
    exact absurd rfl (h rest)
  · rfl

theorem afterCounts_brace (h : f.skip x = '\x7d' :: r) : afterCounts f (',' :: x) = '\x7d' :: r := by
  show (match f.skip x with
    | '\x7d' :: rest => '\x7d' :: rest
    | rest => (readDigits f rest).2) = '\x7d' :: r
  split
  · rename_i rest hx
    exact hx.symm.trans h
  · rename_i hne
    exact absurd h (hne r)

theorem afterCounts_digits (h : ∀ rest, f.skip x ≠ '\x7d' :: rest) :
    afterCounts f (',' :: x) = (readDigits f (f.skip x)).2 := by
  show (match f.skip x with
    | '\x7d' :: rest => '\x7d' :: rest
    | rest => (readDigits f rest).2) = (readDigits f (f.skip x)).2
  split
  · rename_i rest hx
    exact absurd hx (h rest)
  · rfl

theorem continued_afterCounts (hsuf : Closing suf) (hf : f'.verbose = f.verbose)
    (hx : Continued suf x x') : Continued suf (afterCounts f x) (afterCounts f' x') := by
  by_cases hcomma : ∃ t, x = ',' :: t
  · obtain ⟨t, rfl⟩ := hcomma
    obtain rfl := hx.cons
    have hs := (Continued.append suf t).skip hsuf hf
    by_cases hbrace : ∃ u, f.skip t = '\x7d' :: u
    · obtain ⟨u, hu⟩ := hbrace
      rw [hu] at hs
      rw [afterCounts_brace hu, afterCounts_brace hs.cons]
      exact .append suf ('\x7d' :: u)
    · have hbrace' : ∀ u, f'.skip (t ++ suf) ≠ '\x7d' :: u := by
        intro u hu
        rw [hu] at hs
        obtain ⟨t₀, ht₀, -⟩ := hs.head hsuf (by decide)
        exact hbrace ⟨t₀, ht₀⟩
      rw [afterCounts_digits fun u hu => hbrace ⟨u, hu⟩, afterCounts_digits hbrace']
      exact continued_readDigits hsuf hf hs
  · have hcomma' : ∀ t, x' ≠ ',' :: t := by
      rintro t rfl
      obtain ⟨t₀, ht₀, -⟩ := hx.head hsuf (by decide)
      exact hcomma ⟨t₀, ht₀⟩
    rw [afterCounts_of_ne fun t e => hcomma ⟨t, e⟩, afterCounts_of_ne hcomma']
    exact hx

/-- How the counts of a repetition end. -/
theorem endCounts_ok {st st₁ : Reading} (min : Nat) (max : Option Nat) {y : List Char}
    (h : (match y with
      | '\x7d' :: rest => do
        let (greedy, rest) := readGreed (st.flags.skip rest)
        if max.any (· < min) then throw .repeatCount
        return (← st.repeatLast min max greedy, rest)
      | _ => throw .repeatCount : Except SyntaxError (Reading × List Char)) = .ok (st₁, r)) :
    ∃ rest, y = '\x7d' :: rest ∧ r = (readGreed (st.flags.skip rest)).2 ∧
      ∃ min max greedy, st.repeatLast min max greedy = .ok st₁ := by
  split at h
  · rename_i rest
    dsimp only at h
    split_ifs at h
    · cases h
    · obtain ⟨st₂, hst, h⟩ := ok_of_bind h
      cases h
      exact ⟨rest, rfl, rfl, min, max, _, hst⟩
  · cases h

theorem readCounts_ok {st st₁ : Reading} (h : readCounts st x = .ok (st₁, r)) :
    ∃ rest, afterCounts st.flags (readDigits st.flags (st.flags.skip x)).2 = '\x7d' :: rest ∧
      r = (readGreed (st.flags.skip rest)).2 ∧
      ∃ min max greedy, st.repeatLast min max greedy = .ok st₁ := by
  unfold readCounts at h
  dsimp only at h
  split at h
  · rename_i rest hq
    rw [hq]
    split at h
    · rename_i rest' hs
      obtain ⟨n, -, h⟩ := ok_of_bind h
      rw [afterCounts_brace hs]
      exact endCounts_ok n none h
    · rename_i hne
      obtain ⟨n, -, h⟩ := ok_of_bind h
      obtain ⟨n', -, h⟩ := ok_of_bind h
      rw [afterCounts_digits hne]
      exact endCounts_ok n (some n') h
  · rename_i hne
    obtain ⟨n, -, h⟩ := ok_of_bind h
    rw [afterCounts_of_ne hne]
    exact endCounts_ok n (some n) h

/-! ### Groups -/

theorem readName_ok {name : String} (h : readName x = .ok (name, r)) :
    ∃ c, x.dropWhile (· != '>') = c :: r := by
  unfold readName at h
  dsimp only at h
  split at h
  · rename_i c more d rest hname hrest
    split_ifs at h
    cases h
    exact ⟨d, hrest⟩
  · cases h

theorem continued_readName (hx : Continued suf x x') {n n' : String}
    (h : readName x = .ok (n, r)) (h' : readName x' = .ok (n', r')) : Continued suf r r' := by
  obtain ⟨c, hr⟩ := readName_ok h
  obtain ⟨c', hr'⟩ := readName_ok h'
  rcases hx with rfl | ⟨rfl, -⟩
  · rw [List.dropWhile_append, hr] at hr'
    exact .inl (List.cons.inj hr').2.symm
  · cases hr

/-- A list of flags is complete in the pattern. -/
theorem flagsRead_append {seen items : List FlagItem} {stop : Char}
    (h : Flags.read seen x = .ok (items, stop, r)) (suf : List Char) :
    Flags.read seen (x ++ suf) = .ok (items, stop, r ++ suf) := by
  induction x generalizing seen with
  | nil => cases h
  | cons c x ih =>
      rw [Flags.read] at h
      rw [List.cons_append, Flags.read]
      split_ifs at h ⊢
      · cases h
        rfl
      · split at h
        · cases h
        · split_ifs at h ⊢
          exact ih h

end TextMasking.Regex
