import TextMasking.Proofs.Regex.Continued

/-! # Reading a pattern with more text after it

What can be read of a pattern is read alike if the pattern goes on with text that closes a group
(`Regex.Closing`): the same value, and as the rest what is left of the pattern and then that text.
The one exception is a comment that is still open where the pattern ends, which takes the text with
it (`Regex.Rest`); the text has no say in which of the two happens.

Nor has letter case: flags that differ in it only (`Regex.Flags.Alike`) read the same, except for
the sets of characters. -/

namespace TextMasking

open Unicode

/-! ### What letter case does not change -/

/-- The set, or no set in particular if letter case may differ. -/
def CharSet.shape (fold : Bool) (s : CharSet) : CharSet := if fold then .none else s

namespace Regex

/-- The flags, without letter case if it may differ. -/
def Flags.shape (fold : Bool) (f : Flags) : Flags :=
  if fold then { f with ignoreCase := false } else f

/-- The atom, with no set in particular if letter case may differ. -/
def Atom.shape (fold : Bool) : Atom → Atom
  | .set s => .set (s.shape fold)
  | a => a

/-- The flags are the same, but letter case may differ. -/
def Flags.Alike (fold : Bool) (f f' : Flags) : Prop := f'.shape fold = f.shape fold

namespace Flags.Alike

variable {fold : Bool} {f f' : Flags}

theorem refl (fold : Bool) (f : Flags) : f.Alike fold f := rfl

theorem eq_of_false (h : f.Alike false f') : f' = f := h

theorem verbose (h : f.Alike fold f') : f'.verbose = f.verbose := by
  have h := congrArg Flags.verbose h
  cases fold <;> exact h

theorem unicode (h : f.Alike fold f') : f'.unicode = f.unicode := by
  have h := congrArg Flags.unicode h
  cases fold <;> exact h

theorem lazyFirst (h : f.Alike fold f') : f'.lazyFirst = f.lazyFirst := by
  have h := congrArg Flags.lazyFirst h
  cases fold <;> exact h

theorem multiLine (h : f.Alike fold f') : f'.multiLine = f.multiLine := by
  have h := congrArg Flags.multiLine h
  cases fold <;> exact h

theorem dotAll (h : f.Alike fold f') : f'.dotAll = f.dotAll := by
  have h := congrArg Flags.dotAll h
  cases fold <;> exact h

theorem carriageReturn (h : f.Alike fold f') : f'.carriageReturn = f.carriageReturn := by
  have h := congrArg Flags.carriageReturn h
  cases fold <;> exact h

variable {s s' u : CharSet}

theorem foldSet (hf : f.Alike fold f') (hs : s'.shape fold = s.shape fold) :
    (f'.foldSet s').shape fold = (f.foldSet s).shape fold := by
  cases fold with
  | true => rfl
  | false => rw [hf.eq_of_false, show s' = s from hs]

theorem negateSet (hf : f.Alike fold f') (hs : s'.shape fold = s.shape fold)
    (h : f.negateSet s = .ok u) :
    ∃ u', f'.negateSet s' = .ok u' ∧ u'.shape fold = u.shape fold := by
  unfold Flags.negateSet at h ⊢
  rw [hf.unicode]
  split_ifs at h ⊢
  cases h
  refine ⟨_, rfl, ?_⟩
  cases fold with
  | true => rfl
  | false => rw [show s' = s from hs]

theorem finishSet (hf : f.Alike fold f') (hs : s'.shape fold = s.shape fold) {negated : Bool}
    (h : f.finishSet negated s = .ok u) :
    ∃ u', f'.finishSet negated s' = .ok u' ∧ u'.shape fold = u.shape fold := by
  cases negated with
  | true => exact hf.negateSet (hf.foldSet hs) h
  | false =>
      cases h
      exact ⟨_, rfl, hf.foldSet hs⟩

end Flags.Alike

/-! ### The rest of a longer text -/

/-- The rest of a pattern in a text that goes on after it: the text after the rest, or nothing if a
comment at the end of the pattern is still open. -/
inductive Rest (r : List Char) : (List Char → List Char) → Prop
  | kept : Rest r fun suf => r ++ suf
  | lost (h : r = []) : Rest r fun _ => []

variable {suf x r : List Char} {t : List Char → List Char} {fold : Bool} {f f' : Flags}

namespace Rest

theorem cons {c : Char} (h : Rest (c :: r) t) (suf : List Char) : t suf = c :: (r ++ suf) := by
  cases h with
  | kept => rfl
  | lost h => cases h

/-- Only the character that closes a group can come from the text after the pattern. -/
theorem head (h : Rest r t) (hsuf : Closing suf) {c : Char} {z : List Char} (ht : t suf = c :: z)
    (hc : c ≠ ')') : ∃ r₀, r = c :: r₀ := by
  cases h with
  | kept =>
      cases r with
      | nil =>
          obtain ⟨rest, hs⟩ := hsuf.head
          exact absurd (List.cons.inj (hs.symm.trans ht)).1.symm hc
      | cons d r₀ => exact ⟨r₀, by rw [(List.cons.inj ht).1]⟩
  | lost h => cases ht

end Rest

theorem rest_skipVerbose (inComment : Bool) (x : List Char) :
    ∃ t, Rest (skipVerbose inComment x) t ∧
      ∀ {suf : List Char}, Closing suf → skipVerbose inComment (x ++ suf) = t suf := by
  induction x generalizing inComment with
  | nil =>
      cases inComment with
      | true => exact ⟨_, .lost rfl, fun hsuf => skipVerbose_comment hsuf.noBreak⟩
      | false =>
          refine ⟨_, .kept, fun hsuf => ?_⟩
          obtain ⟨rest, rfl⟩ := hsuf.head
          rfl
  | cons c x ih =>
      simp only [List.cons_append, skipVerbose]
      split_ifs
      · exact ih _
      · exact ih _
      · exact ih _
      · exact ⟨_, .kept, fun _ => rfl⟩

/-- Space is skipped alike. -/
theorem Rest.skip (h : Rest x t) (f : Flags) : ∃ t', Rest (f.skip x) t' ∧
    ∀ {suf : List Char} {f' : Flags}, Closing suf → f'.verbose = f.verbose →
      f'.skip (t suf) = t' suf := by
  cases hv : f.verbose with
  | false =>
      refine ⟨t, by rwa [Flags.skip, hv], fun _ hf => ?_⟩
      rw [Flags.skip, hf]
      rfl
  | true =>
      cases h with
      | lost h =>
          subst h
          refine ⟨_, .lost (by rw [Flags.skip, hv]; rfl), fun _ hf => ?_⟩
          rw [Flags.skip, hf]
          rfl
      | kept =>
          obtain ⟨t', ht', h⟩ := rest_skipVerbose false x
          refine ⟨t', by rwa [Flags.skip, hv], fun hsuf hf => ?_⟩
          rw [Flags.skip, hf]
          exact h hsuf

theorem skip_nil (f : Flags) : f.skip [] = [] := by
  rw [Flags.skip]
  split_ifs <;> rfl

/-- Where something is left after the space, the same is left of the longer text. -/
theorem skip_append {c : Char} (h : f.skip x = c :: r) (hsuf : Closing suf)
    (hf : f'.verbose = f.verbose) : f'.skip (x ++ suf) = c :: (r ++ suf) := by
  obtain ⟨t', ht', hskip⟩ := (Rest.kept : Rest x _).skip f
  rw [h] at ht'
  exact (hskip hsuf hf).trans (ht'.cons suf)

/-- What a reader takes from a pattern it takes from a longer text too: a value of the same shape,
and from there on the rest of the pattern and the text after it. -/
def ReadsAlike {α : Type} (fold : Bool) (shape : α → α)
    (read : Flags → List Char → Except SyntaxError (α × List Char)) (f : Flags) (x : List Char)
    (a : α) (r : List Char) : Prop :=
  ∃ t, Rest r t ∧ ∀ {suf : List Char} {f' : Flags}, Closing suf → f.Alike fold f' →
    ∃ a', read f' (x ++ suf) = .ok (a', t suf) ∧ shape a' = shape a

/-! ### Escapes -/

/-- What ends within the pattern ends there in the longer text too. -/
theorem span_append {p : Char → Bool} {c : Char} (h : x.dropWhile p = c :: r) (suf : List Char) :
    (x ++ suf).takeWhile p = x.takeWhile p ∧ (x ++ suf).dropWhile p = c :: (r ++ suf) := by
  have hlen : (x.takeWhile p).length ≠ x.length := by
    intro e
    have := congrArg List.length (List.takeWhile_append_dropWhile (p := p) (l := x))
    rw [List.length_append, h, List.length_cons] at this
    omega
  rw [List.takeWhile_append, if_neg hlen, List.dropWhile_append, h]
  exact ⟨rfl, rfl⟩

theorem braced_append {d : List Char} (h : braced f x = .ok (d, r)) (hf : f'.verbose = f.verbose)
    (suf : List Char) : braced f' (x ++ suf) = .ok (d, r ++ suf) := by
  obtain ⟨c, hc⟩ := braced_ok h
  obtain ⟨htake, hdrop⟩ := span_append hc suf
  rw [braced, hc] at h
  rw [braced, hdrop, htake, hf]
  cases h
  rfl

theorem rest_takeDigits (ht : Rest x t) {n : Nat} {d : List Char}
    (h : takeDigits f n x = .ok (d, r)) : ∃ t', Rest r t' ∧
      ∀ {suf : List Char} {f' : Flags}, Closing suf → f'.verbose = f.verbose →
        takeDigits f' n (t suf) = .ok (d, t' suf) := by
  induction n generalizing x t d with
  | zero =>
      cases h
      exact ⟨t, ht, fun _ _ => rfl⟩
  | succ n ih =>
      cases x with
      | nil => cases h
      | cons c x =>
          obtain ⟨⟨e, q⟩, hq, e₁⟩ := ok_of_bind h
          cases e₁
          obtain ⟨t₁, ht₁, hskip⟩ := (Rest.kept : Rest x _).skip f
          obtain ⟨t', ht', hmore⟩ := ih ht₁ hq
          refine ⟨t', ht', fun hsuf hf => ?_⟩
          rw [ht.cons, takeDigits, hskip hsuf hf, hmore hsuf hf]
          rfl

theorem rest_readCodePoint (fold : Bool) {w : Nat} {a : Atom}
    (h : readCodePoint f w x = .ok (a, r)) :
    ReadsAlike fold (·.shape fold) (readCodePoint · w) f x a r := by
  obtain ⟨t₁, ht₁, hskip⟩ := (Rest.kept : Rest x _).skip f
  unfold readCodePoint at h
  split at h
  · rename_i rest hx
    obtain ⟨⟨d, q⟩, hq, h⟩ := ok_of_bind h
    obtain ⟨t, ht, hskip'⟩ := (Rest.kept : Rest q _).skip f
    dsimp only at h
    split_ifs at h with hd
    · cases h
    · split at h
      · rename_i c hc
        cases h
        refine ⟨t, ht, fun {suf f'} hsuf hf => ⟨_, ?_, rfl⟩⟩
        show readCodePoint f' w (x ++ suf) = _
        unfold readCodePoint
        rw [skip_append hx hsuf hf.verbose]
        simp [braced_append hq hf.verbose, hd, hc, hskip' hsuf hf.verbose, bind, Except.bind, pure,
          Except.pure]
      · cases h
  · rename_i hne
    obtain ⟨⟨d, q⟩, hq, h⟩ := ok_of_bind h
    dsimp only at h
    split at h
    · rename_i c hc
      cases h
      obtain ⟨t, ht, hdigits⟩ := rest_takeDigits ht₁ hq
      refine ⟨t, ht, fun {suf f'} hsuf hf => ⟨_, ?_, rfl⟩⟩
      show readCodePoint f' w (x ++ suf) = _
      unfold readCodePoint
      rw [hskip hsuf hf.verbose]
      split
      · rename_i z hz
        obtain ⟨z₀, hz₀⟩ := ht₁.head hsuf hz (by decide)
        exact absurd hz₀ (hne z₀)
      · simp [hdigits hsuf hf.verbose, hc, bind, Except.bind, pure, Except.pure]
    · cases h

theorem propertySet_alike {negated : Bool} {name q : List Char} {a : Atom} (hf : f.Alike fold f')
    (h : (match namedProperty? name with
      | none => throw .unknownProperty
      | some (p, flipped) => do
        let s ← f.finishSet (negated != flipped) (.property p)
        return (.set s, q) : Except SyntaxError (Atom × List Char)) = .ok (a, r))
    (q' : List Char) : ∃ a', a'.shape fold = a.shape fold ∧
      (match namedProperty? name with
      | none => throw .unknownProperty
      | some (p, flipped) => do
        let s ← f'.finishSet (negated != flipped) (.property p)
        return (.set s, q') : Except SyntaxError (Atom × List Char)) = .ok (a', q') := by
  split at h
  · cases h
  · rename_i p flipped hp
    obtain ⟨s, hs, h⟩ := ok_of_bind h
    cases h
    obtain ⟨s', hs', hshape⟩ := hf.finishSet rfl hs
    refine ⟨.set s', congrArg Atom.set hshape, ?_⟩
    rw [hs']
    rfl

theorem rest_readProperty (fold negated : Bool) {a : Atom}
    (h : readProperty f negated x = .ok (a, r)) :
    ReadsAlike fold (·.shape fold) (readProperty · negated) f x a r := by
  unfold readProperty at h
  split_ifs at h with hu
  · cases h
  · dsimp only at h
    split at h
    · cases h
    · rename_i rest hx
      obtain ⟨⟨name, q⟩, hq, h⟩ := ok_of_bind h
      obtain rfl := propertySet_ok h
      refine ⟨_, .kept, fun {suf f'} hsuf hf => ?_⟩
      obtain ⟨a', ha', hset⟩ := propertySet_alike hf h (q ++ suf)
      refine ⟨a', ?_, ha'⟩
      show readProperty f' negated (x ++ suf) = _
      unfold readProperty
      rw [hf.unicode, if_neg hu, skip_append hx hsuf hf.verbose, ← hset]
      simp only [braced_append hq hf.verbose]
      rfl
    · rename_i c rest hne hx
      split_ifs at h with hc
      · cases h
      · obtain ⟨t, ht, hskip⟩ := (Rest.kept : Rest rest _).skip f
        obtain rfl := propertySet_ok h
        refine ⟨t, ht, fun {suf f'} hsuf hf => ?_⟩
        obtain ⟨a', ha', hset⟩ := propertySet_alike hf h (t suf)
        refine ⟨a', ?_, ha'⟩
        show readProperty f' negated (x ++ suf) = _
        unfold readProperty
        rw [hf.unicode, if_neg hu, skip_append hx hsuf hf.verbose, ← hset]
        split
        · rename_i e
          cases e
        · rename_i e
          exact absurd (List.cons.inj e).1 hne
        · rename_i e
          obtain ⟨rfl, rfl⟩ := List.cons.inj e
          rw [if_neg hc, hskip hsuf hf.verbose]
          rfl

theorem readWordEdge_append {e : WordEdge} (h : readWordEdge f x = .ok (e, r)) (hsuf : Closing suf)
    (hf : f'.verbose = f.verbose) : readWordEdge f' (x ++ suf) = .ok (e, r ++ suf) := by
  unfold readWordEdge at h
  split at h
  · rename_i rest
    split at h
    · cases h
    · rename_i c more hx
      rw [List.cons_append, readWordEdge, skip_append hx hsuf hf]
      dsimp only
      split_ifs at h ⊢
      · cases h
        rfl
      · obtain ⟨⟨d, q⟩, hq, h⟩ := ok_of_bind h
        have hq' := braced_append hq hf suf
        rw [List.cons_append] at hq'
        simp only [hq', bind, Except.bind]
        dsimp only at h
        split at h
        all_goals
          cases h
        all_goals rfl
  · rename_i hne
    cases h
    unfold readWordEdge
    split
    · rename_i z hz
      obtain ⟨z₀, rfl⟩ := (Rest.kept : Rest x _).head hsuf hz (by decide)
      exact absurd rfl (hne z₀)
    · rfl

theorem perlClass_congr (hf : f'.unicode = f.unicode) (c : Char) :
    perlClass f' c = perlClass f c := by
  rw [perlClass, perlClass, hf]

theorem negatedClass_append {c : Char} {a : Atom} (h : (do
      return (.set (← f.negateSet (perlClass f c)), x) : Except SyntaxError (Atom × List Char)) =
        .ok (a, r)) (hf : f.Alike fold f') (suf : List Char) :
    ∃ a', (do return (.set (← f'.negateSet (perlClass f' c)), x ++ suf) :
      Except SyntaxError (Atom × List Char)) = .ok (a', r ++ suf) ∧
        a'.shape fold = a.shape fold := by
  obtain ⟨s, hs, h⟩ := ok_of_bind h
  cases h
  obtain ⟨s', hs', hshape⟩ := hf.negateSet rfl hs
  refine ⟨.set s', ?_, congrArg Atom.set hshape⟩
  rw [perlClass_congr hf.unicode, hs']
  rfl

/-- The escapes that read no more than their letter. -/
theorem readEscape_append {c : Char} (hc : c ∉ ['x', 'u', 'U', 'p', 'P', 'b']) {a : Atom}
    (h : readEscape f (c :: x) = .ok (a, r)) (hf : f.Alike fold f') (suf : List Char) :
    ∃ a', readEscape f' (c :: (x ++ suf)) = .ok (a', r ++ suf) ∧ a'.shape fold = a.shape fold := by
  rw [readEscape] at h ⊢
  dsimp only at h ⊢
  split_ifs at h ⊢ with hdigit
  · cases h
  · split at h
    all_goals first
      | exact absurd (by decide) hc
      | (cases h; exact ⟨_, rfl, by rw [perlClass_congr hf.unicode]⟩)
      | (cases h; exact ⟨_, rfl, by rw [hf.unicode]⟩)
      | (cases h; exact ⟨_, rfl, rfl⟩)
      | exact negatedClass_append h hf suf
      | (split_ifs at h ⊢; cases h; exact ⟨_, rfl, rfl⟩)

/-- An escape of a pattern is read alike. -/
theorem rest_readEscape (fold : Bool) {a : Atom} (h : readEscape f x = .ok (a, r)) :
    ReadsAlike fold (·.shape fold) readEscape f x a r := by
  cases x with
  | nil => cases h
  | cons c x =>
      by_cases hc : c ∈ ['x', 'u', 'U', 'p', 'P', 'b']
      · simp only [List.mem_cons, List.not_mem_nil, or_false] at hc
        rcases hc with rfl | rfl | rfl | rfl | rfl | rfl
        · exact rest_readCodePoint fold h
        · exact rest_readCodePoint fold h
        · exact rest_readCodePoint fold h
        · exact rest_readProperty fold false h
        · exact rest_readProperty fold true h
        · obtain ⟨⟨e, q⟩, hq, h⟩ := ok_of_bind (x := readWordEdge f x) h
          cases h
          refine ⟨_, .kept, fun {suf f'} hsuf hf =>
            ⟨.assert (.word e !f'.unicode), ?_, by rw [hf.unicode]⟩⟩
          have hedge := readWordEdge_append hq hsuf hf.verbose
          show (do
            let q ← readWordEdge f' (x ++ suf)
            return (.assert (.word q.1 !f'.unicode), q.2) :
              Except SyntaxError (Atom × List Char)) = _
          rw [hedge]
          rfl
      · exact ⟨_, .kept, fun {suf f'} _ hf => readEscape_append hc h hf suf⟩

/-! ### Characters -/

theorem literalSet_alike {c : Char} {asByte : Bool} {s : CharSet}
    (h : literalSet f c asByte = .ok s) (hf : f.Alike fold f') :
    ∃ s', literalSet f' c asByte = .ok s' ∧ s'.shape fold = s.shape fold := by
  unfold literalSet at h ⊢
  rw [hf.unicode]
  split_ifs at h ⊢
  cases h
  exact ⟨_, rfl, hf.foldSet rfl⟩

theorem dot_alike {s : CharSet} (h : f.dot = .ok s) (hf : f.Alike fold f') : f'.dot = .ok s := by
  rw [← h, Flags.dot, Flags.dot, hf.unicode, hf.dotAll, hf.carriageReturn]

/-! ### Repetitions -/

theorem rest_dropBlank (h : Rest x t) : ∃ t', Rest (x.dropWhile isBlank) t' ∧
    ∀ {suf : List Char}, Closing suf → (t suf).dropWhile isBlank = t' suf := by
  cases h with
  | kept =>
      refine ⟨_, .kept, fun {suf} hsuf => ?_⟩
      dsimp only
      rw [List.dropWhile_append]
      split_ifs with he
      · obtain ⟨rest, rfl⟩ := hsuf.head
        rw [List.isEmpty_iff.mp he]
        rfl
      · rfl
  | lost h =>
      subst h
      exact ⟨_, .lost rfl, fun _ => rfl⟩

theorem rest_digits (inComment : Bool) (seen : List Char) (h : Rest x t) (f : Flags) :
    ∃ t', Rest (readDigits.go f inComment seen x).2 t' ∧
      ∀ {suf : List Char} {f' : Flags}, Closing suf → f'.verbose = f.verbose →
        readDigits.go f' inComment seen (t suf) =
          ((readDigits.go f inComment seen x).1, t' suf) := by
  induction x generalizing inComment seen t with
  | nil =>
      cases h with
      | lost h => exact ⟨_, .lost rfl, fun _ _ => rfl⟩
      | kept =>
          cases inComment with
          | true => exact ⟨_, .lost rfl, fun hsuf _ => digits_comment hsuf.noBreak⟩
          | false =>
              refine ⟨_, .kept, fun {suf f'} hsuf _ => ?_⟩
              obtain ⟨tail, rfl⟩ := hsuf.head
              have hblank : isBlank ')' = false := by decide
              have hdigit : ')'.isDigit = false := by decide
              simp [readDigits.go, hblank, hdigit]
  | cons c x ih =>
      simp only [h.cons]
      rw [readDigits.go]
      split_ifs with hcomment hdigit hblank hopen
      · obtain ⟨t', ht', hgo⟩ := ih (c != '\n') seen .kept
        refine ⟨t', ht', fun hsuf hf => ?_⟩
        rw [readDigits.go, if_pos hcomment, hgo hsuf hf]
      · obtain ⟨t', ht', hgo⟩ := ih false (c :: seen) .kept
        refine ⟨t', ht', fun hsuf hf => ?_⟩
        rw [readDigits.go, if_neg hcomment, if_pos hdigit, hgo hsuf hf]
      · obtain ⟨t', ht', hgo⟩ := ih false seen .kept
        refine ⟨t', ht', fun hsuf hf => ?_⟩
        rw [readDigits.go, if_neg hcomment, if_neg hdigit, hf, if_pos hblank, hgo hsuf hf]
      · obtain ⟨t', ht', hgo⟩ := ih true seen .kept
        refine ⟨t', ht', fun hsuf hf => ?_⟩
        rw [readDigits.go, if_neg hcomment, if_neg hdigit, hf, if_neg hblank, if_pos hopen,
          hgo hsuf hf]
      · refine ⟨_, .kept, fun hsuf hf => ?_⟩
        rw [readDigits.go, if_neg hcomment, if_neg hdigit, hf, if_neg hblank, if_neg hopen]
        rfl

theorem rest_readDigits (h : Rest x t) (f : Flags) : ∃ t', Rest (readDigits f x).2 t' ∧
    ∀ {suf : List Char} {f' : Flags}, Closing suf → f'.verbose = f.verbose →
      readDigits f' (t suf) = ((readDigits f x).1, t' suf) := by
  obtain ⟨t₁, ht₁, hdrop₁⟩ := rest_dropBlank h
  obtain ⟨t₂, ht₂, hgo⟩ := rest_digits false [] ht₁ f
  obtain ⟨t₃, ht₃, hdrop₃⟩ := rest_dropBlank ht₂
  obtain ⟨t', ht', hskip⟩ := ht₃.skip f
  refine ⟨t', ht', fun hsuf hf => ?_⟩
  rw [readDigits, hdrop₁ hsuf, hgo hsuf hf]
  dsimp only
  rw [hdrop₃ hsuf, hskip hsuf hf]
  rfl

theorem rest_readGreed (h : Rest x t) : ∃ t', Rest (readGreed x).2 t' ∧
    ∀ {suf : List Char}, Closing suf → readGreed (t suf) = ((readGreed x).1, t' suf) := by
  by_cases hx : ∃ y, x = '?' :: y
  · obtain ⟨y, rfl⟩ := hx
    exact ⟨_, .kept, fun {suf} _ => by rw [h.cons]; rfl⟩
  · have hne {y : List Char} (hy : ∀ z, y ≠ '?' :: z) : readGreed y = (true, y) := by
      rw [readGreed]
      exact hy
    rw [hne fun y e => hx ⟨y, e⟩]
    refine ⟨t, h, fun hsuf => hne fun z e => ?_⟩
    exact hx (h.head hsuf e (by decide))

/-- The counts of a repetition, after its opening brace, and the text from its closing brace on. -/
def counts (f : Flags) (x : List Char) : Except SyntaxError (Nat × Option Nat × List Char) := do
  let (digits, rest) := readDigits f (f.skip x)
  match rest with
  | ',' :: rest =>
    match f.skip rest with
    | '\x7d' :: rest => pure (← countOf digits, none, '\x7d' :: rest)
    | rest =>
      let min ← countOf digits
      let (digits, rest) := readDigits f rest
      pure (min, some (← countOf digits), rest)
  | rest => do
    let n ← countOf digits
    pure (n, some n, rest)

section

variable {digits y z : List Char}

theorem counts_single (h : readDigits f (f.skip x) = (digits, y))
    (hne : ∀ z, y = ',' :: z → False) : counts f x = (do
      let n ← countOf digits
      pure (n, some n, y)) := by
  rw [counts, h]
  simp only

theorem counts_open (h : readDigits f (f.skip x) = (digits, ',' :: z))
    (hz : f.skip z = '\x7d' :: y) : counts f x = (do
      let n ← countOf digits
      pure (n, none, '\x7d' :: y)) := by
  rw [counts, h]
  simp only [hz]

theorem counts_pair (h : readDigits f (f.skip x) = (digits, ',' :: z))
    (hne : ∀ y, f.skip z = '\x7d' :: y → False) : counts f x = (do
      let n ← countOf digits
      let m ← countOf (readDigits f (f.skip z)).1
      pure (n, some m, (readDigits f (f.skip z)).2)) := by
  rw [counts, h]
  simp only

end

theorem rest_counts {min : Nat} {max : Option Nat} (h : counts f x = .ok (min, max, r)) :
    ∃ t, Rest r t ∧ ∀ {suf : List Char} {f' : Flags}, Closing suf → f'.verbose = f.verbose →
      counts f' (x ++ suf) = .ok (min, max, t suf) := by
  obtain ⟨t₁, ht₁, hskip⟩ := (Rest.kept : Rest x _).skip f
  obtain ⟨t₂, ht₂, hdigits⟩ := rest_readDigits ht₁ f
  have hread {suf : List Char} {f' : Flags} (hsuf : Closing suf) (hf : f'.verbose = f.verbose) :
      readDigits f' (f'.skip (x ++ suf)) = ((readDigits f (f.skip x)).1, t₂ suf) := by
    rw [hskip hsuf hf, hdigits hsuf hf]
  unfold counts at h
  dsimp only at h
  split at h
  · rename_i y hy
    rw [hy] at ht₂
    obtain ⟨t₃, ht₃, hskip₃⟩ := (Rest.kept : Rest y _).skip f
    split at h
    · rename_i z hz
      obtain ⟨n, hn, h⟩ := ok_of_bind h
      cases h
      refine ⟨_, .kept, fun {suf f'} hsuf hf => ?_⟩
      have hcomma := hread hsuf hf
      rw [ht₂.cons] at hcomma
      rw [counts_open hcomma (skip_append hz hsuf hf), hn]
      rfl
    · rename_i hne
      obtain ⟨n, hn, h⟩ := ok_of_bind h
      obtain ⟨n', hn', h⟩ := ok_of_bind h
      cases h
      obtain ⟨t₄, ht₄, hdigits₄⟩ := rest_readDigits ht₃ f
      refine ⟨t₄, ht₄, fun {suf f'} hsuf hf => ?_⟩
      have hcomma := hread hsuf hf
      rw [ht₂.cons] at hcomma
      have hpair (z : List Char) (hz : f'.skip (y ++ suf) = '\x7d' :: z) : False := by
        rw [hskip₃ hsuf hf] at hz
        obtain ⟨z₀, hz₀⟩ := ht₃.head hsuf hz (by decide)
        exact hne z₀ hz₀
      rw [counts_pair hcomma hpair, hskip₃ hsuf hf, hdigits₄ hsuf hf, hn, hn']
      rfl
  · rename_i hne
    obtain ⟨n, hn, h⟩ := ok_of_bind h
    cases h
    refine ⟨t₂, ht₂, fun {suf f'} hsuf hf => ?_⟩
    have hsingle (z : List Char) (hz : t₂ suf = ',' :: z) : False := by
      obtain ⟨z₀, hz₀⟩ := ht₂.head hsuf hz (by decide)
      exact hne z₀ hz₀
    rw [counts_single (hread hsuf hf) hsingle, hn]
    rfl

/-- A repetition is read alike, and what it repeats is decided by what was read before. -/
theorem rest_repeat {st st₁ : Reading} {min : Nat} {max : Option Nat} (hx : Rest x t)
    (h : (do return (← st.repeatLast min max (readGreed x).1, (readGreed x).2) :
      Except SyntaxError (Reading × List Char)) = .ok (st₁, r)) :
    ∃ greedy t', st.repeatLast min max greedy = .ok st₁ ∧ Rest r t' ∧
      ∀ {suf : List Char} {st' : Reading}, Closing suf →
        (do return (← st'.repeatLast min max (readGreed (t suf)).1, (readGreed (t suf)).2) :
          Except SyntaxError (Reading × List Char)) =
            (st'.repeatLast min max greedy).map (·, t' suf) := by
  obtain ⟨t', ht', hgreed⟩ := rest_readGreed hx
  obtain ⟨st₂, hst, h⟩ := ok_of_bind h
  cases h
  refine ⟨_, t', hst, ht', fun {suf st'} hsuf => ?_⟩
  rw [hgreed hsuf]
  cases st'.repeatLast min max (readGreed x).1 <;> rfl

/-- The end of a repetition, from its closing brace on. -/
def endCounts (st : Reading) (min : Nat) (max : Option Nat) :
    List Char → Except SyntaxError (Reading × List Char)
  | '\x7d' :: rest => do
    if max.any (· < min) then throw .repeatCount
    return (← st.repeatLast min max (readGreed (st.flags.skip rest)).1,
      (readGreed (st.flags.skip rest)).2)
  | _ => throw .repeatCount

theorem readCounts_eq (st : Reading) (x : List Char) :
    readCounts st x = (do
      let (min, max, rest) ← counts st.flags x
      endCounts st min max rest) := by
  unfold readCounts
  obtain ⟨digits, y, hy⟩ : ∃ digits y, readDigits st.flags (st.flags.skip x) = (digits, y) :=
    ⟨_, _, rfl⟩
  dsimp only
  rw [hy]
  dsimp only
  split
  · rename_i z
    split
    · rename_i hz
      rw [counts_open hy hz]
      cases countOf digits <;> rfl
    · rename_i hne
      rw [counts_pair hy hne]
      simp only [bind_assoc, pure_bind]
      rfl
  · rename_i hne
    rw [counts_single hy hne]
    cases countOf digits <;> rfl

theorem rest_readCounts {st st₁ : Reading} (h : readCounts st x = .ok (st₁, r)) :
    ∃ min max greedy t, st.repeatLast min max greedy = .ok st₁ ∧ Rest r t ∧
      ∀ {suf : List Char} {st' : Reading}, Closing suf → st'.flags.verbose = st.flags.verbose →
        readCounts st' (x ++ suf) = (st'.repeatLast min max greedy).map (·, t suf) := by
  rw [readCounts_eq] at h
  obtain ⟨⟨min, max, q⟩, hq, h⟩ := ok_of_bind h
  obtain ⟨t₁, ht₁, hcounts⟩ := rest_counts hq
  dsimp only at h
  unfold endCounts at h
  split at h
  · rename_i y
    split_ifs at h with hmax
    · cases h
    · obtain ⟨t₂, ht₂, hskip⟩ := (Rest.kept : Rest y _).skip st.flags
      obtain ⟨greedy, t', hst, ht', hrepeat⟩ := rest_repeat ht₂ h
      refine ⟨min, max, greedy, t', hst, ht', fun {suf st'} hsuf hf => ?_⟩
      rw [readCounts_eq, hcounts hsuf hf, ht₁.cons, ← hrepeat hsuf, ← hskip hsuf hf]
      exact if_neg hmax
  · cases h

/-! ### Groups -/

theorem readName_append {name : String} (h : readName x = .ok (name, r)) (suf : List Char) :
    readName (x ++ suf) = .ok (name, r ++ suf) := by
  obtain ⟨c, hc⟩ := readName_ok h
  obtain ⟨htake, hdrop⟩ := span_append hc suf
  unfold readName at h ⊢
  rw [htake, hdrop]
  rw [hc] at h
  dsimp only at h ⊢
  split at h
  · rename_i c' more d rest hname hrest
    cases hrest
    rw [hname] at h ⊢
    dsimp only
    split_ifs at h ⊢
    cases h
    rfl
  · cases h

end Regex

end TextMasking
