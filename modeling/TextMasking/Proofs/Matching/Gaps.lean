import Mathlib.Data.List.DropRight
import TextMasking.Proofs.Matching.Number

/-! # Gaps between digits

The expression of a number accepts at most one separator between two digits, but any number of them
is forgotten when a number is read.  So a number accepts the text that it was read from just where
there is no wide gap in it (`Number.WideGap`, `Number.Written.accepts_self`,
`Number.Accepts.written`).

In a pattern a number is read from the longest stretch of digits and separators that ends with a
digit (`Number.prefix_stretch`). -/

namespace TextMasking

open Unicode

namespace Number

/-! ### Gaps between digits -/

/-- Two separators or more stand in a row between two digits. -/
def WideGap (cs : List Char) : Prop :=
  ∃ before d gap e after, cs = before ++ d :: (gap ++ e :: after) ∧ d.isDigit = true ∧
    e.isDigit = true ∧ 2 ≤ gap.length ∧ ∀ c ∈ gap, isSeparator c = true

theorem WideGap.within {x y : List Char} (h : WideGap x) (hxy : x <:+: y) : WideGap y := by
  obtain ⟨before, d, gap, e, after, rfl, hrest⟩ := h
  obtain ⟨a, b, rfl⟩ := hxy
  exact ⟨a ++ before, d, gap, e, after ++ b, by simp, hrest⟩

/-- Whether separators, two or more of them, stand before the first digit. -/
def beginsWide (cs : List Char) : Bool :=
  decide (2 ≤ (cs.takeWhile isSeparator).length) &&
    (cs.dropWhile isSeparator).head?.any Char.isDigit

/-- Looks for a wide gap behind every digit. -/
def hasWideGap : List Char → Bool
  | [] => false
  | c :: rest => c.isDigit && beginsWide rest || hasWideGap rest

theorem beginsWide_iff {cs : List Char} : beginsWide cs = true ↔ ∃ gap e after,
    cs = gap ++ e :: after ∧ e.isDigit = true ∧ 2 ≤ gap.length ∧
      ∀ c ∈ gap, isSeparator c = true := by
  rw [beginsWide, Bool.and_eq_true, decide_eq_true_eq]
  constructor
  · rintro ⟨hlen, hdigit⟩
    cases hdrop : cs.dropWhile isSeparator with
    | nil =>
        rw [hdrop] at hdigit
        cases hdigit
    | cons e after =>
        rw [hdrop] at hdigit
        exact ⟨cs.takeWhile isSeparator, e, after,
          by rw [← hdrop, List.takeWhile_append_dropWhile], hdigit, hlen,
          fun c hc => List.mem_takeWhile_imp hc⟩
  · rintro ⟨gap, e, after, rfl, he, hlen, hsep⟩
    have hnot : isSeparator e = false := isSeparator_of_isDigit he
    rw [List.takeWhile_append_of_pos hsep, List.dropWhile_append_of_pos hsep]
    simp [hnot, he, hlen]

theorem hasWideGap_iff {cs : List Char} : hasWideGap cs = true ↔ WideGap cs := by
  induction cs with
  | nil =>
      refine iff_of_false Bool.false_ne_true ?_
      rintro ⟨before, d, gap, e, after, heq, -⟩
      simp at heq
  | cons c rest ih =>
      rw [hasWideGap, Bool.or_eq_true, Bool.and_eq_true, ih, beginsWide_iff]
      constructor
      · rintro (⟨hc, gap, e, after, rfl, he, hlen, hsep⟩ | h)
        · exact ⟨[], c, gap, e, after, rfl, hc, he, hlen, hsep⟩
        · exact h.within (List.suffix_cons c rest).isInfix
      · rintro ⟨_ | ⟨b, before⟩, d, gap, e, after, heq, hd, he, hlen, hsep⟩
        · cases heq
          exact .inl ⟨hd, gap, e, after, rfl, he, hlen, hsep⟩
        · cases heq
          exact .inr ⟨before, d, gap, e, after, rfl, hd, he, hlen, hsep⟩

instance (cs : List Char) : Decidable (WideGap cs) :=
  decidable_of_iff _ hasWideGap_iff

theorem Loose.self (digits : List Char) : Loose digits digits := by
  induction digits with
  | nil => exact .nil
  | cons d rest ih =>
      cases rest with
      | nil => exact .one d
      | cons e rest => exact .more d e none (by simp) ih

theorem Loose.append_mark {ds es x y : List Char} {c : Char} (hx : Loose ds x) (hds : ds ≠ [])
    (hc : isSeparator c = true) (hy : Loose es y) (hes : es ≠ []) :
    Loose (ds ++ es) (x ++ c :: y) := by
  induction hx with
  | nil => exact absurd rfl hds
  | one d =>
      obtain ⟨e, es, rfl⟩ := List.exists_cons_of_ne_nil hes
      exact .more d e (some c) (by simpa using hc) hy
  | more d e gap hgap hu ih =>
      have hmore := Loose.more d e gap hgap (ih (List.cons_ne_nil _ _))
      simpa using hmore

theorem Loose.exists_cons {d : Char} {rest x : List Char} (h : Loose (d :: rest) x) :
    ∃ v, x = d :: v := by
  cases h with
  | one => exact ⟨[], rfl⟩
  | more => exact ⟨_, rfl⟩

theorem Loose.not_wideGap {digits x : List Char} (h : Loose digits x)
    (hd : ∀ c ∈ digits, c.isDigit = true) : ¬WideGap x := by
  induction h with
  | nil =>
      rintro ⟨before, d, gap, e, after, heq, -⟩
      simp at heq
  | one d =>
      rintro ⟨before, d, gap, e, after, heq, -⟩
      have hlen := congrArg List.length heq
      simp at hlen
      omega
  | @more d e gap rest u hgap h ih =>
      obtain ⟨-, hrest⟩ := List.forall_mem_cons.mp hd
      have he := hrest e List.mem_cons_self
      have hnot := ih hrest
      obtain ⟨v, rfl⟩ := h.exists_cons
      rintro ⟨before, d', gap', e', after, heq, hd', he', hlen, hsep⟩
      -- a separator that follows a digit here is followed by a digit
      have hapart : ∀ {c : Char}, c.isDigit = true → isSeparator c = true → False := by
        intro c hc hs
        rw [isSeparator_of_isDigit hc] at hs
        cases hs
      rcases before with _ | ⟨b, before⟩
      · obtain ⟨s₁, s₂, gap', rfl⟩ : ∃ s₁ s₂ rest, gap' = s₁ :: s₂ :: rest := by
          rcases gap' with _ | ⟨s₁, _ | ⟨s₂, rest⟩⟩
          · simp at hlen
          · simp at hlen
          · exact ⟨s₁, s₂, rest, rfl⟩
        cases gap with
        | none =>
            cases heq
            exact hapart he (hsep _ (by simp))
        | some g =>
            cases heq
            exact hapart he (hsep _ (by simp))
      · cases gap with
        | none => exact hnot ⟨before, d', gap', e', after, (List.cons.inj heq).2, hd', he', hlen, hsep⟩
        | some g =>
            rcases before with _ | ⟨b', before⟩
            · have hg : g = d' := (List.cons.inj (List.cons.inj heq).2).1
              exact hapart hd' (hg ▸ hgap g rfl)
            · exact hnot ⟨before, d', gap', e', after,
                (List.cons.inj (List.cons.inj heq).2).2, hd', he', hlen, hsep⟩

/-- Digits and separators in which there is a digit begin with separators and a digit. -/
theorem exists_first_digit {x : List Char}
    (hchars : ∀ c ∈ x, c.isDigit = true ∨ isSeparator c = true)
    (h : ∃ d ∈ x, d.isDigit = true) :
    ∃ gap e after, x = gap ++ e :: after ∧ e.isDigit = true ∧ ∀ c ∈ gap, isSeparator c = true := by
  induction x with
  | nil =>
      obtain ⟨d, hd, -⟩ := h
      cases hd
  | cons c x ih =>
      obtain ⟨hc, hx⟩ := List.forall_mem_cons.mp hchars
      rcases hc with hc | hc
      · exact ⟨[], c, x, rfl, hc, by simp⟩
      · obtain ⟨d, hd, hdigit⟩ := h
        rcases List.mem_cons.mp hd with rfl | hd
        · exact ⟨[], d, x, rfl, hdigit, by simp⟩
        · obtain ⟨gap, e, after, rfl, he, hgap⟩ := ih hx ⟨d, hd, hdigit⟩
          exact ⟨c :: gap, e, after, rfl, he, List.forall_mem_cons.mpr ⟨hc, hgap⟩⟩

theorem Written.suffix {x : List Char} {c : Char} {rest : List Char} (h : Written (x ++ c :: rest))
    (hc : c.isDigit = true) : Written (c :: rest) := by
  refine ⟨fun d hd => h.chars d (List.mem_append_right _ hd), ⟨c, rest, rfl, hc⟩, ?_⟩
  obtain ⟨init, d, heq, hd⟩ := h.last
  obtain ⟨more, e, hsplit⟩ : ∃ more e, c :: rest = more ++ [e] :=
    ⟨_, _, (List.dropLast_concat_getLast (List.cons_ne_nil c rest)).symm⟩
  rw [hsplit, ← List.append_assoc] at heq
  obtain ⟨-, he⟩ := List.append_inj' heq rfl
  cases he
  exact ⟨more, d, hsplit, hd⟩

/-- Digits with at most one separator between two of them can be cut so. -/
theorem loose_of_not_wideGap {x : List Char} (h : Written x) (hw : ¬WideGap x) :
    Loose (x.filter Char.isDigit) x := by
  obtain ⟨n, hn⟩ : ∃ n, x.length ≤ n := ⟨_, Nat.le_refl _⟩
  induction n generalizing x with
  | zero =>
      obtain ⟨d, rest, rfl, -⟩ := h.first
      cases hn
  | succ n ih =>
      obtain ⟨d, rest, rfl, hd⟩ := h.first
      have hsub : ∀ {y : List Char}, y <:+ rest → Written y → Loose (y.filter Char.isDigit) y := by
        intro y hy hwritten
        refine ih hwritten (fun hgap => hw (hgap.within (hy.trans (List.suffix_cons d _)).isInfix)) ?_
        have := hy.length_le
        rw [List.length_cons] at hn
        omega
      rw [List.filter_cons_of_pos hd]
      rcases rest with _ | ⟨c, rest⟩
      · exact .one d
      · rcases h.chars c (by simp) with hc | hc
        · have hrest := hsub List.suffix_rfl (h.suffix (x := [d]) hc)
          rw [List.filter_cons_of_pos hc] at hrest ⊢
          exact .more d c none (by simp) hrest
        · have hmem : ∃ e ∈ c :: rest, e.isDigit = true := by
            obtain ⟨init, e, heq, he⟩ := h.last
            rcases init with _ | ⟨b, init⟩
            · cases heq
            · exact ⟨e, (List.cons.inj heq).2 ▸ List.mem_append_right _ List.mem_cons_self, he⟩
          obtain ⟨gap, e, after, hcut, he, hgap⟩ :=
            exists_first_digit (fun e he => h.chars e (List.mem_cons_of_mem d he)) hmem
          rcases gap with _ | ⟨s₁, _ | ⟨s₂, gap⟩⟩
          · cases hcut
            rw [isSeparator_of_isDigit he] at hc
            cases hc
          · obtain ⟨-, rfl⟩ : c = s₁ ∧ rest = e :: after := List.cons.inj hcut
            have hrest := hsub (List.suffix_cons c _) (h.suffix (x := [d, c]) he)
            rw [List.filter_cons_of_neg (by rw [not_isDigit_of_isSeparator hc]; exact
              Bool.false_ne_true)]
            rw [List.filter_cons_of_pos he] at hrest ⊢
            exact .more d e (some c) (by simpa using hc) hrest
          · rw [hcut] at hw
            exact absurd ⟨[], d, s₁ :: s₂ :: gap, e, after, rfl, hd, he, by simp, hgap⟩ hw

/-! ### Numbers that accept their own text -/

/-- The digits of a number. -/
def size (n : Number) : Nat :=
  n.digits.length + (n.fraction.getD []).length

/-- A text that a number accepts has the digits of the number in one stretch. -/
theorem Accepts.exists_loose {n : Number} (hn : n.Readable) {u : List Char} (h : n.Accepts u) :
    ∃ more, Loose (n.digits ++ more) u ∧ (∀ c ∈ more, c.isDigit = true) ∧
      (n.fraction.getD []).length ≤ more.length := by
  obtain ⟨x, y, hx, hy, rfl⟩ := h
  have hmark : ∀ {mark : Char} {digits : List Char}, isDecimalMark mark = true → digits ≠ [] →
      Loose (n.digits ++ digits) (x ++ mark :: digits) := fun hm hne =>
    hx.append_mark hn.digits_ne_nil (isSeparator_of_isDecimalMark hm) (.self _) hne
  cases hf : n.fraction with
  | some f =>
      rw [hf] at hy
      obtain ⟨mark, hm, rfl⟩ := hy
      obtain ⟨hne, hdigits⟩ := hn.fraction f hf
      exact ⟨f, hmark hm hne, hdigits, Nat.le_refl _⟩
  | none =>
      rw [hf] at hy
      rcases hy with rfl | ⟨mark, digits, hm, hlen, hdigits, rfl⟩
      · exact ⟨[], by simpa using hx, by simp, Nat.le_refl _⟩
      · refine ⟨digits, hmark hm ?_, hdigits, Nat.zero_le _⟩
        rintro rfl
        simp at hlen

theorem Accepts.written {n : Number} (hn : n.Readable) {u : List Char} (h : n.Accepts u) :
    Written u ∧ n.size ≤ u.countP Char.isDigit ∧ ¬WideGap u := by
  obtain ⟨more, hloose, hmore, hlen⟩ := h.exists_loose hn
  have hdigits : ∀ c ∈ n.digits ++ more, c.isDigit = true :=
    List.forall_mem_append.mpr ⟨hn.digits, hmore⟩
  refine ⟨hloose.written hdigits fun e => hn.digits_ne_nil (List.append_eq_nil_iff.mp e).1, ?_,
    hloose.not_wideGap hdigits⟩
  rw [List.countP_eq_length_filter, hloose.filter hdigits, List.length_append, size]
  omega

theorem Written.size_of {cs : List Char} (h : Written cs) :
    (of cs).size = cs.countP Char.isDigit := by
  rw [List.countP_eq_length_filter, ← h.digits, List.length_append, size]

/-- **A number accepts the text that it was read from, unless there is a wide gap in it.** -/
theorem Written.accepts_self {cs : List Char} (h : Written cs) (hgap : ¬WideGap cs) :
    (of cs).Accepts cs := by
  have hdigits := h.digits
  cases hf : (of cs).fraction with
  | none =>
      rw [hf] at hdigits
      refine ⟨cs, [], ?_, by rw [hf]; exact .inl rfl, (List.append_nil cs).symm⟩
      rw [show (of cs).digits = cs.filter Char.isDigit by simpa using hdigits]
      exact loose_of_not_wideGap h hgap
  | some f =>
      obtain ⟨x, mark, hcs, hm, hx, hfilter⟩ := h.exists_fraction hf
      have hnot : ¬WideGap x := fun hw => hgap (hw.within ⟨[], mark :: f, by rw [hcs]; rfl⟩)
      refine ⟨x, mark :: f, hfilter ▸ loose_of_not_wideGap hx hnot, ?_, hcs⟩
      rw [hf]
      exact ⟨mark, hm, rfl⟩

/-! ### The stretch of a number -/

theorem stretch_isPrefix (cs : List Char) : stretch cs <+: cs :=
  (List.rdropWhile_prefix _ _).trans (List.takeWhile_prefix _)

theorem written_stretch {c : Char} (rest : List Char) (hc : c.isDigit = true) :
    Written (stretch (c :: rest)) := by
  have hstretch : stretch (c :: rest) = ((c :: rest).takeWhile fun c =>
      c.isDigit || isSeparator c).rdropWhile (!·.isDigit) := rfl
  have hne : stretch (c :: rest) ≠ [] := by
    rw [hstretch]
    intro h
    have hall := List.rdropWhile_eq_nil_iff.mp h c (by simp [hc])
    simp [hc] at hall
  obtain ⟨init, d, hlast⟩ : ∃ init d, stretch (c :: rest) = init ++ [d] :=
    ⟨_, _, (List.dropLast_concat_getLast hne).symm⟩
  refine ⟨?_, ?_, init, d, hlast, ?_⟩
  · intro d hd
    rw [hstretch] at hd
    simpa using List.mem_takeWhile_imp ((List.rdropWhile_prefix _ _).subset hd)
  · obtain ⟨z, hz⟩ := stretch_isPrefix (c :: rest)
    obtain ⟨b, more, hcons⟩ := List.exists_cons_of_ne_nil hne
    rw [hcons] at hz
    cases hz
    exact ⟨c, more, hcons, hc⟩
  · -- a character that is no digit would have been dropped
    have hidem := List.rdropWhile_idempotent (fun c : Char => !c.isDigit)
      ((c :: rest).takeWhile fun c => c.isDigit || isSeparator c)
    rw [← hstretch, hlast, List.rdropWhile_concat] at hidem
    cases hd : d.isDigit with
    | true => rfl
    | false =>
        rw [if_pos (by simp [hd])] at hidem
        have hlen := (List.rdropWhile_prefix (fun c : Char => !c.isDigit) init).length_le
        rw [hidem, List.length_append, List.length_singleton] at hlen
        omega

/-- The stretch is the longest part at the start that ends with a digit. -/
theorem prefix_stretch {p cs : List Char} (h : p <+: cs)
    (hchars : ∀ c ∈ p, c.isDigit = true ∨ isSeparator c = true)
    (hlast : ∃ init d, p = init ++ [d] ∧ d.isDigit = true) : p <+: stretch cs := by
  obtain ⟨z, rfl⟩ := h
  obtain ⟨init, d, rfl, hd⟩ := hlast
  generalize hw : ((init ++ [d] ++ z).takeWhile fun c => c.isDigit || isSeparator c) = w
  have hp : init ++ [d] <+: w := by
    rw [← hw, List.takeWhile_append_of_pos (fun c hc => by simpa using hchars c hc)]
    exact List.prefix_append _ _
  have hstretch : stretch (init ++ [d] ++ z) = w.rdropWhile (!·.isDigit) := by rw [← hw]; rfl
  rw [hstretch]
  rcases List.prefix_or_prefix_of_prefix hp (List.rdropWhile_prefix (!·.isDigit) w) with h | h
  · exact h
  · -- what the stretch leaves out has no digit, but the part would end with one
    obtain ⟨v, hv⟩ := h
    obtain ⟨z', hz'⟩ := hp
    have happ : w.rdropWhile (!·.isDigit) ++ (v ++ z') =
        w.rdropWhile (!·.isDigit) ++ w.rtakeWhile (!·.isDigit) := by
      rw [List.rdropWhile_append_rtakeWhile, ← List.append_assoc, hv, hz']
    have hrest : v ++ z' = w.rtakeWhile (!·.isDigit) := List.append_cancel_left happ
    rcases List.eq_nil_or_concat v with rfl | ⟨v', e, rfl⟩
    · have hall : init ++ [d] = w.rdropWhile (!·.isDigit) := by rw [← hv, List.append_nil]
      exact hall ▸ List.prefix_rfl
    · rw [List.concat_eq_append, ← List.append_assoc] at hv
      obtain ⟨-, he⟩ := List.append_inj' hv rfl
      cases he
      have hmem : d ∈ w.rtakeWhile (!·.isDigit) := by rw [← hrest]; simp
      have hnot := List.mem_rtakeWhile_imp hmem
      simp [hd] at hnot

/-- Two stretches at the same place with the same number of digits are the same. -/
theorem Written.eq_of_append_eq {x y z w : List Char} (hx : Written x) (hy : Written y)
    (hcount : x.countP Char.isDigit = y.countP Char.isDigit) (h : x ++ z = y ++ w) : x = y := by
  -- what one has more than the other has no digit, but it would end with one
  have hsame : ∀ {x y : List Char}, Written y → x.countP Char.isDigit = y.countP Char.isDigit →
      x <+: y → x = y := by
    intro x y hy hcount hxy
    obtain ⟨v, rfl⟩ := hxy
    obtain ⟨init, d, hlast, hd⟩ := hy.last
    rcases List.eq_nil_or_concat v with rfl | ⟨v', e, rfl⟩
    · exact (List.append_nil x).symm
    · rw [List.concat_eq_append, ← List.append_assoc] at hlast
      obtain ⟨-, he⟩ := List.append_inj' hlast rfl
      cases he
      have hzero : (v'.concat d).countP Char.isDigit = 0 := by
        rw [List.countP_append] at hcount
        omega
      have := List.countP_eq_zero.mp hzero d (by simp)
      exact absurd hd this
  rcases List.prefix_or_prefix_of_prefix (List.prefix_append x z) (h ▸ List.prefix_append y w) with
    hpre | hpre
  · exact hsame hy hcount hpre
  · exact (hsame hx hcount.symm hpre).symm

end Number

end TextMasking
