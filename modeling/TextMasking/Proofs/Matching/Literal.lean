import TextMasking.Proofs.Matching.Settled
import TextMasking.Proofs.Regex.Runs

/-! # What a literal rule matches

The pieces of a literal pattern accept texts (`Piece.Accepts`): a character accepts itself, and the
same letter in the other case where case is ignored; a number accepts its digits with at most one
separator between two of them, and then its fraction.  The expression of a pattern reads what its
pieces accept one after the other (`Piece.reads`).

So the matcher of a literal rule finds a body at a position where the pieces accept what stands
there, between the edges that the rule asks for (`Matcher.Fits`, `Matcher.fits_of_bodyAt`), and it
finds one wherever there is such a text (`Matcher.exists_bodyAt_of_fits`). -/

namespace TextMasking

open Unicode

/-! ### The texts of a number -/

namespace Number

theorem holds_separatorSet (c : Char) : separatorSet.holds c = isSeparator c := by
  have hblank : CharSet.blank.holds c = isBlank c := rfl
  -- the spaces that are given by number in one place are given as characters in the other
  have hspace (d : Char) : (c.toNat == d.toNat) = (c == d) := by
    rw [Bool.eq_iff_iff, beq_iff_eq, beq_iff_eq, Char.toNat_inj]
  have h₁ : (c.toNat == 0xA0) = _ := hspace (Char.ofNat 0xA0)
  have h₂ : (c.toNat == 0x202F) = _ := hspace (Char.ofNat 0x202F)
  have h₃ : (c.toNat == 0x2009) = _ := hspace (Char.ofNat 0x2009)
  have h₄ : (c.toNat == 0x2007) = _ := hspace (Char.ofNat 0x2007)
  rw [separatorSet, CharSet.holds_union, hblank, CharSet.holds_ofList, isSeparator, h₁, h₂, h₃, h₄,
    Bool.eq_iff_iff]
  simp only [List.contains_cons, List.contains_nil, Bool.or_eq_true, beq_iff_eq, Bool.or_false]
  grind

theorem holds_markSet (c : Char) : markSet.holds c = isDecimalMark c := by
  rw [Bool.eq_iff_iff]
  simp [markSet, CharSet.holds_ofList, isDecimalMark]

theorem holds_asciiDigit (c : Char) : CharSet.asciiDigit.holds c = c.isDigit := by
  rw [Bool.eq_iff_iff]
  simp only [CharSet.asciiDigit, CharSet.holds, Char.isDigit, Bool.and_eq_true, decide_eq_true_eq]
  exact Iff.rfl

/-- The digits, with at most one separator between two of them. -/
inductive Loose : List Char → List Char → Prop
  | nil : Loose [] []
  | one (d : Char) : Loose [d] [d]
  | more (d e : Char) (gap : Option Char) {rest u : List Char}
      (hgap : ∀ c ∈ gap, isSeparator c = true) (h : Loose (e :: rest) u) :
      Loose (d :: e :: rest) (d :: (gap.toList ++ u))

/-- What may come after the last digit of the integer part. -/
def Ending : Option (List Char) → List Char → Prop
  | some fraction, u => ∃ mark, isDecimalMark mark = true ∧ u = mark :: fraction
  | none, u => u = [] ∨ ∃ mark digits, isDecimalMark mark = true ∧
      (digits.length = 1 ∨ digits.length = 2) ∧ (∀ c ∈ digits, c.isDigit = true) ∧
      u = mark :: digits

/-- The texts that a number accepts. -/
def Accepts (n : Number) : List Char → Prop :=
  Regex.Joined (Loose n.digits) (Ending n.fraction)

theorem reads_digitsRegex (digits : List Char) : (digitsRegex digits).Reads (Loose digits) := by
  fun_induction digitsRegex digits with
  | case1 =>
      refine Regex.Reads.empty.congr fun u => ?_
      constructor
      · rintro rfl
        exact .nil
      · intro h
        cases h
        rfl
  | case2 d =>
      refine (Regex.Reads.set _).congr fun u => ?_
      constructor
      · rintro ⟨c, rfl, hc⟩
        rw [CharSet.holds_char, beq_iff_eq] at hc
        exact hc ▸ .one d
      · intro h
        cases h
        exact ⟨d, rfl, by simp⟩
  | case3 d rest hrest ih =>
      refine ((Regex.Reads.set _).seq (((Regex.Reads.set _).optional true).seq ih)).congr
        fun u => ?_
      obtain ⟨e, rest, rfl⟩ := List.exists_cons_of_ne_nil hrest
      constructor
      · rintro ⟨_, _, ⟨c, rfl, hc⟩, ⟨gap, x, hgap, hx, rfl⟩, rfl⟩
        rw [CharSet.holds_char, beq_iff_eq] at hc
        rw [hc]
        rcases hgap with rfl | ⟨s, rfl, hs⟩
        · exact .more d e none (by simp) hx
        · exact .more d e (some s) (by simpa [← holds_separatorSet] using hs) hx
      · intro h
        cases h with
        | more d e gap hgap hx =>
            refine ⟨[d], _, ⟨d, rfl, by simp⟩, ⟨gap.toList, _, ?_, hx, rfl⟩, rfl⟩
            cases gap with
            | none => exact .inl rfl
            | some s => exact .inr ⟨s, rfl, by simpa [holds_separatorSet] using hgap⟩

theorem reads_literal (cs : List Char) :
    (Regex.seqs (cs.map fun d => .set (.char d))).Reads (· = cs) := by
  refine (Regex.Reads.seqs fun d _ => Regex.Reads.set (.char d)).congr fun u => ?_
  induction cs generalizing u with
  | nil => rfl
  | cons d cs ih =>
      constructor
      · rintro ⟨_, y, ⟨c, rfl, hc⟩, hy, rfl⟩
        rw [CharSet.holds_char, beq_iff_eq] at hc
        rw [hc, (ih y).mp hy]
        rfl
      · rintro rfl
        exact ⟨[d], cs, ⟨d, rfl, by simp⟩, (ih cs).mpr rfl, rfl⟩

theorem reads_fractionRegex (fraction : Option (List Char)) :
    (fractionRegex fraction).Reads (Ending fraction) := by
  cases fraction with
  | some digits =>
      refine ((Regex.Reads.set _).seq (reads_literal digits)).congr fun u => ?_
      constructor
      · rintro ⟨_, _, ⟨mark, rfl, hm⟩, rfl, rfl⟩
        exact ⟨mark, holds_markSet mark ▸ hm, rfl⟩
      · rintro ⟨mark, hm, rfl⟩
        exact ⟨[mark], digits, ⟨mark, rfl, (holds_markSet mark).symm ▸ hm⟩, rfl, rfl⟩
  | none =>
      refine (((Regex.Reads.set _).seq ((Regex.Reads.set _).oneOrTwo true)).optional true).congr
        fun u => or_congr_right ?_
      constructor
      · rintro ⟨_, _, ⟨mark, rfl, hm⟩, ⟨_, _, ⟨d, rfl, hd⟩, hy, rfl⟩, rfl⟩
        rw [holds_markSet] at hm
        rw [holds_asciiDigit] at hd
        rcases hy with rfl | ⟨e, rfl, he⟩
        · exact ⟨mark, [d], hm, .inl rfl, by simpa using hd, rfl⟩
        · rw [holds_asciiDigit] at he
          exact ⟨mark, [d, e], hm, .inr rfl, by simpa using ⟨hd, he⟩, rfl⟩
      · rintro ⟨mark, digits, hm, hlen, hdigits, rfl⟩
        refine ⟨[mark], digits, ⟨mark, rfl, (holds_markSet mark).symm ▸ hm⟩, ?_, rfl⟩
        rcases digits with _ | ⟨d, _ | ⟨e, _ | _⟩⟩
        · simp at hlen
        · refine ⟨[d], [], ⟨d, rfl, ?_⟩, .inl rfl, rfl⟩
          rw [holds_asciiDigit]
          exact hdigits d List.mem_cons_self
        · refine ⟨[d], [e], ⟨d, rfl, ?_⟩, .inr ⟨e, rfl, ?_⟩, rfl⟩
          · rw [holds_asciiDigit]
            exact hdigits d List.mem_cons_self
          · rw [holds_asciiDigit]
            exact hdigits e (by simp)
        · simp at hlen

/-- The expression of a number reads the texts that the number accepts. -/
theorem reads_regex (n : Number) : n.regex.Reads n.Accepts :=
  (reads_digitsRegex n.digits).seq (reads_fractionRegex n.fraction)

end Number

/-! ### The texts of a pattern -/

namespace Piece

/-- The pattern's character stands for this one. -/
def StandsFor (fold : Bool) (c d : Char) : Prop :=
  (if fold then CharSet.folded (.char c) else .char c).holds d = true

/-- The texts that a piece accepts. -/
def Accepts (fold : Bool) : Piece → List Char → Prop
  | .char c, u => ∃ d, u = [d] ∧ StandsFor fold c d
  | .number n, u => n.Accepts u

/-- The texts that pieces accept one after the other. -/
def AllAccept (fold : Bool) (pieces : List Piece) : List Char → Prop :=
  Regex.AllJoined (pieces.map (Accepts fold))

theorem reads (fold : Bool) (p : Piece) : (p.regex fold).Reads (p.Accepts fold) := by
  cases p with
  | char c => exact Regex.Reads.set _
  | number n => exact n.reads_regex

theorem reads_all (fold : Bool) (pieces : List Piece) :
    (Regex.seqs (pieces.map (regex fold))).Reads (AllAccept fold pieces) :=
  Regex.Reads.seqs fun p _ => reads fold p

end Piece

/-! ### The edges of a match -/

/-- No character of the set stands at the position. -/
def Clear (s : CharSet) (text : List Char) (pos : Nat) : Prop :=
  ∀ c, text[pos]? = some c → s.holds c = false

/-- What the rule asks for before a body that begins at `start`, where the search stands at
`pos`. -/
def Opens (wholeWord : Bool) (text : List Char) (pos start : Nat) : Prop :=
  match wholeWord with
  | false => start = pos
  | true => pos = 0 ∧ start = 0 ∨
      start = pos + 1 ∧ ∃ c, text[pos]? = some c ∧ CharSet.asciiWord.holds c = false

/-- What the rule asks for after a body that ends at `stop`. -/
def Closes (wholeWord number : Bool) (text : List Char) (stop : Nat) : Prop :=
  match wholeWord, number with
  | false, false => True
  | true, false => Clear .asciiWord text stop
  | false, true => Clear (.union .asciiDigit Number.markSet) text stop ∨
      ∃ c, text[stop]? = some c ∧ isDecimalMark c = true ∧ Clear .asciiDigit text (stop + 1)
  | true, true => Clear (.union .asciiWord Number.markSet) text stop ∨
      ∃ c, text[stop]? = some c ∧ isDecimalMark c = true ∧ Clear .asciiDigit text (stop + 1)

section

variable {text : List Char} {pos : Nat} {out caps : Captures}

theorem exists_runs_edgeOr_end {s : CharSet} :
    (∃ stop, Runs text stop out pos [.run (edgeOr .textEnd s)] caps) ↔
      Clear s text pos ∧ caps = out := by
  simp only [edgeOr, Runs.alt_iff, Runs.assert_iff, Runs.set_iff Goal.unmoved_nil, Runs.nil_iff,
    Assertion.holds, Option.isNone_iff_eq_none, CharSet.holds_complement, Bool.not_eq_true']
  constructor
  · rintro ⟨stop, ⟨hnone, -, h⟩ | ⟨c, hc, hs, -, h⟩⟩
    · refine ⟨fun d hd => ?_, h⟩
      rw [hnone] at hd
      cases hd
    · refine ⟨fun d hd => ?_, h⟩
      rw [hc] at hd
      cases hd
      exact hs
  · rintro ⟨hclear, h⟩
    cases hc : text[pos]? with
    | none => exact ⟨pos, .inl ⟨rfl, rfl, h⟩⟩
    | some c => exact ⟨pos + 1, .inr ⟨c, rfl, hclear c hc, rfl, h⟩⟩

theorem exists_runs_idleMark : (∃ stop, Runs text stop out pos [.run idleMark] caps) ↔
    (∃ c, text[pos]? = some c ∧ isDecimalMark c = true ∧ Clear .asciiDigit text (pos + 1)) ∧
      caps = out := by
  have hedge : (∃ stop, Runs text stop out (pos + 1) [.run (edgeOr .textEnd .asciiDigit)] caps) ↔
      Clear .asciiDigit text (pos + 1) ∧ caps = out := exists_runs_edgeOr_end
  simp only [idleMark, Runs.seq_iff, Runs.set_iff (Goal.unmoved_run Goal.unmoved_nil),
    Number.holds_markSet]
  constructor
  · rintro ⟨stop, c, hc, hm, h⟩
    obtain ⟨hclear, hout⟩ := hedge.mp ⟨stop, h⟩
    exact ⟨⟨c, hc, hm, hclear⟩, hout⟩
  · rintro ⟨⟨c, hc, hm, hclear⟩, hout⟩
    obtain ⟨stop, h⟩ := hedge.mpr ⟨hclear, hout⟩
    exact ⟨stop, c, hc, hm, h⟩

/-- What is read after a body is what the rule asks for there. -/
theorem exists_runs_after {wholeWord number : Bool} :
    (∃ stop, Runs text stop out pos ((afterRegex wholeWord number).map .run) caps) ↔
      Closes wholeWord number text pos ∧ caps = out := by
  cases wholeWord <;> cases number
  · simp [afterRegex, Closes, Runs.nil_iff]
  · simp only [afterRegex, Closes, List.map_cons, List.map_nil, Runs.alt_iff, exists_or,
      exists_runs_edgeOr_end, exists_runs_idleMark, or_and_right]
  · exact exists_runs_edgeOr_end
  · simp only [afterRegex, Closes, List.map_cons, List.map_nil, Runs.alt_iff, exists_or,
      exists_runs_edgeOr_end, exists_runs_idleMark, or_and_right]

end

/-! ### Where a literal rule finds a body -/

/-- The groups of a match whose body is `s`. -/
def Captures.ofBody (s : Span) : Captures :=
  ⟨[(bodyGroup, s.start)], [(bodyGroup, s)]⟩

namespace Matcher

/-- The rule's pieces. -/
def pieces (rule : Rule) : List Piece :=
  Piece.ofPattern rule.pattern.toList

/-- The rule asks for what stands before and after the part of the text, and its pieces accept the
part. -/
structure Fits (rule : Rule) (text : List Char) (pos : Nat) (body : Span) : Prop where
  opens : Opens rule.wholeWord text pos body.start
  accepts : ∃ u, Piece.AllAccept (!rule.caseSensitive) (pieces rule) u ∧
    u <+: text.drop body.start ∧ body.stop = body.start + u.length
  closes : Closes rule.wholeWord (Piece.endsInNumber (pieces rule)) text body.stop

variable {rule : Rule} {text : List Char} {pos : Nat} {out : Captures}

/-- The group of the match and what comes after it. -/
theorem exists_runs_body {body : Regex} {L : List Char → Prop} (h : body.Reads L)
    {wholeWord number : Bool} :
    (∃ stop, Runs text stop out pos
      (.run (.group bodyGroup body) :: (afterRegex wholeWord number).map .run) .empty) ↔
    ∃ u, L u ∧ u <+: text.drop pos ∧ Closes wholeWord number text (pos + u.length) ∧
      Captures.ofBody ⟨pos, pos + u.length⟩ = out := by
  have hafter : Goal.Unmoved ((afterRegex wholeWord number).map Goal.run) := by
    cases wholeWord <;> cases number <;> rfl
  simp only [Runs.group_iff, h.runs_iff (Goal.unmoved_leave hafter), Runs.leave_iff]
  constructor
  · rintro ⟨stop, u, hu, hp, hrun⟩
    obtain ⟨hcloses, hout⟩ := exists_runs_after.mp ⟨stop, hrun⟩
    exact ⟨u, hu, hp, hcloses, hout⟩
  · rintro ⟨u, hu, hp, hcloses, hout⟩
    obtain ⟨stop, hrun⟩ := exists_runs_after.mpr ⟨hcloses, hout⟩
    exact ⟨stop, u, hu, hp, hrun⟩

/-- The choice before a body of a whole word. -/
theorem runs_edgeOr_start {set : CharSet} {stop : Nat} {gs : List Goal} {caps : Captures}
    (hgs : Goal.Unmoved gs) :
    Runs text stop out pos (.run (edgeOr .textStart set) :: gs) caps ↔
      (charBefore text pos = none ∧ Runs text stop out pos gs caps) ∨
        ∃ c, text[pos]? = some c ∧ set.holds c = false ∧ Runs text stop out (pos + 1) gs caps := by
  simp only [edgeOr, Runs.alt_iff, Runs.assert_iff, Runs.set_iff hgs, Assertion.holds,
    Option.isNone_iff_eq_none, CharSet.holds_complement, Bool.not_eq_true']

theorem charBefore_eq_none_iff (hpos : pos ≤ text.length) :
    charBefore text pos = none ↔ pos = 0 := by
  rw [charBefore]
  split
  · rename_i h
    exact iff_of_true rfl h
  · rename_i h
    rw [List.getElem?_eq_none_iff]
    omega

/-- What is read before a body is what the rule asks for there. -/
theorem exists_runs_before (hpos : pos ≤ text.length) {wholeWord : Bool} {r : Regex}
    {rs : List Regex} :
    (∃ stop, Runs text stop out pos [.run (Regex.seqs (beforeRegex wholeWord ++ r :: rs))] .empty) ↔
      ∃ start, Opens wholeWord text pos start ∧
        ∃ stop, Runs text stop out start [.run (Regex.seqs (r :: rs))] .empty := by
  cases wholeWord with
  | false => simp [beforeRegex, Opens]
  | true =>
      have hseq : Regex.seqs (beforeRegex true ++ r :: rs) =
          .seq (edgeOr .textStart .asciiWord) (Regex.seqs (r :: rs)) := rfl
      simp only [hseq, Runs.seq_iff, runs_edgeOr_start (Goal.unmoved_run Goal.unmoved_nil),
        charBefore_eq_none_iff hpos, Opens]
      constructor
      · rintro ⟨stop, ⟨rfl, h⟩ | ⟨c, hc, hs, h⟩⟩
        · exact ⟨0, .inl ⟨rfl, rfl⟩, stop, h⟩
        · exact ⟨pos + 1, .inr ⟨rfl, c, hc, hs⟩, stop, h⟩
      · rintro ⟨_, ⟨rfl, rfl⟩ | ⟨rfl, c, hc, hs⟩, stop, h⟩
        · exact ⟨stop, .inl ⟨rfl, h⟩⟩
        · exact ⟨stop, .inr ⟨c, hc, hs, h⟩⟩

/-- The group of a match of a literal rule. -/
def group (rule : Rule) : Regex :=
  .group bodyGroup (Regex.seqs ((pieces rule).map (Piece.regex !rule.caseSensitive)))

/-- What comes after it. -/
def afterGroup (rule : Rule) : List Regex :=
  afterRegex rule.wholeWord (Piece.endsInNumber (pieces rule))

theorem regex_ofLiteral (rule : Rule) : (ofLiteral rule).regex =
    Regex.seqs (beforeRegex rule.wholeWord ++ group rule :: afterGroup rule) := by
  simp [ofLiteral, wrapRegex, pieces, group, afterGroup]

/-- The runs of the group and of what comes after it, from where a body may begin. -/
theorem exists_runs_group {start : Nat} (hopens : Opens rule.wholeWord text pos start) :
    (∃ stop, Runs text stop out start [.run (Regex.seqs (group rule :: afterGroup rule))] .empty) ↔
      ∃ body, Fits rule text pos body ∧ body.start = start ∧ Captures.ofBody body = out := by
  have hseqs (stop : Nat) :
      Runs text stop out start [.run (Regex.seqs (group rule :: afterGroup rule))] .empty ↔
        Runs text stop out start (.run (group rule) :: (afterGroup rule).map .run) .empty := by
    rw [afterGroup]
    cases rule.wholeWord <;> cases Piece.endsInNumber (pieces rule)
    · rfl
    · exact Runs.seq_iff
    · exact Runs.seq_iff
    · exact Runs.seq_iff
  simp only [hseqs]
  refine (exists_runs_body (Piece.reads_all (!rule.caseSensitive) (pieces rule))).trans ?_
  constructor
  · rintro ⟨u, hu, hp, hcloses, hout⟩
    exact ⟨⟨start, start + u.length⟩, ⟨hopens, ⟨u, hu, hp, rfl⟩, hcloses⟩, rfl, hout⟩
  · rintro ⟨⟨_, stop⟩, ⟨-, ⟨u, hu, hp, hstop⟩, hcloses⟩, rfl, hout⟩
    dsimp only at hp hstop
    exact ⟨u, hu, hp, hstop ▸ hcloses, hstop ▸ hout⟩

/-- The runs of the expression of a literal rule. -/
theorem exists_runs_ofLiteral (hpos : pos ≤ text.length) :
    (∃ stop, Runs text stop out pos [.run (ofLiteral rule).regex] .empty) ↔
      ∃ body, Fits rule text pos body ∧ Captures.ofBody body = out := by
  rw [regex_ofLiteral, exists_runs_before hpos]
  constructor
  · rintro ⟨start, hopens, hrun⟩
    obtain ⟨body, hfits, -, hout⟩ := (exists_runs_group hopens).mp hrun
    exact ⟨body, hfits, hout⟩
  · rintro ⟨body, hfits, hout⟩
    exact ⟨body.start, hfits.opens, (exists_runs_group hfits.opens).mpr ⟨body, hfits, rfl, hout⟩⟩

/-- **The body that a literal rule finds at a position fits there.** -/
theorem fits_of_bodyAt {body : Span} (h : (ofLiteral rule).BodyAt text pos body) :
    Fits rule text pos body := by
  obtain ⟨hpos, found, hfound, hspan⟩ := h
  obtain ⟨body', hfits, hout⟩ :=
    (exists_runs_ofLiteral hpos).mp ⟨_, Regex.runs_of_preferred hfound⟩
  rw [← hout] at hspan
  cases hspan
  exact hfits

/-- **A literal rule finds a body wherever one fits.** -/
theorem exists_bodyAt_of_fits {body : Span} (hpos : pos ≤ text.length)
    (h : Fits rule text pos body) : ∃ body', (ofLiteral rule).BodyAt text pos body' := by
  obtain ⟨stop, hrun⟩ := (exists_runs_ofLiteral hpos).mpr ⟨body, h, rfl⟩
  obtain ⟨found, hfound⟩ := Regex.exists_preferred_of_runs hrun
  obtain ⟨body', -, hout⟩ := (exists_runs_ofLiteral hpos).mp ⟨_, Regex.runs_of_preferred hfound⟩
  exact ⟨body', hpos, found, hfound, by rw [← hout]; rfl⟩

/-- Where a literal rule finds no body there is no match at all. -/
theorem preferred_eq_none (hpos : pos ≤ text.length) (h : ∀ body, ¬Fits rule text pos body) :
    (ofLiteral rule).regex.preferred text pos = none := by
  cases hfound : (ofLiteral rule).regex.preferred text pos with
  | none => rfl
  | some found =>
      obtain ⟨body, hfits, -⟩ :=
        (exists_runs_ofLiteral hpos).mp ⟨_, Regex.runs_of_preferred hfound⟩
      exact absurd hfits (h body)

end Matcher

end TextMasking
