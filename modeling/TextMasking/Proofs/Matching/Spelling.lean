import TextMasking.Proofs.Matching.Gaps

/-! # Literal patterns in their own text

The text of a pattern is cut into pieces, and separators inside of its numbers are forgotten: the
expression of a number accepts at most one between two digits.  So the text of a pattern is found by
its own rule if no two separators stand in a row between two of its digits, and not at all
otherwise (`Matcher.scan_pattern`).

A text that the pieces accept has at least the digits of the pattern.  If it has no more, its
numbers begin and end with the same digits as those of the pattern (`Spells`), so a part of the
pattern's text that is accepted is all of it (`Spells.eq_whole`). -/

namespace TextMasking

open Unicode

/-! ### Spellings of pieces -/

namespace Piece

open Number

/-- The digits of a piece. -/
def size : Piece → Nat
  | .char _ => 0
  | .number n => n.size

/-- The digits of pieces. -/
def totalSize : List Piece → Nat
  | [] => 0
  | p :: rest => p.size + totalSize rest

/-- A piece as it can be cut from a pattern: digits belong to numbers. -/
def Readable : Piece → Prop
  | .char c => c.isDigit = false
  | .number n => n.Readable

/-- A text spells pieces with just their digits: it has a stretch for each number, and a character
that is no digit for each other piece. -/
inductive Spells : List Piece → List Char → Prop
  | nil : Spells [] []
  | char (c d : Char) {pieces : List Piece} {u : List Char} (hd : d.isDigit = false)
      (h : Spells pieces u) : Spells (.char c :: pieces) (d :: u)
  | number (n : Number) {v : List Char} {pieces : List Piece} {u : List Char} (hv : Written v)
      (hcount : v.countP Char.isDigit = n.size) (h : Spells pieces u) :
      Spells (.number n :: pieces) (v ++ u)

namespace Spells

variable {pieces : List Piece} {u v : List Char}

theorem countP_eq (h : Spells pieces u) : u.countP Char.isDigit = totalSize pieces := by
  induction h with
  | nil => rfl
  | char c d hd h ih => simpa [hd, totalSize, size] using ih
  | number n hv hcount h ih => rw [List.countP_append, hcount, ih]; rfl

/-- Two spellings at the same place are the same. -/
theorem eq_of_append_eq (hu : Spells pieces u) (hv : Spells pieces v) {z w : List Char}
    (h : u ++ z = v ++ w) : u = v := by
  induction hu generalizing v with
  | nil =>
      cases hv
      rfl
  | char c d hd hu ih =>
      cases hv with
      | char _ e he hv =>
          obtain ⟨rfl, hrest⟩ := List.cons.inj h
          rw [ih hv hrest]
  | number n hx hcount hu ih =>
      cases hv with
      | number _ hy hcount' hv =>
          rw [List.append_assoc, List.append_assoc] at h
          obtain rfl := hx.eq_of_append_eq hy (hcount.trans hcount'.symm) h
          rw [ih hv (List.append_cancel_left h)]

/-- The first digits of two spellings stand at the same place. -/
theorem length_takeWhile (hu : Spells pieces u) (hv : Spells pieces v) :
    (u.takeWhile (!·.isDigit)).length = (v.takeWhile (!·.isDigit)).length := by
  induction hu generalizing v with
  | nil =>
      cases hv
      rfl
  | char c d hd hu ih =>
      cases hv with
      | char _ e he hv => simp [hd, he, ih hv]
  | number n hx hcount hu ih =>
      cases hv with
      | number _ hy hcount' hv =>
          obtain ⟨d, x, rfl, hd⟩ := hx.first
          obtain ⟨e, y, rfl, he⟩ := hy.first
          simp [hd, he]

/-- **A part of a spelling that spells the same pieces is all of it.** -/
theorem eq_whole (hu : Spells pieces u) (hv : Spells pieces v) (h : u <:+: v) : u = v := by
  obtain ⟨a, b, rfl⟩ := h
  have hcount : (a ++ u ++ b).countP Char.isDigit = u.countP Char.isDigit := by
    rw [hv.countP_eq, hu.countP_eq]
  rw [List.countP_append, List.countP_append] at hcount
  have ha : ∀ c ∈ a, (!c.isDigit) = true := by
    intro c hc
    have := List.countP_eq_zero.mp (show a.countP Char.isDigit = 0 by omega) c hc
    simpa using this
  have hlead := hu.length_takeWhile hv
  have hle : (u.takeWhile (!·.isDigit)).length ≤ ((u ++ b).takeWhile (!·.isDigit)).length := by
    rw [List.takeWhile_append]
    split
    · rename_i hall
      rw [hall, List.length_append]
      omega
    · exact Nat.le_refl _
  rw [List.append_assoc, List.takeWhile_append_of_pos ha, List.length_append] at hlead
  obtain rfl := List.eq_nil_of_length_eq_zero (show a.length = 0 by omega)
  exact hu.eq_of_append_eq hv (z := b) (w := []) (by simp)

end Spells

theorem caseVariants_of_isDigit {d : Char} (h : d.isDigit = true) : caseVariants d = [] := by
  have hall : ("0123456789".toList.all fun d => (caseVariants d).isEmpty) = true := by
    decide
  exact List.isEmpty_iff.mp (List.all_eq_true.mp hall d (mem_digits_of_isDigit h))

theorem StandsFor.eq_of_caseVariants {fold : Bool} {c d : Char} (h : StandsFor fold c d)
    (hd : caseVariants d = []) : d = c := by
  cases fold <;> simpa [StandsFor, CharSet.holds, hd] using h

/-- A character that is no digit stands for none, whatever the case. -/
theorem StandsFor.not_isDigit {fold : Bool} {c d : Char} (h : StandsFor fold c d)
    (hc : c.isDigit = false) : d.isDigit = false := by
  cases hd : d.isDigit with
  | false => rfl
  | true =>
      rw [← h.eq_of_caseVariants (caseVariants_of_isDigit hd), hd] at hc
      cases hc

theorem standsFor_self (fold : Bool) (c : Char) : StandsFor fold c c := by
  cases fold with
  | false => simp [StandsFor]
  | true => exact CharSet.holds_folded_char c

/-- What pieces accept has at least their digits, and spells them if it has no more. -/
theorem spells_of_allAccept {fold : Bool} {pieces : List Piece} (hp : ∀ p ∈ pieces, p.Readable)
    {u : List Char} (h : AllAccept fold pieces u) :
    totalSize pieces ≤ u.countP Char.isDigit ∧
      (u.countP Char.isDigit ≤ totalSize pieces → Spells pieces u) := by
  induction pieces generalizing u with
  | nil =>
      obtain rfl : u = [] := h
      exact ⟨Nat.le_refl _, fun _ => .nil⟩
  | cons p pieces ih =>
      obtain ⟨hread, hp⟩ := List.forall_mem_cons.mp hp
      obtain ⟨x, y, hx, hy, rfl⟩ := h
      obtain ⟨hle, hspells⟩ := ih hp hy
      rw [totalSize, List.countP_append]
      cases p with
      | char c =>
          obtain ⟨d, rfl, hd⟩ := hx
          have hdigit : d.isDigit = false := hd.not_isDigit hread
          have hzero : [d].countP Char.isDigit = 0 := by simp [hdigit]
          rw [hzero, size, Nat.zero_add, Nat.zero_add]
          exact ⟨hle, fun h => .char c d hdigit (hspells h)⟩
      | number n =>
          obtain ⟨hw, hsize, -⟩ := Accepts.written hread hx
          rw [size]
          refine ⟨by omega, fun h => ?_⟩
          exact .number n hw (by omega) (hspells (by omega))

/-! ### The pieces of a pattern -/

theorem ofPattern_cons_digit {c : Char} (rest : List Char) (hc : c.isDigit = true) :
    ∃ after, c :: rest = stretch (c :: rest) ++ after ∧
      ofPattern (c :: rest) = .number (of (stretch (c :: rest))) :: ofPattern after := by
  obtain ⟨after, hafter⟩ := stretch_isPrefix (c :: rest)
  have hw := written_stretch rest hc
  refine ⟨after, hafter.symm, ?_⟩
  obtain ⟨d, more, hcons, -⟩ := hw.first
  have hdrop : rest.drop ((stretch (c :: rest)).length - 1) = after := by
    rw [hcons] at hafter ⊢
    cases hafter
    simp
  rw [ofPattern, if_pos hc, Number.read]
  dsimp only
  rw [hdrop, hw.of_eq]

theorem ofPattern_cons_char {c : Char} {rest : List Char} (hc : c.isDigit = false) :
    ofPattern (c :: rest) = .char c :: ofPattern rest := by
  rw [ofPattern, if_neg (by rw [hc]; exact Bool.false_ne_true)]

/-- A pattern is its first character and the rest, or the stretch of a number and the rest. -/
theorem pattern_induction {P : List Char → Prop} (nil : P [])
    (char : ∀ c rest, c.isDigit = false → P rest → P (c :: rest))
    (number : ∀ c rest after, c.isDigit = true → c :: rest = stretch (c :: rest) ++ after →
      ofPattern (c :: rest) = .number (of (stretch (c :: rest))) :: ofPattern after → P after →
        P (c :: rest)) (cs : List Char) : P cs := by
  obtain ⟨n, hn⟩ : ∃ n, cs.length ≤ n := ⟨_, Nat.le_refl _⟩
  induction n generalizing cs with
  | zero =>
      obtain rfl := List.eq_nil_of_length_eq_zero (Nat.le_zero.mp hn)
      exact nil
  | succ n ih =>
      rcases cs with _ | ⟨c, rest⟩
      · exact nil
      · rw [List.length_cons] at hn
        cases hc : c.isDigit with
        | false => exact char c rest hc (ih rest (by omega))
        | true =>
            obtain ⟨after, hcut, hpieces⟩ := ofPattern_cons_digit rest hc
            refine number c rest after hc hcut hpieces (ih after ?_)
            obtain ⟨d, more, hcons, -⟩ := (written_stretch rest hc).first
            have hlen := congrArg List.length hcut
            rw [hcons, List.length_append, List.length_cons, List.length_cons] at hlen
            omega

theorem spells_ofPattern (cs : List Char) :
    Spells (ofPattern cs) cs ∧ ∀ p ∈ ofPattern cs, p.Readable := by
  induction cs using pattern_induction with
  | nil =>
      rw [ofPattern]
      exact ⟨.nil, by simp⟩
  | char c rest hc ih =>
      rw [ofPattern_cons_char hc]
      exact ⟨.char c c hc ih.1, List.forall_mem_cons.mpr ⟨hc, ih.2⟩⟩
  | number c rest after hc hcut hpieces ih =>
      have hw := written_stretch rest hc
      rw [hpieces]
      refine ⟨?_, List.forall_mem_cons.mpr ⟨hw.readable, ih.2⟩⟩
      have hspells : Spells (.number (of (stretch (c :: rest))) :: ofPattern after)
          (stretch (c :: rest) ++ after) := .number _ hw hw.size_of.symm ih.1
      rwa [← hcut] at hspells

/-- A wide gap of a pattern lies in the stretch at its start or in the rest. -/
theorem wideGap_cases {c : Char} {rest after : List Char}
    (hcut : c :: rest = stretch (c :: rest) ++ after) (hc : c.isDigit = true)
    (h : WideGap (c :: rest)) : WideGap (stretch (c :: rest)) ∨ WideGap after := by
  obtain ⟨before, d, gap, e, tail, heq, hd, he, hlen, hsep⟩ := h
  have hw := written_stretch rest hc
  have happ : stretch (c :: rest) ++ after = before ++ d :: (gap ++ e :: tail) := by
    rw [← hcut, heq]
  rcases List.append_eq_append_iff.mp happ with ⟨b, rfl, hafter⟩ | ⟨b, hstretch, -⟩
  · exact .inr ⟨b, d, gap, e, tail, hafter, hd, he, hlen, hsep⟩
  · -- the stretch goes on to the digit after the gap
    have hpre : before ++ d :: (gap ++ [e]) <+: stretch (c :: rest) := by
      refine prefix_stretch ⟨tail, by rw [heq]; simp⟩ ?_ ⟨before ++ d :: gap, e, by simp, he⟩
      refine List.forall_mem_append.mpr
        ⟨fun a ha => hw.chars a (hstretch ▸ List.mem_append_left _ ha), ?_⟩
      refine List.forall_mem_cons.mpr ⟨.inl hd, List.forall_mem_append.mpr
        ⟨fun a ha => .inr (hsep a ha), List.forall_mem_singleton.mpr (.inl he)⟩⟩
    have hwide : WideGap (before ++ d :: (gap ++ [e])) :=
      ⟨before, d, gap, e, [], rfl, hd, he, hlen, hsep⟩
    exact .inl (hwide.within hpre.isInfix)

/-- **The pieces of a pattern accept its text unless there is a wide gap in it.** -/
theorem allAccept_ofPattern_iff (fold : Bool) (cs : List Char) :
    AllAccept fold (ofPattern cs) cs ↔ ¬WideGap cs := by
  induction cs using pattern_induction with
  | nil =>
      rw [ofPattern]
      refine iff_of_true rfl ?_
      rintro ⟨before, d, gap, e, tail, heq, -⟩
      simp at heq
  | char c rest hc ih =>
      have hgap : WideGap (c :: rest) ↔ WideGap rest := by
        constructor
        · rintro ⟨_ | ⟨b, before⟩, d, gap, e, tail, heq, hd, hwide⟩
          · cases heq
            rw [hc] at hd
            cases hd
          · cases heq
            exact ⟨before, d, gap, e, tail, rfl, hd, hwide⟩
        · exact fun h => h.within (List.suffix_cons c rest).isInfix
      rw [ofPattern_cons_char hc, hgap, ← ih]
      constructor
      · rintro ⟨_, y, ⟨d, rfl, -⟩, hy, heq⟩
        cases heq
        exact hy
      · intro h
        exact ⟨[c], rest, ⟨c, rfl, standsFor_self fold c⟩, h, rfl⟩
  | number c rest after hc hcut hpieces ih =>
      have hw := written_stretch rest hc
      obtain ⟨hspells, hread⟩ := spells_ofPattern (c :: rest)
      rw [hpieces] at hspells hread ⊢
      constructor
      · rintro ⟨x, y, hx, hy, heq⟩
        obtain ⟨hn, hps⟩ := List.forall_mem_cons.mp hread
        obtain ⟨hxw, hle, hnot⟩ := Accepts.written hn hx
        obtain ⟨hle', -⟩ := spells_of_allAccept hps hy
        have hcount := hspells.countP_eq
        rw [totalSize, size] at hcount
        have hsum : (c :: rest).countP Char.isDigit =
            x.countP Char.isDigit + y.countP Char.isDigit := by
          rw [← List.countP_append, ← heq]
        obtain rfl : x = stretch (c :: rest) :=
          hxw.eq_of_append_eq hw (by rw [← hw.size_of]; omega) (heq.symm.trans hcut)
        obtain rfl : after = y := List.append_cancel_left (hcut.symm.trans heq)
        exact fun hwide => (wideGap_cases hcut hc hwide).elim hnot (ih.mp hy)
      · intro hnot
        refine ⟨stretch (c :: rest), after, hw.accepts_self fun h => hnot ?_,
          ih.mpr fun h => hnot ?_, hcut⟩
        · exact h.within (stretch_isPrefix _).isInfix
        · exact h.within ⟨stretch (c :: rest), [], by rw [List.append_nil, ← hcut]⟩

/-- **What the pieces of a pattern accept in its text is the whole text.** -/
theorem eq_of_allAccept {fold : Bool} {cs u : List Char}
    (h : AllAccept fold (ofPattern cs) u) (hu : u <:+: cs) : u = cs := by
  obtain ⟨hspells, hread⟩ := spells_ofPattern cs
  have hle : u.countP Char.isDigit ≤ cs.countP Char.isDigit := hu.sublist.countP_le
  rw [hspells.countP_eq] at hle
  exact ((spells_of_allAccept hread h).2 hle).eq_whole hspells hu

end Piece

/-! ### A rule in the text of its pattern -/

namespace Matcher

open Number

variable {rule : Rule}

/-- What a literal rule fits in the text of its pattern is the whole text. -/
theorem Fits.eq_whole {pos : Nat} {body : Span} (hne : rule.pattern.toList ≠ [])
    (h : Fits rule rule.pattern.toList pos body) :
    pos = 0 ∧ body = ⟨0, rule.pattern.toList.length⟩ ∧ ¬WideGap rule.pattern.toList := by
  obtain ⟨u, hu, hp, hstop⟩ := h.accepts
  obtain rfl := Piece.eq_of_allAccept hu
    (hp.isInfix.trans (List.drop_suffix _ _).isInfix)
  have hlen := hp.length_le
  have hpos := List.length_pos_of_ne_nil hne
  rw [List.length_drop] at hlen
  have hstart : body.start = 0 := by omega
  refine ⟨?_, ?_, (Piece.allAccept_ofPattern_iff _ _).mp hu⟩
  · have hopens := h.opens
    rw [hstart] at hopens
    cases hw : rule.wholeWord with
    | false =>
        rw [hw] at hopens
        exact hopens.symm
    | true =>
        rw [hw] at hopens
        exact hopens.elim And.left fun h => absurd h.1 (Nat.zero_ne_add_one pos)
  · obtain ⟨start, stop⟩ := body
    dsimp only at hstart hstop
    rw [hstop, hstart, Nat.zero_add]

/-- A literal rule fits the text of its pattern unless there is a wide gap in it. -/
theorem fits_pattern (h : ¬WideGap rule.pattern.toList) :
    Fits rule rule.pattern.toList 0 ⟨0, rule.pattern.toList.length⟩ := by
  have hclear (s : CharSet) : Clear s rule.pattern.toList rule.pattern.toList.length := by
    intro c hc
    rw [List.getElem?_eq_none (Nat.le_refl _)] at hc
    cases hc
  refine ⟨?_, ⟨_, (Piece.allAccept_ofPattern_iff _ _).mpr h, List.prefix_rfl,
    (Nat.zero_add _).symm⟩, ?_⟩
  · cases rule.wholeWord with
    | false => rfl
    | true => exact .inl ⟨rfl, rfl⟩
  · cases rule.wholeWord <;> cases Piece.endsInNumber (pieces rule)
    · trivial
    · exact .inl (hclear _)
    · exact hclear _
    · exact .inl (hclear _)

theorem find_pattern_eq_none (hne : rule.pattern.toList ≠ []) {start : Nat}
    (hs : start ≤ rule.pattern.toList.length) (h : 0 < start ∨ WideGap rule.pattern.toList) :
    (ofLiteral rule).regex.find rule.pattern.toList start = none := by
  have hspec := Regex.find_spec (r := (ofLiteral rule).regex) hs
  cases hf : (ofLiteral rule).regex.find rule.pattern.toList start with
  | none => rfl
  | some found =>
      rw [hf] at hspec
      obtain ⟨hle, hlen, hfound, -⟩ := hspec
      rw [preferred_eq_none hlen fun body hfits => ?_] at hfound
      · cases hfound
      · obtain ⟨hzero, -, hnot⟩ := hfits.eq_whole hne
        exact h.elim (fun _ => by omega) hnot

theorem exists_find_pattern (hne : rule.pattern.toList ≠ []) (h : ¬WideGap rule.pattern.toList) :
    ∃ found, (ofLiteral rule).regex.find rule.pattern.toList 0 = some found ∧ found.start = 0 ∧
      found.caps.span? bodyGroup = some ⟨0, rule.pattern.toList.length⟩ := by
  obtain ⟨body, hbody⟩ := exists_bodyAt_of_fits (Nat.zero_le _) (fits_pattern h)
  obtain ⟨-, rfl, -⟩ := (fits_of_bodyAt hbody).eq_whole hne
  obtain ⟨-, found, hfound, hspan⟩ := hbody
  exact ⟨found, by rw [Regex.find_eq, hfound, Option.some_or], Regex.start_of_preferred hfound,
    hspan⟩

section

variable {t : ScanText} (hwhole : t.whole = rule.pattern.toList)
  (hhi : t.hi = rule.pattern.toList.length) (hne : rule.pattern.toList ≠ [])

include hwhole hhi hne

/-- Behind the whole text nothing is found. -/
theorem scanFrom_pattern_end (limit start count : Nat) :
    (ofLiteral rule).scanFrom t limit start rule.pattern.toList.length count = .ok [] := by
  have hpos := List.length_pos_of_ne_nil hne
  have hlater (start : Nat) (h : 0 < start ∨ WideGap rule.pattern.toList) :
      (ofLiteral rule).scanFrom t limit start rule.pattern.toList.length count = .ok [] := by
    rw [scanFrom_eq, hwhole]
    split
    · rename_i hs
      rw [find_pattern_eq_none hne hs h]
    · rfl
  by_cases hstart : 0 < start ∨ WideGap rule.pattern.toList
  · exact hlater start hstart
  · -- the search goes back to the first character, and drops what it finds there again
    obtain ⟨hzero, hgap⟩ := not_or.mp hstart
    obtain rfl : start = 0 := by omega
    obtain ⟨found, hfind, hfirst, hspan⟩ := exists_find_pattern hne hgap
    rw [scanFrom_eq, hwhole, if_pos (Nat.zero_le _), hfind]
    dsimp only
    rw [hspan]
    dsimp only
    rw [if_neg (by omega), if_neg (by omega), if_neg (by omega), hfirst]
    exact hlater 1 (.inl Nat.one_pos)

end

theorem pattern_ne_nil_of_compile {m : Matcher} (h : compile rule = .ok m) :
    rule.pattern.toList ≠ [] := by
  intro hnil
  rw [compile, Text.blank, hnil] at h
  cases h

/-- **A literal rule finds the text of its pattern once and as a whole, unless two separators stand
in a row between two of its digits: then it does not find it.** -/
theorem scan_pattern {m : Matcher} (h : compile rule = .ok m) (hlit : rule.isRegex = false)
    (options : Options) (hmax : 0 < options.maxMatches) :
    (¬WideGap rule.pattern.toList → m.scan "" rule.pattern "" options = .ok [{
      start := 0
      stop := Text.byteLength rule.pattern.toList
      matched := rule.pattern
      replacement := rule.replacement
      pattern := rule.pattern }]) ∧
    (WideGap rule.pattern.toList → m.scan "" rule.pattern "" options = .ok []) := by
  have hne := pattern_ne_nil_of_compile h
  have hpos := List.length_pos_of_ne_nil hne
  obtain rfl := ofLiteral_of_compile h hlit
  have hwhole : (ScanText.between "".toList rule.pattern.toList "".toList).whole =
      rule.pattern.toList := by simp [ScanText.between]
  have hhi : (ScanText.between "".toList rule.pattern.toList "".toList).hi =
      rule.pattern.toList.length := by simp [ScanText.between]
  have hlo : (ScanText.between "".toList rule.pattern.toList "".toList).lo = 0 := rfl
  rw [scan]
  generalize ScanText.between "".toList rule.pattern.toList "".toList = t at hwhole hhi hlo
  have hresume : (ofLiteral rule).resume 0 = 0 := by rw [resume_eq, Nat.zero_sub]
  rw [spans, hlo, hresume, scanFrom_eq, hwhole, if_pos (Nat.zero_le _)]
  constructor
  · intro hgap
    obtain ⟨found, hfind, -, hspan⟩ := exists_find_pattern hne hgap
    rw [hfind]
    dsimp only
    rw [hspan]
    dsimp only
    rw [if_neg (by omega), if_neg (by omega), if_pos (by omega), if_neg (by omega),
      scanFrom_pattern_end hwhole hhi hne]
    simp [Except.map, ScanText.byteOffset, hlo, hwhole, ScanText.slice, Text.byteLength, ofLiteral]
  · intro hgap
    rw [find_pattern_eq_none hne (Nat.zero_le _) (.inr hgap)]
    rfl

/-- A number with a fraction inside of a whole word's pattern. -/
theorem scan_pattern_amount :
    let rule : Rule := ⟨"EUR 1 234,50 (net)", "[AMOUNT]", true, false, false⟩
    ¬WideGap rule.pattern.toList ∧ (ofLiteral rule).scan "" rule.pattern "" .default =
      .ok [⟨0, 18, "EUR 1 234,50 (net)", "[AMOUNT]", "EUR 1 234,50 (net)"⟩] :=
  ⟨by decide, (scan_pattern
    (show compile ⟨"EUR 1 234,50 (net)", "[AMOUNT]", true, false, false⟩ = .ok _ from rfl)
    rfl .default (by decide)).1 (by decide)⟩

/-- A date with a comma and a space before the year is not found in itself. -/
theorem not_scan_pattern : ¬∀ (rule : Rule) (m : Matcher), compile rule = .ok m →
    rule.isRegex = false → ∃ x, m.scan "" rule.pattern "" .default = .ok [x] ∧
      x.matched = rule.pattern := by
  intro h
  have hscan : (ofLiteral (.literal "May 5, 2024" "X")).scan "" "May 5, 2024" "" .default =
      .ok [] := by decide +kernel
  obtain ⟨x, hx, -⟩ := h (.literal "May 5, 2024" "X") _ rfl rfl
  rw [show (Rule.literal "May 5, 2024" "X").pattern = "May 5, 2024" from rfl, hscan] at hx
  cases hx

end Matcher

end TextMasking
