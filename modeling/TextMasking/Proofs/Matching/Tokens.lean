import TextMasking.Proofs.Matching.Grammar

/-! # Numbers as tokens

A number is read in one walk along the characters (`Number.Walk`), which keeps the groups that are
closed, the gaps between them, the group that is open, and the separators behind it; these belong to
the number only if another digit follows.  The walk sees the groups of the longest stretch of digits
and separators from a digit to a digit (`Number.Walk.Sees`), so it reads the number of that stretch
(`Number.parse_eq_read`).

There is only one way to cut such a stretch into groups and gaps (`DigitGroups.Proper.ofList_text`),
and whether the number has a fraction is told by them (`DigitGroups.HasFraction`).

A pattern is read from one token to the next (`Piece.walk`); every character is in one piece
(`Piece.Consumes`). -/

namespace TextMasking

open Unicode

/-! ### Groups and gaps -/

namespace DigitGroups

/-- A gap of separators with digits behind it, none of them empty. -/
structure IsGap (g : List Char × List Char) : Prop where
  gap_ne_nil : g.1 ≠ []
  gap : ∀ c ∈ g.1, isSeparator c = true
  digits_ne_nil : g.2 ≠ []
  digits : ∀ c ∈ g.2, c.isDigit = true

/-- Digits, and behind each gap more of them. -/
structure Proper (groups : DigitGroups) : Prop where
  first_ne_nil : groups.first ≠ []
  first : ∀ c ∈ groups.first, c.isDigit = true
  later : ∀ g ∈ groups.later, IsGap g

/-- The last gap is a single decimal mark with the digits of the fraction behind it; there are not
three of them, or the other mark stands in an earlier gap. -/
def HasFraction (groups : DigitGroups) (digits : List Char) : Prop :=
  ∃ earlier mark, groups.later = earlier ++ [([mark], digits)] ∧ isDecimalMark mark = true ∧
    (digits.length ≠ 3 ∨ ∃ g ∈ earlier, ∃ c ∈ g.1, isDecimalMark c = true ∧ c ≠ mark)

variable {groups : DigitGroups}

theorem endsInFraction_iff :
    groups.endsInFraction = true ↔ ∃ digits, groups.HasFraction digits := by
  obtain ⟨first, later⟩ := groups
  rcases List.eq_nil_or_concat later with rfl | ⟨earlier, ⟨gap, digits⟩, rfl⟩
  · simp [endsInFraction, HasFraction]
  · rcases gap with _ | ⟨mark, _ | ⟨c, gap⟩⟩
    · simp [endsInFraction, HasFraction]
    · simp [endsInFraction, HasFraction]
    · simp [endsInFraction, HasFraction]

/-- The number has a fraction just where the groups tell so. -/
theorem fraction_eq_some_iff {digits : List Char} :
    groups.toNumber.fraction = some digits ↔ groups.HasFraction digits := by
  rw [toNumber]
  split
  · rename_i h
    obtain ⟨digits', earlier, mark, hlater, hmark, hlen⟩ := endsInFraction_iff.mp h
    simp only [hlater, List.getLast?_concat, Option.map_some, Option.some.injEq]
    constructor
    · rintro rfl
      exact ⟨earlier, mark, hlater, hmark, hlen⟩
    · rintro ⟨earlier', mark', hlater', -⟩
      have hlast := congrArg List.getLast? (hlater.symm.trans hlater')
      rw [List.getLast?_concat, List.getLast?_concat] at hlast
      exact (Prod.mk.inj (Option.some.inj hlast)).2
  · rename_i h
    exact iff_of_false (Option.some_ne_none digits).symm fun hf =>
      h (endsInFraction_iff.mpr ⟨digits, hf⟩)

theorem ofList_digits_append {digits : List Char} (h : ∀ c ∈ digits, c.isDigit = true)
    (cs : List Char) :
    ofList (digits ++ cs) = ⟨digits ++ (ofList cs).first, (ofList cs).later⟩ := by
  induction digits with
  | nil => rfl
  | cons d rest ih =>
      obtain ⟨hd, hrest⟩ := List.forall_mem_cons.mp h
      rw [List.cons_append, ofList_digit hd, ih hrest]
      rfl

/-- A gap before digits is one entry. -/
theorem ofList_gap_append {gap cs : List Char} (hne : gap ≠ [])
    (hgap : ∀ c ∈ gap, isSeparator c = true) (hcs : (ofList cs).first ≠ []) :
    ofList (gap ++ cs) = ⟨[], (gap, (ofList cs).first) :: (ofList cs).later⟩ := by
  induction gap with
  | nil => exact absurd rfl hne
  | cons c gap ih =>
      obtain ⟨hc, hgap⟩ := List.forall_mem_cons.mp hgap
      rw [List.cons_append, ofList_gap (not_isDigit_of_isSeparator hc)]
      cases gap with
      | nil =>
          rw [List.nil_append]
          rcases consGap_cases c (ofList cs) with ⟨gap, digits, more, e, -⟩ | e
          · rw [e] at hcs
            exact absurd rfl hcs
          · exact e
      | cons c' gap =>
          rw [ih (List.cons_ne_nil _ _) hgap]
          rfl

/-- **A text has one cut into groups and gaps.** -/
theorem Proper.ofList_text (h : groups.Proper) : ofList groups.text = groups := by
  obtain ⟨first, later⟩ := groups
  induction later generalizing first with
  | nil =>
      rw [text]
      simpa using ofList_digits h.first
  | cons g later ih =>
      obtain ⟨hg, hlater⟩ := List.forall_mem_cons.mp h.later
      -- the text behind the first gap is that of groups of its own
      have hmore : ofList (text ⟨g.2, later⟩) = ⟨g.2, later⟩ :=
        ih g.2 ⟨hg.digits_ne_nil, hg.digits, hlater⟩
      have htext : text ⟨first, g :: later⟩ = first ++ (g.1 ++ text ⟨g.2, later⟩) := by
        simp [text]
      rw [htext, ofList_digits_append h.first,
        ofList_gap_append hg.gap_ne_nil hg.gap (by rw [hmore]; exact hg.digits_ne_nil), hmore]
      simp

/-- A text of groups ends with a digit. -/
theorem Proper.exists_last (h : groups.Proper) :
    ∃ rest d, groups.text = rest ++ [d] ∧ d.isDigit = true := by
  have hend {digits : List Char} (hne : digits ≠ []) (hdigits : ∀ c ∈ digits, c.isDigit = true) :
      ∃ rest d, digits = rest ++ [d] ∧ d.isDigit = true :=
    ⟨_, _, (List.dropLast_concat_getLast hne).symm, hdigits _ (List.getLast_mem hne)⟩
  obtain ⟨first, later⟩ := groups
  cases later using List.reverseRecOn with
  | nil => simpa [text] using hend h.first_ne_nil h.first
  | append_singleton earlier g =>
      have hg := h.later g (by simp)
      obtain ⟨rest, d, hdigits, hd⟩ := hend hg.digits_ne_nil hg.digits
      exact ⟨first ++ earlier.flatMap (fun g => g.1 ++ g.2) ++ g.1 ++ rest, d,
        by simp [text, hdigits], hd⟩

end DigitGroups

namespace Number

/-! ### The walk along a number -/

/-- What a walk along a number has seen: the groups that are closed and the gaps behind them, the
group that is open, the separators behind it, and the position behind the last digit. -/
structure Walk where
  groups : List (List Char)
  gaps : List (List Char)
  current : List Char
  pending : List Char
  stop : Nat
  deriving DecidableEq, Repr

namespace Walk

/-- Nothing was seen yet. -/
def start (pos : Nat) : Walk := ⟨[], [], [], [], pos⟩

/-- A digit closes the group before the separators, if there are any. -/
def digit (w : Walk) (d : Char) (pos : Nat) : Walk :=
  if w.pending.isEmpty then { w with current := w.current ++ [d], stop := pos + 1 }
  else ⟨w.groups ++ [w.current], w.gaps ++ [w.pending], [d], [], pos + 1⟩

/-- A separator waits for another digit. -/
def separator (w : Walk) (c : Char) : Walk :=
  { w with pending := w.pending ++ [c] }

/-- Goes along the characters from a position on. -/
def run (w : Walk) (pos : Nat) : List Char → Walk
  | [] => w
  | c :: rest =>
    if c.isDigit then (w.digit c pos).run (pos + 1) rest
    else if isSeparator c then (w.separator c).run (pos + 1) rest
    else w

/-- Whether the last group is a fraction. -/
def splits (groups gaps : List (List Char)) : Bool :=
  match gaps.getLast? with
  | some [mark] =>
    isDecimalMark mark && ((groups.getLast?.getD []).length != 3 ||
      gaps.dropLast.any fun gap => gap.any fun c => isDecimalMark c && c != mark)
  | _ => false

/-- The number of the groups that were seen. -/
def toNumber (w : Walk) : Number :=
  let groups := w.groups ++ [w.current]
  if splits groups w.gaps then ⟨groups.dropLast.flatten, groups.getLast?⟩
  else ⟨groups.flatten, none⟩

end Walk

/-- The number that begins at a position, and the position behind it. -/
def parse (chars : List Char) (start : Nat) : Number × Nat :=
  let w := (Walk.start start).run start (chars.drop start)
  (w.toNumber, w.stop)

namespace Walk

/-- Between two steps the walk has seen these groups, and separators behind them. -/
structure Sees (w : Walk) (groups : DigitGroups) (start : Nat) : Prop where
  proper : groups.Proper
  groups_eq : w.groups ++ [w.current] = groups.first :: groups.later.map (·.2)
  gaps_eq : w.gaps = groups.later.map (·.1)
  pending : ∀ c ∈ w.pending, isSeparator c = true
  stop_eq : w.stop = start + groups.text.length

variable {w : Walk} {groups : DigitGroups} {start pos : Nat} {c d : Char}

theorem sees_digit (pos : Nat) (hd : d.isDigit = true) :
    ((Walk.start pos).digit d pos).Sees ⟨[d], []⟩ pos :=
  ⟨⟨List.cons_ne_nil d [], List.forall_mem_singleton.mpr hd, List.forall_mem_nil _⟩,
    rfl, rfl, by simp [Walk.start, Walk.digit], rfl⟩

namespace Sees

theorem separator (h : w.Sees groups start) (hc : isSeparator c = true) :
    (w.separator c).Sees groups start :=
  { h with pending := List.forall_mem_append.mpr ⟨h.pending, List.forall_mem_singleton.mpr hc⟩ }

/-- A digit right behind another belongs to its group. -/
theorem digit_open (h : w.Sees groups start) (hd : d.isDigit = true) (hpending : w.pending = [])
    (hpos : pos = start + groups.text.length) :
    ∃ groups', (w.digit d pos).Sees groups' start ∧ (w.digit d pos).pending = [] ∧
      groups'.text = groups.text ++ [d] := by
  obtain ⟨⟨hne, hfirst, hlater⟩, hgroups, hgaps, -, -⟩ := h
  obtain ⟨first, later⟩ := groups
  have hgrow {digits : List Char} (h : ∀ c ∈ digits, c.isDigit = true) :
      ∀ c ∈ digits ++ [d], c.isDigit = true :=
    List.forall_mem_append.mpr ⟨h, List.forall_mem_singleton.mpr hd⟩
  rw [Walk.digit, if_pos (by rw [hpending]; rfl)]
  cases later using List.reverseRecOn with
  | nil =>
      obtain ⟨hclosed, hcurrent⟩ : w.groups = [] ∧ w.current = first := by
        simpa [List.append_eq_singleton_iff] using hgroups
      refine ⟨⟨first ++ [d], []⟩, ⟨⟨by simp, hgrow hfirst, hlater⟩, by simp [hclosed, hcurrent],
        hgaps, by simp [hpending], ?_⟩, hpending, by simp [DigitGroups.text]⟩
      simp [hpos, DigitGroups.text, Nat.add_assoc]
  | append_singleton earlier g =>
      have hsplit : w.groups ++ [w.current] = (first :: earlier.map (·.2)) ++ [g.2] := by
        simpa using hgroups
      obtain ⟨hclosed, hcurrent⟩ := List.append_inj' hsplit rfl
      obtain ⟨hearlier, hg⟩ := List.forall_mem_append.mp hlater
      have hg := List.forall_mem_singleton.mp hg
      refine ⟨⟨first, earlier ++ [(g.1, g.2 ++ [d])]⟩, ⟨⟨hne, hfirst, ?_⟩, ?_, ?_,
        by simp [hpending], ?_⟩, hpending, by simp [DigitGroups.text]⟩
      · exact List.forall_mem_append.mpr ⟨hearlier, List.forall_mem_singleton.mpr
          ⟨hg.gap_ne_nil, hg.gap, by simp, hgrow hg.digits⟩⟩
      · simpa [hclosed] using hcurrent
      · simpa using hgaps
      · simp [hpos, DigitGroups.text, Nat.add_assoc]

/-- A digit behind separators begins a group of its own. -/
theorem digit_close (h : w.Sees groups start) (hd : d.isDigit = true) (hpending : w.pending ≠ [])
    (hpos : pos = start + (groups.text ++ w.pending).length) :
    ∃ groups', (w.digit d pos).Sees groups' start ∧ (w.digit d pos).pending = [] ∧
      groups'.text = groups.text ++ w.pending ++ [d] := by
  obtain ⟨⟨hne, hfirst, hlater⟩, hgroups, hgaps, hseparators, -⟩ := h
  have hg : DigitGroups.IsGap (w.pending, [d]) :=
    ⟨hpending, hseparators, List.cons_ne_nil d [], List.forall_mem_singleton.mpr hd⟩
  rw [Walk.digit, if_neg (by rwa [List.isEmpty_iff])]
  refine ⟨⟨groups.first, groups.later ++ [(w.pending, [d])]⟩, ⟨⟨hne, hfirst,
    List.forall_mem_append.mpr ⟨hlater, List.forall_mem_singleton.mpr hg⟩⟩, ?_, ?_,
    List.forall_mem_nil _, ?_⟩, rfl, by simp [DigitGroups.text]⟩
  · simp [hgroups]
  · simp [hgaps]
  · simp [hpos, DigitGroups.text, Nat.add_assoc]

/-- The next digit is seen with the separators before it. -/
theorem digit (h : w.Sees groups start) (hd : d.isDigit = true)
    (hpos : pos = start + (groups.text ++ w.pending).length) :
    ∃ groups', (w.digit d pos).Sees groups' start ∧ (w.digit d pos).pending = [] ∧
      groups'.text = groups.text ++ w.pending ++ [d] := by
  by_cases hpending : w.pending = []
  · rw [hpending, List.append_nil] at hpos ⊢
    exact h.digit_open hd hpending hpos
  · exact h.digit_close hd hpending hpos

/-- Along a stretch of digits and separators the walk sees all of it. -/
theorem run (h : w.Sees groups start) (pos : Nat) (rest : List Char)
    (hpos : pos = start + (groups.text ++ w.pending).length) :
    ∃ groups', (w.run pos rest).Sees groups' start ∧
      groups'.text ++ (w.run pos rest).pending =
        groups.text ++ w.pending ++ rest.takeWhile fun c => c.isDigit || isSeparator c := by
  induction rest generalizing w groups pos with
  | nil => exact ⟨groups, h, by simp [Walk.run]⟩
  | cons c rest ih =>
      rw [Walk.run]
      split
      · rename_i hc
        obtain ⟨groups₁, h₁, hpending, htext⟩ := h.digit hc hpos
        obtain ⟨groups', h', htext'⟩ := ih h₁ (pos + 1) (by
          rw [hpending, htext, hpos, List.append_nil, List.length_append, List.length_append,
            List.length_append, List.length_singleton, Nat.add_assoc])
        refine ⟨groups', h', ?_⟩
        rw [htext', hpending, htext, List.takeWhile_cons_of_pos (by simp [hc])]
        simp
      · rename_i hdigit
        split
        · rename_i hc
          obtain ⟨groups', h', htext'⟩ := ih (h.separator hc) (pos + 1) (by
            rw [hpos, Walk.separator]
            simp [Nat.add_assoc])
          refine ⟨groups', h', ?_⟩
          rw [htext', List.takeWhile_cons_of_pos (by simp [hc])]
          simp [Walk.separator]
        · rename_i hc
          refine ⟨groups, h, ?_⟩
          rw [List.takeWhile_cons_of_neg (by simp [hdigit, hc]), List.append_nil]

theorem splits_eq (h : w.Sees groups start) :
    splits (w.groups ++ [w.current]) w.gaps = groups.endsInFraction := by
  rw [splits, DigitGroups.endsInFraction, h.groups_eq, h.gaps_eq]
  cases hlater : groups.later using List.reverseRecOn with
  | nil => rfl
  | append_singleton earlier g =>
      obtain ⟨gap, digits⟩ := g
      have hlast : (groups.first :: (earlier ++ [(gap, digits)]).map (·.2)).getLast? =
          some digits := by
        rw [List.map_append, ← List.cons_append]
        exact List.getLast?_concat
      rw [hlast]
      rcases gap with _ | ⟨mark, _ | ⟨c, gap⟩⟩
      · simp
      · simp [Function.comp_def]
      · simp

/-- The walk and the groups it has seen make the same number. -/
theorem toNumber_eq (h : w.Sees groups start) : w.toNumber = groups.toNumber := by
  rw [toNumber, DigitGroups.toNumber, h.splits_eq, h.groups_eq]
  split
  · rename_i hends
    obtain ⟨digits, earlier, mark, hlater, -⟩ := DigitGroups.endsInFraction_iff.mp hends
    have hcons : groups.first :: groups.later.map (·.2) =
        (groups.first :: earlier.map (·.2)) ++ [digits] := by simp [hlater]
    rw [hcons, List.dropLast_concat, List.getLast?_concat, hlater]
    simp [DigitGroups.joined]
  · rfl

end Sees

end Walk

/-- Separators behind a text that ends with a digit are not in its stretch. -/
theorem stretch_eq_of_takeWhile {cs p pending : List Char}
    (h : (cs.takeWhile fun c => c.isDigit || isSeparator c) = p ++ pending)
    (hp : ∃ rest d, p = rest ++ [d] ∧ d.isDigit = true)
    (hpending : ∀ c ∈ pending, isSeparator c = true) : stretch cs = p := by
  obtain ⟨rest, d, rfl, hd⟩ := hp
  have hdrop : pending.reverse.dropWhile (!·.isDigit) = [] := by
    refine List.dropWhile_eq_nil_iff.mpr fun c hc => ?_
    simp [not_isDigit_of_isSeparator (hpending c (List.mem_reverse.mp hc))]
  rw [stretch, h, List.reverse_append, List.dropWhile_append, hdrop]
  simp [hd]

section

variable {chars : List Char} {start : Nat}

theorem any_isDigit {d : Char} (h : chars[start]? = some d) (hd : d.isDigit = true) :
    chars[start]?.any Char.isDigit = true := by
  rw [h]
  exact hd

theorem exists_drop_eq_cons (h : chars[start]?.any Char.isDigit = true) :
    ∃ d rest, chars.drop start = d :: rest ∧ d.isDigit = true := by
  obtain ⟨d, rest, hdrop⟩ : ∃ d rest, chars.drop start = d :: rest := by
    refine List.exists_cons_of_ne_nil fun hnil => ?_
    rw [← List.head?_drop, hnil] at h
    cases h
  rw [← List.head?_drop, hdrop] at h
  exact ⟨d, rest, hdrop, h⟩

/-- The groups of the stretch are what the walk sees. -/
theorem exists_sees (h : chars[start]?.any Char.isDigit = true) :
    ∃ groups, ((Walk.start start).run start (chars.drop start)).Sees groups start ∧
      groups.text = stretch (chars.drop start) := by
  obtain ⟨d, rest, hdrop, hd⟩ := exists_drop_eq_cons h
  rw [hdrop, Walk.run, if_pos hd]
  obtain ⟨groups, hsees, htext⟩ := (Walk.sees_digit start hd).run (start + 1) rest rfl
  refine ⟨groups, hsees, (stretch_eq_of_takeWhile ?_ hsees.proper.exists_last hsees.pending).symm⟩
  rw [List.takeWhile_cons_of_pos (by simp [hd])]
  exact htext.symm

/-- **The walk reads the number of the longest stretch.** -/
theorem parse_eq_read (h : chars[start]?.any Char.isDigit = true) :
    parse chars start = ((read (chars.drop start)).1, start + (read (chars.drop start)).2) := by
  obtain ⟨groups, hsees, htext⟩ := exists_sees h
  rw [parse, hsees.toNumber_eq, hsees.stop_eq, read, ← htext, hsees.proper.ofList_text]

/-- A number takes the characters between two positions: digits and separators from a digit to a
digit, as far as they go.  It has all of their digits, and the fraction that their groups tell. -/
structure IsToken (chars : List Char) (start : Nat) (n : Number) (stop : Nat) : Prop where
  lt : start < stop
  le : stop ≤ chars.length
  written : Written (chars.extract start stop)
  longest : ∀ stop' ≤ chars.length, Written (chars.extract start stop') → stop' ≤ stop
  digits : n.digits ++ n.fraction.getD [] = (chars.extract start stop).filter Char.isDigit
  readable : n.Readable
  fraction : ∃ groups : DigitGroups, groups.Proper ∧ groups.text = chars.extract start stop ∧
    ∀ digits, n.fraction = some digits ↔ groups.HasFraction digits

/-- The walk reads a token. -/
theorem isToken_parse (h : chars[start]?.any Char.isDigit = true) :
    IsToken chars start (parse chars start).1 (parse chars start).2 := by
  obtain ⟨d, rest, hdrop, hd⟩ := exists_drop_eq_cons h
  have hw : Written (stretch (chars.drop start)) := hdrop ▸ written_stretch rest hd
  obtain ⟨e, more, hcons, -⟩ := hw.first
  have hprefix := stretch_isPrefix (chars.drop start)
  have hlen : (stretch (chars.drop start)).length = more.length + 1 := by
    rw [hcons, List.length_cons]
  have hle := hprefix.length_le
  rw [List.length_drop] at hle
  have hslice : chars.extract start (start + (stretch (chars.drop start)).length) =
      stretch (chars.drop start) := by
    rw [List.extract_eq_take_drop, Nat.add_sub_cancel_left]
    exact (List.prefix_iff_eq_take.mp hprefix).symm
  obtain ⟨groups, hsees, htext⟩ := exists_sees h
  have hnumber : (parse chars start).1 = of (stretch (chars.drop start)) := by
    rw [parse_eq_read h, of, read, read, hw.stretch_eq]
  have hstop : (parse chars start).2 = start + (stretch (chars.drop start)).length := by
    rw [parse_eq_read h, read]
  refine ⟨by omega, by omega, ?_, ?_, ?_, ?_, groups, hsees.proper, ?_, ?_⟩
  · rwa [hstop, hslice]
  · intro stop' hle' hw'
    have hpre : chars.extract start stop' <+: stretch (chars.drop start) :=
      prefix_stretch (by rw [List.extract_eq_take_drop]; exact List.take_prefix _ _) hw'.chars
        hw'.last
    have := hpre.length_le
    rw [List.extract_eq_take_drop, List.length_take, List.length_drop] at this
    omega
  · rw [hnumber, hstop, hslice]
    exact hw.digits
  · rw [hnumber]
    exact hw.readable
  · rw [hstop, hslice]
    exact htext
  · intro digits
    rw [parse, hsees.toNumber_eq]
    exact DigitGroups.fraction_eq_some_iff

end

end Number

/-! ### The walk along a pattern -/

namespace Piece

/-- Writes the expression of a pattern from a position on, and tells whether a number ended with
the pattern. -/
def walk (chars : List Char) (pos : Nat) (out : String) (number : Bool) : String × Bool :=
  match _h : chars[pos]? with
  | none => (out, number)
  | some c =>
    if _hc : c.isDigit then
      let t := Number.parse chars pos
      walk chars t.2 (out ++ t.1.source) (t.2 == chars.length)
    else walk chars (pos + 1) (out ++ (Piece.char c).source) number
termination_by chars.length - pos
decreasing_by
  · have ht := Number.isToken_parse (Number.any_isDigit _h _hc)
    have := ht.lt
    have := ht.le
    omega
  · have := (List.getElem?_eq_some_iff.mp _h).1
    omega

/-- The pieces take the characters from a position to the end, each of them once. -/
inductive Covers (chars : List Char) : Nat → List Piece → Prop
  | stop : Covers chars chars.length []
  | char {pos : Nat} {c : Char} {pieces : List Piece} (h : chars[pos]? = some c)
      (hc : c.isDigit = false) (rest : Covers chars (pos + 1) pieces) :
      Covers chars pos (.char c :: pieces)
  | number {pos stop : Nat} {n : Number} {pieces : List Piece} (h : Number.IsToken chars pos n stop)
      (rest : Covers chars stop pieces) : Covers chars pos (.number n :: pieces)

theorem endsInNumber_char_cons (c : Char) (pieces : List Piece) :
    endsInNumber (.char c :: pieces) = endsInNumber pieces := by
  rcases List.eq_nil_or_concat pieces with rfl | ⟨earlier, p, rfl⟩
  · rfl
  · exact endsInNumber_cons (by simp)

theorem endsInNumber_number_cons (n : Number) (pieces : List Piece) :
    endsInNumber (.number n :: pieces) = (pieces.isEmpty || endsInNumber pieces) := by
  rcases List.eq_nil_or_concat pieces with rfl | ⟨earlier, p, rfl⟩
  · rfl
  · rw [endsInNumber_cons (by simp)]
    simp

section

variable {chars : List Char} {pos : Nat} {c : Char}

theorem isEmpty_ofPattern_drop_iff :
    (ofPattern (chars.drop pos)).isEmpty = true ↔ chars.length ≤ pos := by
  rw [List.isEmpty_iff, ← List.drop_eq_nil_iff]
  refine ⟨fun h => ?_, fun h => by rw [h, ofPattern]⟩
  by_contra hne
  exact ofPattern_ne_nil hne h

theorem ofPattern_drop_char (h : chars[pos]? = some c) (hc : c.isDigit = false) :
    ofPattern (chars.drop pos) = .char c :: ofPattern (chars.drop (pos + 1)) := by
  obtain ⟨hlt, rfl⟩ := List.getElem?_eq_some_iff.mp h
  rw [List.drop_eq_getElem_cons hlt, ofPattern_cons_char hc]

theorem ofPattern_drop_number (h : chars[pos]? = some c) (hc : c.isDigit = true) :
    ofPattern (chars.drop pos) =
      .number (Number.parse chars pos).1 :: ofPattern (chars.drop (Number.parse chars pos).2) := by
  have hdigit := Number.any_isDigit h hc
  have hlt := (Number.isToken_parse hdigit).lt
  rw [Number.parse_eq_read hdigit] at hlt ⊢
  obtain ⟨hpos, rfl⟩ := List.getElem?_eq_some_iff.mp h
  rw [List.drop_eq_getElem_cons hpos] at hlt ⊢
  rw [ofPattern, if_pos hc]
  dsimp only at hlt ⊢
  rw [List.drop_drop]
  congr 3
  omega

/-- What is written are the expressions of the pieces. -/
theorem walk_eq (pos : Nat) (out : String) {number : Bool} (hpos : pos ≤ chars.length)
    (hnumber : number = true → pos = chars.length) :
    walk chars pos out number =
      (out ++ String.join ((ofPattern (chars.drop pos)).map source),
        number || endsInNumber (ofPattern (chars.drop pos))) := by
  fun_induction walk chars pos out number with
  | case1 pos out number h =>
      rw [List.drop_eq_nil_iff.mpr (List.getElem?_eq_none_iff.mp h), ofPattern]
      simp [endsInNumber]
  | case2 pos out number c h hc t ih =>
      have ht := Number.isToken_parse (Number.any_isDigit h hc)
      have hfalse : number = false := by
        have := ht.lt
        have := ht.le
        cases number with
        | false => rfl
        | true =>
            have := hnumber rfl
            omega
      have hend : (t.2 == chars.length) = (ofPattern (chars.drop t.2)).isEmpty := by
        rw [Bool.eq_iff_iff, beq_iff_eq, isEmpty_ofPattern_drop_iff]
        exact ⟨Eq.ge, ht.le.antisymm⟩
      rw [ih ht.le (by simp), ofPattern_drop_number h hc, endsInNumber_number_cons, hfalse, hend,
        List.map_cons, String.join_cons, String.append_assoc, source, Bool.false_or]
  | case3 pos out number c h hc ih =>
      have hlt := (List.getElem?_eq_some_iff.mp h).1
      rw [Bool.not_eq_true] at hc
      rw [ih hlt fun hn => absurd (hnumber hn) hlt.ne, ofPattern_drop_char h hc,
        endsInNumber_char_cons, List.map_cons, String.join_cons, String.append_assoc]

/-- The pieces of a pattern take every character of it. -/
theorem covers_ofPattern (pos : Nat) (hpos : pos ≤ chars.length) :
    Covers chars pos (ofPattern (chars.drop pos)) := by
  obtain ⟨n, hn⟩ : ∃ n, chars.length - pos ≤ n := ⟨_, Nat.le_refl _⟩
  induction n generalizing pos with
  | zero =>
      obtain rfl : pos = chars.length := by omega
      rw [List.drop_length, ofPattern]
      exact .stop
  | succ n ih =>
      rcases Nat.eq_or_lt_of_le hpos with rfl | hlt
      · rw [List.drop_length, ofPattern]
        exact .stop
      · have h : chars[pos]? = some chars[pos] := List.getElem?_eq_getElem hlt
        cases hc : (chars[pos]).isDigit with
        | false =>
            rw [ofPattern_drop_char h hc]
            exact .char h hc (ih _ hlt (by omega))
        | true =>
            have ht := Number.isToken_parse (Number.any_isDigit h hc)
            have := ht.lt
            rw [ofPattern_drop_number h hc]
            exact .number ht (ih _ ht.le (by omega))

end

end Piece

/-- **Numbers keep every digit.**  A digit begins a token: the walk along the characters ends behind
it and within them, and so does the reading of the number, with the same number.  The expression of
a pattern is put together from pieces that take each of its characters once, and a number ends it
just if its last character is a digit. -/
theorem Number.tokens_keep_digits (chars : List Char) :
    (∀ start, chars[start]?.any Char.isDigit = true →
      parse chars start =
        ((read (chars.drop start)).1, start + (read (chars.drop start)).2) ∧
      IsToken chars start (parse chars start).1 (parse chars start).2) ∧
    (∃ pieces, Piece.ofPattern chars = pieces ∧ Piece.Covers chars 0 pieces ∧
      Piece.walk chars 0 "" false =
        (String.join (pieces.map Piece.source), Piece.endsInNumber pieces) ∧
      Piece.endsInNumber pieces = chars.getLast?.any Char.isDigit) := by
  refine ⟨fun start h => ⟨parse_eq_read h, isToken_parse h⟩, _, rfl,
    Piece.covers_ofPattern 0 (Nat.zero_le _), ?_, Piece.endsInNumber_ofPattern chars⟩
  rw [Piece.walk_eq 0 "" (Nat.zero_le _) (absurd · Bool.false_ne_true), List.drop_zero,
    String.empty_append, Bool.false_or]

/-- Separators behind the last digit are no part of a number, and the mark after points is that of a
fraction. -/
theorem Number.tokens_keep_digits_trailing :
    let chars := "x 1.234,567. y".toList
    chars[2]?.any Char.isDigit = true ∧ parse chars 2 = (⟨"1234".toList, some "567".toList⟩, 11) ∧
      IsToken chars 2 ⟨"1234".toList, some "567".toList⟩ 11 := by
  have hdigit : "x 1.234,567. y".toList[2]?.any Char.isDigit = true := by decide +kernel
  have hparse : parse "x 1.234,567. y".toList 2 = (⟨"1234".toList, some "567".toList⟩, 11) := by
    decide +kernel
  have htoken := ((tokens_keep_digits "x 1.234,567. y".toList).1 2 hdigit).2
  rw [hparse] at htoken
  exact ⟨hdigit, hparse, htoken⟩

end TextMasking
