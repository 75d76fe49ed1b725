import Mathlib.Data.List.TakeWhile
import TextMasking.Proofs.Matching.Literal

/-! # How numbers are read

The reading of a number keeps its digits and their order (`DigitGroups.joined_ofList`); it only
decides whether the digits after the last gap are a fraction.  They can be one if that gap is a
single decimal mark (`DigitGroups.ofList_append_mark`), and they are one unless there are three of
them (`Number.read_mark`).

The texts that a number accepts are stretches of digits and separators from a digit to a digit
(`Number.Written`), so each is read as one number as a whole. -/

namespace TextMasking

open Unicode

/-! ### Digits and separators -/

theorem mem_digits_of_isDigit {c : Char} (h : c.isDigit = true) : c ∈ "0123456789".toList := by
  have hall : ∀ n < 58, 48 ≤ n → Char.ofNat n ∈ "0123456789".toList := by decide
  simp only [Char.isDigit, Bool.and_eq_true, decide_eq_true_eq, ge_iff_le,
    UInt32.le_iff_toNat_le] at h
  have hmem := hall c.toNat (Nat.lt_succ_of_le h.2) h.1
  rwa [Char.ofNat_toNat] at hmem

theorem isSeparator_of_isDigit {c : Char} (h : c.isDigit = true) : isSeparator c = false := by
  have hall : ("0123456789".toList.all fun d => !isSeparator d) = true := by decide
  simpa using List.all_eq_true.mp hall c (mem_digits_of_isDigit h)

theorem not_isDigit_of_isSeparator {c : Char} (h : isSeparator c = true) : c.isDigit = false := by
  cases hc : c.isDigit with
  | false => rfl
  | true =>
      rw [isSeparator_of_isDigit hc] at h
      cases h

theorem isSeparator_of_isDecimalMark {c : Char} (h : isDecimalMark c = true) :
    isSeparator c = true := by
  simp only [isDecimalMark, Bool.or_eq_true, beq_iff_eq] at h
  rcases h with rfl | rfl
  · decide
  · decide

/-! ### Groups of digits -/

namespace DigitGroups

variable {c d : Char} {gap digits rest : List Char} {groups : DigitGroups}

/-- The groups put together again. -/
def text (groups : DigitGroups) : List Char :=
  groups.first ++ groups.later.flatMap fun g => g.1 ++ g.2

/-! A separator before the groups belongs to the gap at their start, if there is one. -/

/-- The groups with a separator before them. -/
def consGap (c : Char) (groups : DigitGroups) : DigitGroups :=
  match groups.first, groups.later with
  | [], (gap, digits) :: more => ⟨[], (c :: gap, digits) :: more⟩
  | digits, more => ⟨[], ([c], digits) :: more⟩

theorem consGap_cases (c : Char) (groups : DigitGroups) :
    (∃ gap digits more, groups = ⟨[], (gap, digits) :: more⟩ ∧
      groups.consGap c = ⟨[], (c :: gap, digits) :: more⟩) ∨
    groups.consGap c = ⟨[], ([c], groups.first) :: groups.later⟩ := by
  obtain ⟨first, later⟩ := groups
  cases first with
  | nil =>
      cases later with
      | nil => exact .inr rfl
      | cons g more => exact .inl ⟨g.1, g.2, more, rfl, rfl⟩
  | cons d first => exact .inr rfl

theorem later_consGap_ne_nil : (groups.consGap c).later ≠ [] := by
  rcases consGap_cases c groups with ⟨gap, digits, more, -, h⟩ | h
  · rw [h]
    exact List.cons_ne_nil _ _
  · rw [h]
    exact List.cons_ne_nil _ _

theorem joined_consGap : joined (groups.consGap c).first (groups.consGap c).later =
    joined groups.first groups.later := by
  rcases consGap_cases c groups with ⟨gap, digits, more, rfl, h⟩ | h
  · rw [h]
    rfl
  · rw [h]
    rfl

theorem text_consGap : (groups.consGap c).text = c :: groups.text := by
  rcases consGap_cases c groups with ⟨gap, digits, more, rfl, h⟩ | h
  · rw [h]
    rfl
  · rw [h]
    simp [text]

/-- Behind groups that do not begin with nothing a separator changes nothing. -/
theorem consGap_append (h : groups.first = [] → groups.later ≠ []) (g : List Char × List Char) :
    consGap c ⟨groups.first, groups.later ++ [g]⟩ =
      ⟨(groups.consGap c).first, (groups.consGap c).later ++ [g]⟩ := by
  obtain ⟨first, later⟩ := groups
  cases first with
  | nil =>
      obtain ⟨g', more, rfl⟩ := List.exists_cons_of_ne_nil (h rfl)
      rfl
  | cons d first => rfl

/-- The last group stays, and so does its gap up to a separator before it. -/
theorem getLast?_consGap (h : groups.later.getLast? = some (gap, digits)) :
    (groups.consGap c).later.getLast? = some (gap, digits) ∨
      (groups.consGap c).later.getLast? = some (c :: gap, digits) := by
  rcases consGap_cases c groups with ⟨gap', digits', more, rfl, e⟩ | e
  · rw [e, List.getLast?_cons]
    rw [List.getLast?_cons] at h
    cases hmore : more.getLast? with
    | none =>
        rw [hmore] at h
        cases h
        exact .inr rfl
    | some g =>
        rw [hmore] at h
        exact .inl h
  · rw [e, List.getLast?_cons, h]
    exact .inl rfl

/-! ### What is cut -/

theorem ofList_cons (c : Char) (rest : List Char) :
    ofList (c :: rest) =
      if c.isDigit then ⟨c :: (ofList rest).first, (ofList rest).later⟩
      else (ofList rest).consGap c := rfl

theorem ofList_digit (h : d.isDigit = true) :
    ofList (d :: rest) = ⟨d :: (ofList rest).first, (ofList rest).later⟩ := by
  rw [ofList_cons, if_pos h]

theorem ofList_gap (h : c.isDigit = false) : ofList (c :: rest) = (ofList rest).consGap c := by
  rw [ofList_cons, if_neg (Bool.eq_false_iff.mp h)]

theorem text_ofList (cs : List Char) : (ofList cs).text = cs := by
  induction cs with
  | nil => rfl
  | cons c rest ih =>
      cases hc : c.isDigit with
      | true =>
          rw [ofList_digit hc]
          exact congrArg _ ih
      | false => rw [ofList_gap hc, text_consGap, ih]

/-- Cutting into groups keeps the digits. -/
theorem joined_ofList (cs : List Char) :
    joined (ofList cs).first (ofList cs).later = cs.filter Char.isDigit := by
  induction cs with
  | nil => rfl
  | cons c rest ih =>
      cases hc : c.isDigit with
      | true =>
          rw [ofList_digit hc, List.filter_cons_of_pos hc, ← ih]
          rfl
      | false =>
          rw [ofList_gap hc, joined_consGap, ih, List.filter_cons_of_neg (Bool.eq_false_iff.mp hc)]

/-- A text that begins with a digit has it in its first group. -/
theorem first_ofList_ne_nil (rest : List Char) (h : d.isDigit = true) :
    (ofList (d :: rest)).first ≠ [] := by
  rw [ofList_digit h]
  exact List.cons_ne_nil _ _

/-- Something is left of a text that is not empty. -/
theorem later_ofList_ne_nil {cs : List Char} (hne : cs ≠ []) (h : (ofList cs).first = []) :
    (ofList cs).later ≠ [] := by
  obtain ⟨c, rest, rfl⟩ := List.exists_cons_of_ne_nil hne
  cases hc : c.isDigit with
  | true => exact absurd h (first_ofList_ne_nil rest hc)
  | false =>
      rw [ofList_gap hc]
      exact later_consGap_ne_nil

theorem ofList_digits (h : ∀ c ∈ digits, c.isDigit = true) : ofList digits = ⟨digits, []⟩ := by
  induction digits with
  | nil => rfl
  | cons d rest ih =>
      obtain ⟨hd, hrest⟩ := List.forall_mem_cons.mp h
      rw [ofList_digit hd, ih hrest]

/-- Digits after a single mark. -/
theorem ofList_mark {mark : Char} (hm : mark.isDigit = false)
    (hdigits : ∀ c ∈ digits, c.isDigit = true) :
    ofList (mark :: digits) = ⟨[], [([mark], digits)]⟩ := by
  rw [ofList_gap hm, ofList_digits hdigits]
  cases digits <;> rfl

/-- Digits after a single mark that follows a digit are the last group. -/
theorem ofList_append_mark {x : List Char} {mark : Char} (hd : d.isDigit = true)
    (hm : mark.isDigit = false) (hdigits : ∀ c ∈ digits, c.isDigit = true) :
    ofList ((x ++ [d]) ++ mark :: digits) =
      ⟨(ofList (x ++ [d])).first, (ofList (x ++ [d])).later ++ [([mark], digits)]⟩ := by
  induction x with
  | nil =>
      rw [List.nil_append, List.singleton_append, ofList_digit hd, ofList_mark hm hdigits,
        ofList_digits (List.forall_mem_singleton.mpr hd)]
      rfl
  | cons c x ih =>
      rw [List.cons_append, List.cons_append]
      cases hc : c.isDigit with
      | true => rw [ofList_digit hc, ofList_digit hc, ih]
      | false =>
          rw [ofList_gap hc, ofList_gap hc, ih,
            consGap_append fun h => later_ofList_ne_nil (by simp) h]

/-- A text that ends with a digit has it in its last group. -/
theorem getLast_ofList_ne_nil {x : List Char} (hd : d.isDigit = true)
    (h : (ofList (x ++ [d])).later.getLast? = some (gap, digits)) : digits ≠ [] := by
  induction x generalizing gap digits with
  | nil =>
      rw [List.nil_append, ofList_digits (List.forall_mem_singleton.mpr hd)] at h
      cases h
  | cons c x ih =>
      rw [List.cons_append] at h
      cases hc : c.isDigit with
      | true =>
          rw [ofList_digit hc] at h
          exact ih h
      | false =>
          rw [ofList_gap hc] at h
          cases hlast : (ofList (x ++ [d])).later.getLast? with
          | none =>
              -- the separator begins a gap of its own, and the digit is in the group after it
              rw [List.getLast?_eq_none_iff] at hlast
              have hfirst : (ofList (x ++ [d])).first ≠ [] := fun hfirst =>
                later_ofList_ne_nil (by simp) hfirst hlast
              rcases consGap_cases c (ofList (x ++ [d])) with ⟨gap', digits', more, e, -⟩ | e
              · rw [e] at hfirst
                exact absurd rfl hfirst
              · rw [e, hlast] at h
                cases h
                exact hfirst
          | some g =>
              have hne := ih hlast
              rcases getLast?_consGap (c := c) hlast with e | e
              · rw [h] at e
                cases e
                exact hne
              · rw [h] at e
                cases e
                exact hne

/-- A group after two separators has a gap of more than one. -/
theorem ofList_append_pair (x : List Char) {mark : Char} (hc : c.isDigit = false)
    (hm : mark.isDigit = false) (hdigits : ∀ c ∈ digits, c.isDigit = true) :
    ∃ gap, (ofList (x ++ c :: mark :: digits)).later.getLast? =
      some (gap ++ [c, mark], digits) := by
  induction x with
  | nil =>
      refine ⟨[], ?_⟩
      rw [List.nil_append, ofList_gap hc, ofList_mark hm hdigits]
      rfl
  | cons a x ih =>
      obtain ⟨gap, hlast⟩ := ih
      rw [List.cons_append]
      cases ha : a.isDigit with
      | true =>
          rw [ofList_digit ha]
          exact ⟨gap, hlast⟩
      | false =>
          rw [ofList_gap ha]
          rcases getLast?_consGap (c := a) hlast with h | h
          · exact ⟨gap, h⟩
          · exact ⟨a :: gap, h⟩

/-- The number of the groups keeps their digits. -/
theorem toNumber_digits (cs : List Char) :
    (ofList cs).toNumber.digits ++ (ofList cs).toNumber.fraction.getD [] =
      cs.filter Char.isDigit := by
  rw [← joined_ofList, toNumber]
  split
  · rename_i hf
    have hne : (ofList cs).later ≠ [] := by
      intro h
      rw [endsInFraction, h] at hf
      cases hf
    obtain ⟨more, g, hlater⟩ : ∃ more g, (ofList cs).later = more ++ [g] :=
      ⟨_, _, (List.dropLast_concat_getLast hne).symm⟩
    rw [hlater]
    simp [joined]
  · simp

end DigitGroups

namespace Number

/-! ### Readings -/

/-- Digits and separators from a digit to a digit. -/
structure Written (cs : List Char) : Prop where
  chars : ∀ c ∈ cs, c.isDigit = true ∨ isSeparator c = true
  first : ∃ d rest, cs = d :: rest ∧ d.isDigit = true
  last : ∃ rest d, cs = rest ++ [d] ∧ d.isDigit = true

/-- Whether the characters are such a number. -/
def isWritten (cs : List Char) : Bool :=
  (cs.all fun c => c.isDigit || isSeparator c) && cs.head?.any Char.isDigit &&
    cs.getLast?.any Char.isDigit

theorem isWritten_iff {cs : List Char} : isWritten cs = true ↔ Written cs := by
  rw [isWritten, Bool.and_eq_true, Bool.and_eq_true, List.all_eq_true]
  constructor
  · rintro ⟨⟨hchars, hfirst⟩, hlast⟩
    refine ⟨fun c hc => by simpa using hchars c hc, ?_, ?_⟩
    · cases cs with
      | nil => cases hfirst
      | cons d rest => exact ⟨d, rest, rfl, hfirst⟩
    · cases hget : cs.getLast? with
      | none =>
          rw [hget] at hlast
          cases hlast
      | some d =>
          rw [hget] at hlast
          obtain ⟨rest, hcs⟩ := List.getLast?_eq_some_iff.mp hget
          exact ⟨rest, d, hcs, hlast⟩
  · rintro ⟨hchars, ⟨d, rest, hfirst, hd⟩, ⟨init, e, hlast, he⟩⟩
    refine ⟨⟨fun c hc => by simpa using hchars c hc, ?_⟩, ?_⟩
    · rw [hfirst]
      exact hd
    · rw [hlast, List.getLast?_concat]
      exact he

instance (cs : List Char) : Decidable (Written cs) :=
  decidable_of_iff _ isWritten_iff

theorem Written.stretch_eq {cs : List Char} (h : Written cs) : stretch cs = cs := by
  obtain ⟨rest, d, rfl, hd⟩ := h.last
  have htake : ((rest ++ [d]).takeWhile fun c => c.isDigit || isSeparator c) = rest ++ [d] :=
    List.takeWhile_eq_self_iff.mpr fun c hc => by simpa using h.chars c hc
  rw [stretch, htake, List.reverse_append, List.reverse_singleton, List.singleton_append,
    List.dropWhile_cons_of_neg (by simp [hd]), List.reverse_cons, List.reverse_reverse]

/-- The number that a text writes. -/
def of (cs : List Char) : Number := (read cs).1

theorem Written.of_eq {cs : List Char} (h : Written cs) :
    of cs = (DigitGroups.ofList cs).toNumber := by
  rw [of, read, h.stretch_eq]

/-- A reading keeps the digits. -/
theorem Written.digits {cs : List Char} (h : Written cs) :
    (of cs).digits ++ (of cs).fraction.getD [] = cs.filter Char.isDigit := by
  rw [h.of_eq, DigitGroups.toNumber_digits]

/-- A fraction is the last group, after a single decimal mark. -/
theorem exists_mark_of_fraction {cs f : List Char}
    (h : (DigitGroups.ofList cs).toNumber.fraction = some f) :
    ∃ mark, isDecimalMark mark = true ∧
      (DigitGroups.ofList cs).later.getLast? = some ([mark], f) := by
  rw [DigitGroups.toNumber] at h
  split at h
  · rename_i hends
    rw [DigitGroups.endsInFraction] at hends
    split at hends
    · rename_i mark digits hlast
      have hfraction : some digits = some f := by rw [← h, hlast]; rfl
      cases hfraction
      exact ⟨mark, (Bool.and_eq_true_iff.mp hends).1, hlast⟩
    · cases hends
  · cases h

/-- A fraction has digits. -/
theorem Written.fraction_ne_nil {cs : List Char} (h : Written cs) {f : List Char}
    (hf : (of cs).fraction = some f) : f ≠ [] := by
  obtain ⟨rest, d, hcs, hd⟩ := h.last
  rw [h.of_eq] at hf
  obtain ⟨mark, -, hlast⟩ := exists_mark_of_fraction hf
  rw [hcs] at hlast
  exact DigitGroups.getLast_ofList_ne_nil hd hlast

/-- A number as it can be read: it has digits, and a fraction has some too. -/
structure Readable (n : Number) : Prop where
  digits : ∀ c ∈ n.digits, c.isDigit = true
  digits_ne_nil : n.digits ≠ []
  fraction : ∀ f, n.fraction = some f → f ≠ [] ∧ ∀ c ∈ f, c.isDigit = true

theorem Written.readable {cs : List Char} (h : Written cs) : Readable (of cs) := by
  have hall : ∀ c ∈ (of cs).digits ++ (of cs).fraction.getD [], c.isDigit = true := by
    rw [h.digits]
    exact fun c hc => (List.mem_filter.mp hc).2
  refine ⟨fun c hc => hall c (List.mem_append_left _ hc), ?_, fun f hf => ⟨h.fraction_ne_nil hf,
    fun c hc => hall c (List.mem_append_right _ (by rwa [hf]))⟩⟩
  obtain ⟨d, rest, rfl, hd⟩ := h.first
  have hfirst := DigitGroups.first_ofList_ne_nil rest hd
  rw [h.of_eq, DigitGroups.toNumber]
  split
  · exact fun e => hfirst (List.append_eq_nil_iff.mp e).1
  · exact fun e => hfirst (List.append_eq_nil_iff.mp e).1

/-! ### Readings of what a number accepts -/

theorem Loose.filter {digits x : List Char} (h : Loose digits x)
    (hd : ∀ c ∈ digits, c.isDigit = true) : x.filter Char.isDigit = digits := by
  induction h with
  | nil => rfl
  | one d => exact List.filter_eq_self.mpr hd
  | more d e gap hgap h ih =>
      obtain ⟨hd, hrest⟩ := List.forall_mem_cons.mp hd
      have hgap' : gap.toList.filter Char.isDigit = [] :=
        List.filter_eq_nil_iff.mpr fun c hc => by
          rw [not_isDigit_of_isSeparator (hgap c (Option.mem_toList.mp hc))]
          exact Bool.false_ne_true
      rw [List.filter_cons_of_pos hd, List.filter_append, hgap', List.nil_append, ih hrest]

theorem Loose.written {digits x : List Char} (h : Loose digits x)
    (hd : ∀ c ∈ digits, c.isDigit = true) (hne : digits ≠ []) : Written x := by
  induction h with
  | nil => exact absurd rfl hne
  | one d =>
      have hd := hd d List.mem_cons_self
      exact ⟨List.forall_mem_singleton.mpr (.inl hd), ⟨d, [], rfl, hd⟩, ⟨[], d, rfl, hd⟩⟩
  | more d e gap hgap h ih =>
      obtain ⟨hd, hrest⟩ := List.forall_mem_cons.mp hd
      have hw := ih hrest (List.cons_ne_nil _ _)
      obtain ⟨init, last, hx, hlast⟩ := hw.last
      refine ⟨List.forall_mem_cons.mpr ⟨.inl hd, ?_⟩, ⟨d, _, rfl, hd⟩,
        ⟨d :: (gap.toList ++ init), last, by rw [hx]; simp, hlast⟩⟩
      exact List.forall_mem_append.mpr ⟨fun c hc => .inr (hgap c (Option.mem_toList.mp hc)),
        hw.chars⟩

section

variable {x digits : List Char} {mark : Char}

theorem Written.append_mark (h : Written x) (hm : isDecimalMark mark = true) (hne : digits ≠ [])
    (hdigits : ∀ c ∈ digits, c.isDigit = true) : Written (x ++ mark :: digits) := by
  obtain ⟨d, rest, hx, hd⟩ := h.first
  obtain ⟨more, e, rfl⟩ : ∃ more e, digits = more ++ [e] :=
    ⟨_, _, (List.dropLast_concat_getLast hne).symm⟩
  refine ⟨List.forall_mem_append.mpr ⟨h.chars, List.forall_mem_cons.mpr
      ⟨.inr (isSeparator_of_isDecimalMark hm), fun c hc => .inl (hdigits c hc)⟩⟩,
    ⟨d, rest ++ mark :: (more ++ [e]), by rw [hx]; rfl, hd⟩,
    ⟨x ++ mark :: more, e, by simp, hdigits e (by simp)⟩⟩

theorem filter_append_mark (hm : isDecimalMark mark = true)
    (hdigits : ∀ c ∈ digits, c.isDigit = true) :
    (x ++ mark :: digits).filter Char.isDigit = x.filter Char.isDigit ++ digits := by
  have hmark := not_isDigit_of_isSeparator (isSeparator_of_isDecimalMark hm)
  rw [List.filter_append, List.filter_cons_of_neg (by rw [hmark]; exact Bool.false_ne_true),
    List.filter_eq_self.mpr hdigits]

/-- The groups of a number before a single mark and more digits. -/
theorem Written.ofList_mark (h : Written x) (hm : isDecimalMark mark = true)
    (hdigits : ∀ c ∈ digits, c.isDigit = true) :
    (DigitGroups.ofList (x ++ mark :: digits)).later.getLast? = some ([mark], digits) := by
  obtain ⟨rest, d, rfl, hd⟩ := h.last
  rw [DigitGroups.ofList_append_mark hd
    (not_isDigit_of_isSeparator (isSeparator_of_isDecimalMark hm)) hdigits]
  exact List.getLast?_concat

/-- A fraction after a single mark is all that comes after it. -/
theorem Written.fraction_mark (h : Written x) (hm : isDecimalMark mark = true) (hne : digits ≠ [])
    (hdigits : ∀ c ∈ digits, c.isDigit = true) {f : List Char}
    (hf : (of (x ++ mark :: digits)).fraction = some f) : f = digits := by
  rw [(h.append_mark hm hne hdigits).of_eq] at hf
  obtain ⟨mark', -, hlast⟩ := exists_mark_of_fraction hf
  rw [h.ofList_mark hm hdigits] at hlast
  cases hlast
  rfl

/-- **Digits after a single mark are a fraction unless there are three of them.** -/
theorem Written.fraction_eq (h : Written x) (hm : isDecimalMark mark = true) (hne : digits ≠ [])
    (hdigits : ∀ c ∈ digits, c.isDigit = true) (hlen : digits.length ≠ 3) :
    (of (x ++ mark :: digits)).fraction = some digits := by
  have hlast := h.ofList_mark hm hdigits
  have hends : (DigitGroups.ofList (x ++ mark :: digits)).endsInFraction = true := by
    rw [DigitGroups.endsInFraction, hlast]
    simp [hm, hlen]
  rw [(h.append_mark hm hne hdigits).of_eq, DigitGroups.toNumber, if_pos hends]
  exact congrArg (Option.map (·.2)) hlast

end

/-- A fraction stands after a single decimal mark that a digit comes before. -/
theorem Written.exists_fraction {cs f : List Char} (h : Written cs)
    (hf : (of cs).fraction = some f) :
    ∃ x mark, cs = x ++ mark :: f ∧ isDecimalMark mark = true ∧ Written x ∧
      x.filter Char.isDigit = (of cs).digits := by
  have hdigits := h.digits
  rw [hf] at hdigits
  have hfraction : ∀ c ∈ f, c.isDigit = true := by
    intro c hc
    have hmem : c ∈ cs.filter Char.isDigit := hdigits ▸ List.mem_append_right _ hc
    exact (List.mem_filter.mp hmem).2
  rw [h.of_eq] at hf
  obtain ⟨mark, hm, hlast⟩ := exists_mark_of_fraction hf
  have hmark := not_isDigit_of_isSeparator (isSeparator_of_isDecimalMark hm)
  obtain ⟨x, hcs⟩ : ∃ x, cs = x ++ mark :: f := by
    obtain ⟨more, hlater⟩ := List.getLast?_eq_some_iff.mp hlast
    refine ⟨(DigitGroups.ofList cs).first ++ more.flatMap fun g => g.1 ++ g.2, ?_⟩
    have htext := DigitGroups.text_ofList cs
    rw [DigitGroups.text, hlater] at htext
    simpa using htext.symm
  rw [hcs, filter_append_mark hm hfraction, ← hcs] at hdigits
  have hchars : ∀ c ∈ x, c.isDigit = true ∨ isSeparator c = true :=
    fun c hc => h.chars c (hcs ▸ List.mem_append_left _ hc)
  obtain ⟨d, rest, hfirst, hd⟩ := h.first
  rw [hcs] at hfirst
  obtain ⟨x', rfl⟩ : ∃ x', x = d :: x' := by
    rcases x with _ | ⟨b, x'⟩
    · cases hfirst
      rw [hmark] at hd
      cases hd
    · cases hfirst
      exact ⟨x', rfl⟩
  obtain ⟨init, c, hx⟩ : ∃ init c, d :: x' = init ++ [c] :=
    ⟨_, _, (List.dropLast_concat_getLast (List.cons_ne_nil d x')).symm⟩
  refine ⟨d :: x', mark, hcs, hm, ⟨hchars, ⟨d, x', rfl, hd⟩, ⟨init, c, hx, ?_⟩⟩,
    (List.append_cancel_right hdigits).symm⟩
  -- the gap before the fraction is the mark alone, so a digit stands before it
  refine (hchars c (hx ▸ by simp)).resolve_right fun hc => ?_
  obtain ⟨gap, hpair⟩ := DigitGroups.ofList_append_pair init (not_isDigit_of_isSeparator hc) hmark
    hfraction
  have hsplit : cs = init ++ c :: mark :: f := by
    rw [hcs, hx, List.append_assoc]
    rfl
  rw [← hsplit, hlast] at hpair
  have hlen := congrArg (fun g => g.1.length) (Option.some.inj hpair)
  simp at hlen

/-! ### The same quantity -/

/-- A text stands for the same quantity as a number: its digits are the same, and so is its
fraction, or it has a fraction of one or two digits where the number has none. -/
structure SameQuantity (n q : Number) : Prop where
  digits : q.digits = n.digits
  fraction : match n.fraction with
    | some f => q.fraction = some f
    | none => ∀ f, q.fraction = some f → f.length = 1 ∨ f.length = 2

/-- The digits are those of the number, but only one of both has a fraction. -/
structure Regrouped (n q : Number) : Prop where
  digits : q.digits ++ q.fraction.getD [] = n.digits ++ n.fraction.getD []
  fraction : q.fraction.isSome ≠ n.fraction.isSome

/-- **What a number accepts is read as the same quantity, unless the digits are regrouped.** -/
theorem sameQuantity_iff {n : Number} (hn : n.Readable) {u : List Char} (hu : n.Accepts u) :
    SameQuantity n (of u) ↔ ¬Regrouped n (of u) := by
  obtain ⟨x, y, hx, hy, rfl⟩ := hu
  obtain ⟨digits, fraction⟩ := n
  have hw : Written x := hx.written hn.digits hn.digits_ne_nil
  have hfilter : x.filter Char.isDigit = digits := hx.filter hn.digits
  cases fraction with
  | some f =>
      obtain ⟨mark, hm, rfl⟩ := hy
      obtain ⟨hne, hf⟩ := hn.fraction f rfl
      have hkeep : (of (x ++ mark :: f)).digits ++ (of (x ++ mark :: f)).fraction.getD [] =
          digits ++ f := by
        rw [(hw.append_mark hm hne hf).digits, filter_append_mark hm hf, hfilter]
      constructor
      · rintro ⟨-, hsame⟩ ⟨-, hone⟩
        exact hone (congrArg Option.isSome hsame)
      · intro hnot
        cases hq : (of (x ++ mark :: f)).fraction with
        | none => exact absurd ⟨hkeep, by rw [hq]; simp⟩ hnot
        | some g =>
            obtain rfl := hw.fraction_mark hm hne hf hq
            rw [hq] at hkeep
            exact ⟨List.append_cancel_right hkeep, hq⟩
  | none =>
      rcases hy with rfl | ⟨mark, ds, hm, hlen, hds, rfl⟩
      · rw [List.append_nil]
        have hkeep : (of x).digits ++ (of x).fraction.getD [] = digits := by
          rw [hw.digits, hfilter]
        constructor
        · rintro ⟨hsame, -⟩ ⟨-, hone⟩
          obtain ⟨g, hg⟩ : ∃ g, (of x).fraction = some g :=
            Option.ne_none_iff_exists'.mp (by simpa using hone)
          rw [hg, hsame] at hkeep
          exact hw.fraction_ne_nil hg (List.append_right_eq_self.mp hkeep)
        · intro hnot
          cases hq : (of x).fraction with
          | none =>
              rw [hq] at hkeep
              exact ⟨by simpa using hkeep, by simp [hq]⟩
          | some g => exact absurd ⟨by simpa using hkeep, by rw [hq]; simp⟩ hnot
      · have hne : ds ≠ [] := by
          rintro rfl
          simp at hlen
        have hq := hw.fraction_eq hm hne hds (by omega)
        have hkeep : (of (x ++ mark :: ds)).digits ++ ds = digits ++ ds := by
          have := (hw.append_mark hm hne hds).digits
          rwa [hq, filter_append_mark hm hds, hfilter] at this
        have hsame := List.append_cancel_right hkeep
        refine iff_of_true ⟨hsame, ?_⟩ ?_
        · intro f hf
          rw [hq] at hf
          cases hf
          exact hlen
        · rintro ⟨hall, -⟩
          rw [hq, hsame] at hall
          exact hne (List.append_cancel_left hall)

end Number

end TextMasking
