import TextMasking.Proofs.Matching.Quantity
import TextMasking.Proofs.Matching.Reported
import TextMasking.Proofs.Matching.Words

/-! # The grammar of literal rules

A text stands for a literal rule between two others (`Rule.Stands`) if the pieces of the pattern
accept it and its neighbours are what the rule asks for: a number at the end of the pattern also ends
the number in the text (`Number.endsBefore`), and a whole word has no word character beside it.  A
matcher finds a body just where such a text stands (`Matcher.fits_iff_stands`), so all matches of the
rule stand for it, and a rule that does not ask for a whole word matches wherever a text stands for
it (`Matcher.matches_grammar`). -/

namespace TextMasking

open Unicode

/-! ### Patterns that end in a number -/

namespace Piece

theorem ofPattern_ne_nil {cs : List Char} (h : cs ≠ []) : ofPattern cs ≠ [] := by
  obtain ⟨c, rest, rfl⟩ := List.exists_cons_of_ne_nil h
  rw [ofPattern]
  split <;> exact List.cons_ne_nil _ _

theorem endsInNumber_cons {p : Piece} {pieces : List Piece} (h : pieces ≠ []) :
    endsInNumber (p :: pieces) = endsInNumber pieces := by
  obtain ⟨q, rest, rfl⟩ := List.exists_cons_of_ne_nil h
  rw [endsInNumber, endsInNumber, List.getLast?_cons_cons]

/-- A pattern ends in a number if its last character is a digit. -/
theorem endsInNumber_ofPattern (cs : List Char) :
    endsInNumber (ofPattern cs) = cs.getLast?.any Char.isDigit := by
  induction cs using pattern_induction with
  | nil =>
      rw [ofPattern]
      rfl
  | char c rest hc ih =>
      rw [ofPattern_cons_char hc]
      cases rest with
      | nil => simp [ofPattern, endsInNumber, hc]
      | cons d rest =>
          rw [endsInNumber_cons (ofPattern_ne_nil (List.cons_ne_nil d rest)), ih,
            List.getLast?_cons_cons]
  | number c rest after hc hcut hpieces ih =>
      rw [hpieces, hcut, List.getLast?_append]
      cases after with
      | nil =>
          obtain ⟨init, d, hlast, hd⟩ := (Number.written_stretch rest hc).last
          rw [hlast]
          simp [ofPattern, endsInNumber, hd]
      | cons d after =>
          rw [endsInNumber_cons (ofPattern_ne_nil (List.cons_ne_nil d after)), ih,
            List.getLast?_cons, Option.some_or]

end Piece

/-! ### Edges -/

/-- Neither a digit nor a decimal mark with a digit comes next. -/
def Number.endsBefore : List Char → Bool
  | [] => true
  | c :: rest => !c.isDigit && !(isDecimalMark c && rest.head?.any Char.isDigit)

theorem clear_iff {s : CharSet} {text : List Char} {pos : Nat} :
    Clear s text pos ↔ text[pos]?.any s.holds = false := by
  unfold Clear
  cases text[pos]? <;> simp

theorem holds_asciiWord_of_isDigit {c : Char} (h : c.isDigit = true) :
    CharSet.asciiWord.holds c = true := by
  have hall : ("0123456789".toList.all CharSet.asciiWord.holds) = true := by decide
  exact List.all_eq_true.mp hall c (mem_digits_of_isDigit h)

theorem not_holds_asciiWord_of_isDecimalMark {c : Char} (h : isDecimalMark c = true) :
    CharSet.asciiWord.holds c = false := by
  simp only [isDecimalMark, Bool.or_eq_true, beq_iff_eq] at h
  rcases h with rfl | rfl
  · decide
  · decide

theorem Number.holds_asciiDigit_eq : CharSet.asciiDigit.holds = Char.isDigit :=
  funext holds_asciiDigit

/-- What a number asks for behind it, beside the characters of a set with the digits. -/
theorem number_closes_iff {s : CharSet} {text : List Char} {stop : Nat}
    (hdigit : ∀ c, c.isDigit = true → s.holds c = true)
    (hmark : ∀ c, isDecimalMark c = true → s.holds c = false) :
    (Clear (.union s Number.markSet) text stop ∨
      ∃ c, text[stop]? = some c ∧ isDecimalMark c = true ∧ Clear .asciiDigit text (stop + 1)) ↔
    text[stop]?.any s.holds = false ∧ Number.endsBefore (text.drop stop) = true := by
  rw [clear_iff, clear_iff]
  cases hdrop : text.drop stop with
  | nil => simp [getElem?_of_drop_eq_nil hdrop, Number.endsBefore]
  | cons c rest =>
      obtain ⟨hc, hrest, -⟩ := drop_eq_cons hdrop
      have hnext : text[stop + 1]? = rest.head? := by rw [← List.head?_drop, hrest]
      rw [hc, hnext, Number.holds_asciiDigit_eq, Number.endsBefore]
      simp only [Option.any_some, CharSet.holds_union, Number.holds_markSet, Option.some.injEq,
        exists_eq_left', Bool.or_eq_false_iff, Bool.and_eq_true, Bool.not_eq_true']
      cases hm : isDecimalMark c with
      | false =>
          have := hdigit c
          cases hd : c.isDigit <;> simp_all
      | true =>
          have := not_isDigit_of_isSeparator (isSeparator_of_isDecimalMark hm)
          simp [hmark c hm, this]

theorem not_isDigit_of_endsBefore {text : List Char} {stop : Nat}
    (h : Number.endsBefore (text.drop stop) = true) : text[stop]?.any Char.isDigit = false := by
  rw [← List.head?_drop]
  cases hdrop : text.drop stop with
  | nil => rfl
  | cons c rest =>
      rw [hdrop, Number.endsBefore, Bool.and_eq_true, Bool.not_eq_true'] at h
      exact h.1

/-- What a rule asks for behind a body, for whole words and for numbers. -/
theorem closes_iff_edges {wholeWord number : Bool} {text : List Char} {stop : Nat} :
    Closes wholeWord number text stop ↔ (wholeWord = true → wordAt text stop = false) ∧
      (number = true → Number.endsBefore (text.drop stop) = true) := by
  cases wholeWord <;> cases number
  · simp [Closes]
  · refine (number_closes_iff (by simp [Number.holds_asciiDigit]) fun c hm => ?_).trans ?_
    · rw [Number.holds_asciiDigit]
      exact not_isDigit_of_isSeparator (isSeparator_of_isDecimalMark hm)
    · rw [Number.holds_asciiDigit_eq]
      simpa using not_isDigit_of_endsBefore
  · simp [Matcher.closes_iff]
  · refine (number_closes_iff (fun c => holds_asciiWord_of_isDigit) fun c =>
      not_holds_asciiWord_of_isDecimalMark).trans ?_
    simp [wordAt]

/-! ### Texts that stand for a rule -/

/-- Between the two others, the text in the middle is a spelling of the pattern with the edges that
the rule asks for: no word character beside a whole word, and a number at the end of the pattern
ends the number in the text. -/
structure Rule.Stands (rule : Rule) (left body right : List Char) : Prop where
  accepts : Piece.AllAccept (!rule.caseSensitive) (Matcher.pieces rule) body
  before : rule.wholeWord = true → left.getLast?.any CharSet.asciiWord.holds = false
  behind : rule.wholeWord = true → right.head?.any CharSet.asciiWord.holds = false
  ends : rule.pattern.toList.getLast?.any Char.isDigit = true → Number.endsBefore right = true

theorem charBefore_append (left rest : List Char) :
    charBefore (left ++ rest) left.length = left.getLast? := by
  rcases List.eq_nil_or_concat left with rfl | ⟨init, c, rfl⟩
  · rfl
  · rw [charBefore, if_neg (by simp)]
    simp

theorem getElem?_append_length (left rest : List Char) :
    (left ++ rest)[left.length]? = rest.head? := by
  rw [← List.head?_drop, List.drop_left]

namespace Matcher

variable {rule : Rule} {text : List Char} {pos : Nat} {body : Span}

/-- Where a search has to stand for a body that comes after the characters. -/
def Reaches (rule : Rule) (pos : Nat) (left : List Char) : Prop :=
  rule.wholeWord = false ∧ left.length = pos ∨
    rule.wholeWord = true ∧ (pos = 0 ∧ left = [] ∨ left.length = pos + 1)

theorem wordBefore_append (left rest : List Char) :
    wordBefore (left ++ rest) left.length = left.getLast?.any CharSet.asciiWord.holds := by
  rw [wordBefore, charBefore_append]

theorem wordAt_append (left rest : List Char) :
    wordAt (left ++ rest) left.length = rest.head?.any CharSet.asciiWord.holds := by
  rw [wordAt, getElem?_append_length]

/-- What is asked for before a body, for the character there and for the search. -/
theorem opens_append_iff {left rest : List Char} :
    Opens rule.wholeWord (left ++ rest) pos left.length ↔
      (rule.wholeWord = true → left.getLast?.any CharSet.asciiWord.holds = false) ∧
        Reaches rule pos left := by
  have hlt (h : left.length = pos + 1) : pos < (left ++ rest).length := by
    rw [List.length_append]
    omega
  rw [opens_iff, wordBefore_append, Reaches]
  cases rule.wholeWord with
  | false => simp
  | true =>
      simp only [Bool.true_eq_false, false_and, false_or, true_and, forall_const,
        List.length_eq_zero_iff]
      exact and_congr_right fun _ => or_congr_right ⟨And.left, fun h => ⟨h, hlt h⟩⟩

/-- **A body fits just where a text stands for the rule,** and the search stands for it. -/
theorem fits_iff_stands (hpos : pos ≤ text.length) : Fits rule text pos body ↔
    ∃ left u right, text = left ++ u ++ right ∧ body = ⟨left.length, (left ++ u).length⟩ ∧
      rule.Stands left u right ∧ Reaches rule pos left := by
  have hnumber : Piece.endsInNumber (pieces rule) = _ :=
    Piece.endsInNumber_ofPattern rule.pattern.toList
  constructor
  · rintro ⟨hopens, ⟨u, hu, ⟨right, hright⟩, hstop⟩, hcloses⟩
    obtain ⟨start, stop⟩ := body
    dsimp only at hopens hright hstop hcloses
    have hlen : start ≤ text.length := by
      rcases opens_iff.mp hopens with ⟨-, rfl⟩ | ⟨-, -, h⟩
      · exact hpos
      · omega
    obtain ⟨left, rest, rfl, rfl⟩ : ∃ left rest, text = left ++ rest ∧ start = left.length :=
      ⟨text.take start, text.drop start, (List.take_append_drop start text).symm, by simp [hlen]⟩
    rw [List.drop_left] at hright
    subst hright
    obtain ⟨hbefore, hreaches⟩ := opens_append_iff.mp hopens
    rw [← List.append_assoc, hstop, ← List.length_append, hnumber, closes_iff_edges, wordAt_append,
      List.drop_left] at hcloses
    exact ⟨left, u, right, (List.append_assoc _ _ _).symm, by rw [hstop, List.length_append],
      ⟨hu, hbefore, hcloses.1, hcloses.2⟩, hreaches⟩
  · rintro ⟨left, u, right, rfl, rfl, ⟨haccepts, hbefore, hbehind, hends⟩, hreaches⟩
    refine ⟨?_, ⟨u, haccepts, ⟨right, ?_⟩, List.length_append⟩, ?_⟩
    · rw [List.append_assoc]
      exact opens_append_iff.mpr ⟨hbefore, hreaches⟩
    · rw [List.append_assoc, List.drop_left]
    · rw [hnumber, closes_iff_edges, wordAt_append, List.drop_left]
      exact ⟨hbehind, hends⟩

/-- A search finds something just where a text stands for the rule. -/
theorem isSome_preferred_iff (hpos : pos ≤ text.length) :
    ((ofLiteral rule).regex.preferred text pos).isSome = true ↔ ∃ left u right,
      text = left ++ u ++ right ∧ rule.Stands left u right ∧ Reaches rule pos left := by
  constructor
  · intro h
    by_contra hno
    rw [preferred_eq_none hpos fun body hfits => ?_] at h
    · cases h
    · obtain ⟨left, u, right, htext, -, hstands, hreaches⟩ := (fits_iff_stands hpos).mp hfits
      exact hno ⟨left, u, right, htext, hstands, hreaches⟩
  · rintro ⟨left, u, right, htext, hstands, hreaches⟩
    have hfits := (fits_iff_stands hpos).mpr ⟨left, u, right, htext, rfl, hstands, hreaches⟩
    obtain ⟨-, -, found, hfound, -⟩ := exists_bodyAt_of_fits hpos hfits
    rw [hfound]
    rfl

/-- What a match takes of a whole, in which texts surround its own. -/
theorem exists_cuts_of_isAt {x : TextMatch} {before text after left u right : List Char}
    (h : x.IsAt before text ⟨left.length, (left ++ u).length⟩)
    (hwhole : before ++ text ++ after = left ++ u ++ right) :
    ∃ left' right', x.Cuts text left' u right' ∧ left = before ++ left' ∧
      right = right' ++ after := by
  obtain ⟨left', body, right', hcuts, hs⟩ := h
  obtain ⟨hstart, hstop⟩ := Span.mk.inj hs
  have hsplit : before ++ left' ++ (body ++ (right' ++ after)) = left ++ (u ++ right) := by
    rw [← List.append_assoc left, ← hwhole, hcuts.text_eq]
    simp only [List.append_assoc]
  obtain ⟨rfl, hrest⟩ := List.append_inj hsplit (by rw [List.length_append, hstart])
  obtain ⟨rfl, rfl⟩ := List.append_inj hrest (by simp only [List.length_append] at hstop; omega)
  exact ⟨left', right', hcuts, rfl, rfl⟩

/-- **A literal rule matches its grammar.**  Each match of a scan stands for the rule between what
comes before and after it in the whole text; and unless the rule asks for a whole word, its
expression has a match wherever a text stands for the rule, and only there. -/
theorem matches_grammar {m : Matcher} (h : compile rule = .ok m) (hlit : rule.isRegex = false) :
    (∀ (before text after : String) (options : Options) (found : List TextMatch),
      m.scan before text after options = .ok found →
        ∀ x ∈ found, ∃ left body right, x.Cuts text.toList left body right ∧
          rule.Stands (before.toList ++ left) body (right ++ after.toList)) ∧
    (rule.wholeWord = false → ∀ left rest,
      (m.regex.preferred (left ++ rest) left.length).isSome = true ↔
        ∃ u right, rest = u ++ right ∧ rule.Stands left u right) := by
  obtain rfl := ofLiteral_of_compile h hlit
  constructor
  · intro before text after options found hscan x hx
    obtain ⟨spans, hspans, htaken, -⟩ := exists_isAt_of_scan hscan
    obtain ⟨s, hs, hat⟩ := htaken x hx
    obtain ⟨pos, hbody⟩ := (scans_of_scanFrom hspans).exists_bodyAt hs
    obtain ⟨left, u, right, hwhole, rfl, hstands, -⟩ :=
      (fits_iff_stands hbody.1).mp (fits_of_bodyAt hbody)
    obtain ⟨left', right', hcuts, rfl, rfl⟩ := exists_cuts_of_isAt hat hwhole
    exact ⟨left', u, right', hcuts, hstands⟩
  · intro hplain left rest
    rw [isSome_preferred_iff (by simp)]
    constructor
    · rintro ⟨left', u, right, hwhole, hstands, ⟨-, hlen⟩ | ⟨hword, -⟩⟩
      · rw [List.append_assoc] at hwhole
        obtain ⟨rfl, rfl⟩ := List.append_inj hwhole hlen.symm
        exact ⟨u, right, rfl, hstands⟩
      · rw [hplain] at hword
        cases hword
    · rintro ⟨u, right, rfl, hstands⟩
      exact ⟨left, u, right, (List.append_assoc _ _ _).symm, hstands, .inl ⟨hplain, rfl⟩⟩

/-- A price is found with the cents that stand in the text, in front of a point that ends it. -/
theorem matches_grammar_price :
    let rule := Rule.literal "EUR 5" "X"
    let x : TextMatch := ⟨3, 11, "eur 5,90", "X", "EUR 5"⟩
    (ofLiteral rule).scan "" "at eur 5,90." "" .default = .ok [x] ∧
      (∃ left body right, x.Cuts "at eur 5,90.".toList left body right ∧
        rule.Stands left body right) ∧
      ∃ u right, "eur 5,90.".toList = u ++ right ∧ rule.Stands "at ".toList u right := by
  intro rule x
  have hscan : (ofLiteral rule).scan "" "at eur 5,90." "" .default = .ok [x] := by decide +kernel
  obtain ⟨hstands, hfinds⟩ :=
    matches_grammar (show compile (.literal "EUR 5" "X") = .ok _ from rfl) rfl
  refine ⟨hscan, ?_, (hfinds rfl "at ".toList "eur 5,90.".toList).mp (by decide +kernel)⟩
  simpa using hstands "" "at eur 5,90." "" .default _ hscan x List.mem_cons_self

end Matcher

end TextMasking
