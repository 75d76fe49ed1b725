import TextMasking.Proofs.Matching.Spelling
import TextMasking.Proofs.Unicode.Variants

/-! # Words in a text

A literal rule whose pattern has neither white space nor digits looks for a word: all its matches
have as many characters as the pattern, and lie within one line.  Where such a rule occurs is
decided by the characters there and the two around them (`Rule.occurs`), and a scan takes the
occurrences from the left to the right (`Rule.occurrences`, `Matcher.spans_ofLiteral`).

A rule that asks for a whole word can find its pattern only where the search stands one character
before, or at the start of the text.  There it prefers to find it at once, and if it drops that
match, it does not come back for the one behind the first character.  This does not matter if the
first character of every match is a word character, for then there is no such match.  The pattern
begins with an ASCII letter or an underscore, so this is true unless letter case is ignored and the
letter has a stray variant (`Rule.StartsInAscii`). -/

namespace TextMasking

open Unicode

namespace Rule

/-- A literal rule that looks for a word: the pattern has neither white space nor digits, and begins
with a letter or an underscore if a whole word is asked for. -/
structure IsWord (rule : Rule) : Prop where
  literal : rule.isRegex = false
  solid : ∀ c ∈ rule.pattern.toList, isBlank c = false ∧ c.isDigit = false
  first : rule.wholeWord = true → ∀ c ∈ rule.pattern.toList.head?, isLetterLike c = true

/-- If a whole word is asked for, its first letter is an ASCII letter in every case. -/
def StartsInAscii (rule : Rule) : Prop :=
  rule.wholeWord = true → rule.caseSensitive = false →
    ∀ c ∈ rule.pattern.toList.head?, c ∉ strayLetters

instance (rule : Rule) : Decidable rule.IsWord :=
  decidable_of_iff
    (rule.isRegex = false ∧
      (rule.pattern.toList.all fun c => !isBlank c && !c.isDigit) = true ∧
      (rule.wholeWord = true → rule.pattern.toList.head?.all isLetterLike = true))
    ⟨fun ⟨h, hs, hf⟩ => ⟨h, by simpa using hs, by simpa [Option.all_eq_true] using hf⟩,
      fun h => ⟨h.literal, by simpa using h.solid, by simpa [Option.all_eq_true] using h.first⟩⟩

instance (rule : Rule) : Decidable rule.StartsInAscii :=
  decidable_of_iff
    (rule.wholeWord = true → rule.caseSensitive = false →
      (rule.pattern.toList.head?.all fun c => !strayLetters.contains c) = true)
    (by simp [StartsInAscii, Option.all_eq_true])

/-- The number of characters of every match of a word. -/
def size (rule : Rule) : Nat := rule.pattern.toList.length

end Rule

/-! ### Occurrences -/

/-- The text begins with the characters, in either case if `fold`. -/
def startsWith (fold : Bool) : List Char → List Char → Bool
  | [], _ => true
  | _ :: _, [] => false
  | c :: cs, d :: text =>
    (if fold then CharSet.folded (.char c) else .char c).holds d && startsWith fold cs text

/-- A word character stands before the position. -/
def wordBefore (text : List Char) (pos : Nat) : Bool :=
  (charBefore text pos).any CharSet.asciiWord.holds

/-- A word character stands at the position. -/
def wordAt (text : List Char) (pos : Nat) : Bool :=
  text[pos]?.any CharSet.asciiWord.holds

@[simp] theorem wordBefore_succ (text : List Char) (pos : Nat) :
    wordBefore text (pos + 1) = wordAt text pos := rfl

namespace Rule

/-- The word stands at the position. -/
def occurs (rule : Rule) (text : List Char) (pos : Nat) : Bool :=
  startsWith (!rule.caseSensitive) rule.pattern.toList (text.drop pos) &&
    (!rule.wholeWord || !wordBefore text pos && !wordAt text (pos + rule.size))

/-- The occurrences from `lo` on that end at `hi` at the latest, one behind the other. -/
def occurrences (rule : Rule) (text : List Char) (lo hi : Nat) : List Span :=
  if _h : 0 < rule.size ∧ lo + rule.size ≤ hi then
    if rule.occurs text lo then
      ⟨lo, lo + rule.size⟩ :: occurrences rule text (lo + rule.size) hi
    else occurrences rule text (lo + 1) hi
  else []
termination_by hi - lo

end Rule

/-! ### Where a word is found -/

theorem Piece.ofPattern_eq_map {cs : List Char} (h : ∀ c ∈ cs, c.isDigit = false) :
    ofPattern cs = cs.map .char := by
  induction cs with
  | nil => rw [ofPattern, List.map_nil]
  | cons c cs ih =>
      obtain ⟨hc, hcs⟩ := List.forall_mem_cons.mp h
      rw [ofPattern_cons_char hc, ih hcs, List.map_cons]

theorem length_of_allAccept {fold : Bool} {cs u : List Char}
    (h : Piece.AllAccept fold (cs.map .char) u) : u.length = cs.length := by
  induction cs generalizing u with
  | nil =>
      obtain rfl : u = [] := h
      rfl
  | cons c cs ih =>
      obtain ⟨_, y, ⟨d, rfl, -⟩, hy, rfl⟩ := h
      simp [ih hy]

/-- The text begins with what the characters of a pattern accept. -/
theorem startsWith_iff {fold : Bool} {cs text : List Char} :
    startsWith fold cs text = true ↔ ∃ u, Piece.AllAccept fold (cs.map .char) u ∧ u <+: text := by
  induction cs generalizing text with
  | nil => exact iff_of_true rfl ⟨[], rfl, List.nil_prefix⟩
  | cons c cs ih =>
      cases text with
      | nil =>
          refine iff_of_false Bool.false_ne_true ?_
          rintro ⟨_, ⟨_, y, ⟨d, rfl, -⟩, -, rfl⟩, hp⟩
          cases List.prefix_nil.mp hp
      | cons d text =>
          rw [startsWith, Bool.and_eq_true, ih]
          constructor
          · rintro ⟨hd, y, hy, hp⟩
            exact ⟨d :: y, ⟨[d], y, ⟨d, rfl, hd⟩, hy, rfl⟩, List.cons_prefix_cons.mpr ⟨rfl, hp⟩⟩
          · rintro ⟨_, ⟨_, y, ⟨e, rfl, he⟩, hy, rfl⟩, hp⟩
            obtain ⟨rfl, hp'⟩ := List.cons_prefix_cons.mp (show e :: y <+: d :: text from hp)
            exact ⟨he, y, hy, hp'⟩

/-- Each character of a pattern stands for one of the text. -/
theorem exists_standsFor {fold : Bool} {cs text : List Char} (h : startsWith fold cs text = true)
    {i : Nat} (hi : i < cs.length) :
    ∃ c ∈ cs, ∃ d, text[i]? = some d ∧ Piece.StandsFor fold c d := by
  induction cs generalizing text i with
  | nil => cases hi
  | cons c cs ih =>
      cases text with
      | nil => cases h
      | cons d text =>
          obtain ⟨hd, hrest⟩ := Bool.and_eq_true_iff.mp h
          cases i with
          | zero => exact ⟨c, List.mem_cons_self, d, rfl, hd⟩
          | succ i =>
              obtain ⟨c', hc', d', hd', hstands⟩ := ih hrest (Nat.lt_of_succ_lt_succ hi)
              exact ⟨c', List.mem_cons_of_mem c hc', d', hd', hstands⟩

/-- A character that is not white space stands for none, whatever the case. -/
theorem Piece.StandsFor.not_isBlank {fold : Bool} {c d : Char} (h : StandsFor fold c d)
    (hc : isBlank c = false) : isBlank d = false := by
  cases hd : isBlank d with
  | false => rfl
  | true =>
      rw [← h.eq_of_caseVariants (caseVariants_of_isBlank hd), hd] at hc
      cases hc

/-- There is no white space in an occurrence. -/
theorem Rule.IsWord.exists_of_occurs {rule : Rule} (hw : rule.IsWord) {text : List Char}
    {pos : Nat} (h : rule.occurs text pos = true) {i : Nat} (hi : i < rule.size) :
    ∃ c, text[pos + i]? = some c ∧ isBlank c = false := by
  have hstart := (Bool.and_eq_true_iff.mp h).1
  obtain ⟨c, hc, d, hd, hstands⟩ := exists_standsFor hstart hi
  rw [List.getElem?_drop] at hd
  exact ⟨d, hd, hstands.not_isBlank (hw.solid c hc).1⟩

/-- The first character of an occurrence of a whole word is a word character. -/
theorem Rule.IsWord.wordAt_of_occurs {rule : Rule} (hw : rule.IsWord) (hs : rule.StartsInAscii)
    (hne : rule.pattern.toList ≠ []) (hwhole : rule.wholeWord = true) {text : List Char} {pos : Nat}
    (h : rule.occurs text pos = true) : wordAt text pos = true := by
  have hstart := (Bool.and_eq_true_iff.mp h).1
  obtain ⟨c, cs, hcs⟩ := List.exists_cons_of_ne_nil hne
  have hc : isLetterLike c = true := hw.first hwhole c (by rw [hcs]; rfl)
  rw [hcs] at hstart
  cases hdrop : text.drop pos with
  | nil =>
      rw [hdrop] at hstart
      cases hstart
  | cons d rest =>
      rw [hdrop, startsWith, Bool.and_eq_true] at hstart
      have hat : text[pos]? = some d := by
        rw [← List.head?_drop, hdrop, List.head?_cons]
      rw [wordAt, hat, Option.any_some]
      have hd := hstart.1
      cases hcase : rule.caseSensitive with
      | true =>
          rw [hcase] at hd
          rw [beq_iff_eq.mp (show (d == c) = true from hd)]
          exact holds_asciiWord_of_isLetterLike hc
      | false =>
          rw [hcase] at hd
          rcases Bool.or_eq_true_iff.mp hd with hd | hd
          · rw [beq_iff_eq.mp (show (d == c) = true from hd)]
            exact holds_asciiWord_of_isLetterLike hc
          · obtain ⟨e, he, hec⟩ := List.any_eq_true.mp hd
            obtain rfl : e = c := beq_iff_eq.mp hec
            exact holds_asciiWord_of_mem_caseVariants hc
              (hs hwhole hcase e (by rw [hcs]; rfl)) he

namespace Matcher

variable {rule : Rule} {text : List Char} {pos : Nat} {body : Span}

theorem pieces_of_isWord (hw : rule.IsWord) : pieces rule = rule.pattern.toList.map .char :=
  Piece.ofPattern_eq_map fun c hc => (hw.solid c hc).2

theorem endsInNumber_of_isWord (hw : rule.IsWord) :
    Piece.endsInNumber (pieces rule) = false := by
  rw [pieces_of_isWord hw, Piece.endsInNumber, List.getLast?_map]
  cases rule.pattern.toList.getLast? <;> rfl

theorem opens_iff {wholeWord : Bool} {start : Nat} :
    Opens wholeWord text pos start ↔ (wholeWord = false ∧ start = pos) ∨
      (wholeWord = true ∧ wordBefore text start = false ∧
        (pos = 0 ∧ start = 0 ∨ start = pos + 1 ∧ pos < text.length)) := by
  cases wholeWord with
  | false => simp [Opens]
  | true =>
      simp only [Opens, Bool.true_eq_false, false_and, false_or, true_and]
      constructor
      · rintro (⟨rfl, rfl⟩ | ⟨rfl, c, hc, hword⟩)
        · exact ⟨rfl, .inl ⟨rfl, rfl⟩⟩
        · refine ⟨?_, .inr ⟨rfl, (List.getElem?_eq_some_iff.mp hc).1⟩⟩
          rw [wordBefore_succ, wordAt, hc, Option.any_some, hword]
      · rintro ⟨hword, ⟨rfl, rfl⟩ | ⟨rfl, hlt⟩⟩
        · exact .inl ⟨rfl, rfl⟩
        · rw [wordBefore_succ, wordAt, List.getElem?_eq_getElem hlt, Option.any_some] at hword
          exact .inr ⟨rfl, _, List.getElem?_eq_getElem hlt, hword⟩

theorem closes_iff {wholeWord : Bool} {stop : Nat} :
    Closes wholeWord false text stop ↔ (!wholeWord || !wordAt text stop) = true := by
  cases wholeWord with
  | false => simp [Closes]
  | true =>
      rw [Closes, Clear, wordAt, Bool.not_true, Bool.false_or]
      cases text[stop]? <;> simp

/-- A word fits where it occurs. -/
theorem fits_iff (hw : rule.IsWord) : Fits rule text pos body ↔
    rule.occurs text body.start = true ∧ body.stop = body.start + rule.size ∧
      Opens rule.wholeWord text pos body.start := by
  have hocc (start : Nat) : rule.occurs text start = true ↔
      (startsWith (!rule.caseSensitive) rule.pattern.toList (text.drop start) = true ∧
        (rule.wholeWord = true → wordBefore text start = false)) ∧
          (!rule.wholeWord || !wordAt text (start + rule.size)) = true := by
    rw [Rule.occurs]
    cases rule.wholeWord <;> simp [and_assoc]
  rw [hocc, startsWith_iff]
  constructor
  · rintro ⟨hopens, ⟨u, hu, hp, hstop⟩, hcloses⟩
    rw [pieces_of_isWord hw] at hu
    rw [endsInNumber_of_isWord hw, closes_iff] at hcloses
    rw [length_of_allAccept hu] at hstop
    refine ⟨⟨⟨⟨u, hu, hp⟩, fun hwhole => ?_⟩, ?_⟩, hstop, hopens⟩
    · rcases opens_iff.mp hopens with ⟨hnot, -⟩ | ⟨-, hword, -⟩
      · rw [hwhole] at hnot
        cases hnot
      · exact hword
    · rw [Rule.size, ← hstop]
      exact hcloses
  · rintro ⟨⟨⟨⟨u, hu, hp⟩, -⟩, hcloses⟩, hstop, hopens⟩
    refine ⟨hopens, ⟨u, ?_, hp, ?_⟩, ?_⟩
    · rwa [pieces_of_isWord hw]
    · rw [hstop, length_of_allAccept hu, Rule.size]
    · rw [endsInNumber_of_isWord hw, closes_iff, hstop]
      exact hcloses

theorem wordBefore_of_occurs (hwhole : rule.wholeWord = true) {start : Nat}
    (h : rule.occurs text start = true) : wordBefore text start = false := by
  simp only [Rule.occurs, hwhole, Bool.not_true, Bool.false_or, Bool.and_eq_true,
    Bool.not_eq_true'] at h
  exact h.2.1

theorem lt_length_of_occurs (hne : rule.pattern.toList ≠ []) {start : Nat}
    (h : rule.occurs text start = true) : start < text.length := by
  have hstart := (Bool.and_eq_true_iff.mp h).1
  obtain ⟨c, cs, hcs⟩ := List.exists_cons_of_ne_nil hne
  refine Nat.lt_of_not_le fun hle => ?_
  rw [List.drop_eq_nil_of_le hle, hcs] at hstart
  cases hstart

theorem resume_ofLiteral (start : Nat) : (ofLiteral rule).resume start =
    if rule.wholeWord = true then start - 1 else start := rfl

/-- The search has one place for each occurrence: a word that could be found in two places begins
with a word character and with none. -/
theorem eq_of_resume_eq (hw : rule.IsWord) (hs : rule.StartsInAscii)
    (hne : rule.pattern.toList ≠ []) {s s' : Nat} (h : rule.occurs text s = true)
    (h' : rule.occurs text s' = true)
    (heq : (ofLiteral rule).resume s = (ofLiteral rule).resume s') : s = s' := by
  have hclash (hwhole : rule.wholeWord = true) (h₀ : rule.occurs text 0 = true)
      (h₁ : rule.occurs text 1 = true) : False := by
    have hword := hw.wordAt_of_occurs hs hne hwhole h₀
    rw [← wordBefore_succ, wordBefore_of_occurs hwhole h₁] at hword
    cases hword
  rw [resume_ofLiteral, resume_ofLiteral] at heq
  cases hwhole : rule.wholeWord with
  | false =>
      rw [hwhole, if_neg Bool.false_ne_true, if_neg Bool.false_ne_true] at heq
      exact heq
  | true =>
      rw [hwhole, if_pos rfl, if_pos rfl] at heq
      by_contra hdiff
      rcases (by omega : s = 0 ∧ s' = 1 ∨ s = 1 ∧ s' = 0) with ⟨rfl, rfl⟩ | ⟨rfl, rfl⟩
      · exact hclash hwhole h h'
      · exact hclash hwhole h' h

/-- **A search finds the occurrences of a word:** each one where the search has to stand for it, and
nothing else. -/
theorem bodyAt_iff (hw : rule.IsWord) (hs : rule.StartsInAscii) (hne : rule.pattern.toList ≠ []) :
    (ofLiteral rule).BodyAt text pos body ↔ rule.occurs text body.start = true ∧
      body.stop = body.start + rule.size ∧ pos = (ofLiteral rule).resume body.start := by
  have hforth {body : Span} (h : (ofLiteral rule).BodyAt text pos body) :
      rule.occurs text body.start = true ∧ body.stop = body.start + rule.size ∧
        pos = (ofLiteral rule).resume body.start := by
    obtain ⟨hocc, hstop, hopens⟩ := (fits_iff hw).mp (fits_of_bodyAt h)
    refine ⟨hocc, hstop, ?_⟩
    rw [resume_ofLiteral]
    rcases opens_iff.mp hopens with ⟨hnot, hpos⟩ | ⟨hwhole, -, hpos⟩
    · rw [hnot, if_neg Bool.false_ne_true, hpos]
    · rw [hwhole, if_pos rfl]
      omega
  refine ⟨hforth, ?_⟩
  rintro ⟨hocc, hstop, hpos⟩
  have hlt := lt_length_of_occurs hne hocc
  have hlen : pos ≤ text.length := by
    rw [hpos, resume_eq]
    omega
  have hfits : Fits rule text pos body := by
    refine (fits_iff hw).mpr ⟨hocc, hstop, opens_iff.mpr ?_⟩
    rw [resume_ofLiteral] at hpos
    cases hwhole : rule.wholeWord with
    | false =>
        rw [hwhole, if_neg Bool.false_ne_true] at hpos
        exact .inl ⟨rfl, hpos.symm⟩
    | true =>
        rw [hwhole, if_pos rfl] at hpos
        exact .inr ⟨rfl, wordBefore_of_occurs hwhole hocc, by omega⟩
  -- something is found there, and it is this occurrence
  obtain ⟨⟨start, stop⟩, hbody⟩ := exists_bodyAt_of_fits hlen hfits
  obtain ⟨hocc', hstop', hpos'⟩ := hforth hbody
  obtain rfl : start = body.start := eq_of_resume_eq hw hs hne hocc' hocc (hpos'.symm.trans hpos)
  obtain rfl : stop = body.stop := hstop'.trans hstop.symm
  exact hbody

section

variable (hw : rule.IsWord) (hs : rule.StartsInAscii) (hne : rule.pattern.toList ≠ [])

include hw hs hne

theorem bodyAt_of_occurs {s : Nat} (h : rule.occurs text s = true)
    (hpos : pos = (ofLiteral rule).resume s) :
    (ofLiteral rule).BodyAt text pos ⟨s, s + rule.size⟩ :=
  (bodyAt_iff hw hs hne).mpr ⟨h, rfl, hpos⟩

/-- A search that finds nothing stands behind the last occurrence. -/
theorem not_occurs_of_find_none {start : Nat} (hlen : start ≤ text.length)
    (h : (ofLiteral rule).regex.find text start = none) {s : Nat}
    (hstart : start ≤ (ofLiteral rule).resume s) : rule.occurs text s = false := by
  refine Bool.eq_false_iff.mpr fun hocc => ?_
  exact not_bodyAt_of_find hlen h hstart (bodyAt_of_occurs hw hs hne hocc rfl)

/-- A search finds the next occurrence. -/
theorem exists_body_of_find {start : Nat} (hlen : start ≤ text.length) {found : Match}
    (h : (ofLiteral rule).regex.find text start = some found) :
    ∃ s, found.caps.span? bodyGroup = some ⟨s, s + rule.size⟩ ∧ rule.occurs text s = true ∧
      start ≤ found.start ∧ found.start = (ofLiteral rule).resume s ∧
      ∀ s', rule.occurs text s' = true → start ≤ (ofLiteral rule).resume s' → s ≤ s' := by
  have hspec := Regex.find_spec (r := (ofLiteral rule).regex) hlen
  rw [h] at hspec
  obtain ⟨hle, hlen', hfound, hfirst⟩ := hspec
  obtain ⟨body, hbody⟩ : ∃ body, (ofLiteral rule).BodyAt text found.start body := by
    by_contra hno
    rw [preferred_eq_none hlen' fun body hfits => hno (exists_bodyAt_of_fits hlen' hfits)] at hfound
    cases hfound
  obtain ⟨hocc, hstop, hpos⟩ := (bodyAt_iff hw hs hne).mp hbody
  obtain ⟨-, found', hfound', hspan⟩ := hbody
  obtain rfl : found = found' := Option.some.inj (hfound.symm.trans hfound')
  refine ⟨body.start, by rw [hspan, ← hstop], hocc, hle, hpos, fun s' hocc' hstart => ?_⟩
  by_contra hlt
  have hbody' := bodyAt_of_occurs hw hs hne hocc' rfl
  have hresume : (ofLiteral rule).resume s' ≤ found.start := by
    rw [hpos, resume_eq, resume_eq]
    omega
  rcases Nat.eq_or_lt_of_le hresume with e | hbefore
  · rw [e] at hbody'
    exact hlt (Nat.le_of_eq (congrArg Span.start
      (BodyAt.unique hbody' ⟨hlen', found, hfound, hspan⟩)))
  · obtain ⟨-, found', hfound', -⟩ := hbody'
    rw [hfirst _ hstart hbefore] at hfound'
    cases hfound'

/-- What a search found is the next occurrence. -/
theorem body_of_find {start : Nat} (hlen : start ≤ text.length) {found : Match}
    (h : (ofLiteral rule).regex.find text start = some found)
    (hbody : found.caps.span? bodyGroup = some body) :
    ∃ s, body = ⟨s, s + rule.size⟩ ∧ rule.occurs text s = true ∧
      found.start = (ofLiteral rule).resume s ∧
      ∀ s', rule.occurs text s' = true → start ≤ (ofLiteral rule).resume s' → s ≤ s' := by
  obtain ⟨s, hspan, hocc, -, hpos, hmin⟩ := exists_body_of_find hw hs hne hlen h
  exact ⟨s, Option.some.inj (hbody.symm.trans hspan), hocc, hpos, hmin⟩

end

end Matcher

/-! ### Scans -/

theorem Span.Ordered.mono {lo lo' hi : Nat} {spans : List Span} (h : Ordered lo hi spans)
    (hle : lo' ≤ lo) : Ordered lo' hi spans := by
  cases spans with
  | nil => exact Nat.le_trans hle h
  | cons s rest => exact ⟨Nat.le_trans hle h.1, h.2⟩

namespace Rule

variable {rule : Rule} {text : List Char} {lo hi : Nat}

theorem occurrences_of_not (h : ¬(0 < rule.size ∧ lo + rule.size ≤ hi)) :
    rule.occurrences text lo hi = [] := by
  rw [occurrences, dif_neg h]

/-- Where the word does not occur, the occurrences further on are taken. -/
theorem occurrences_skip {k : Nat} (hk : lo ≤ k)
    (h : ∀ s, lo ≤ s → s < k → s + rule.size ≤ hi → rule.occurs text s = false) :
    rule.occurrences text lo hi = rule.occurrences text k hi := by
  obtain ⟨n, rfl⟩ := Nat.exists_eq_add_of_le hk
  induction n generalizing lo with
  | zero => rfl
  | succ n ih =>
      by_cases hroom : 0 < rule.size ∧ lo + rule.size ≤ hi
      · have hno := h lo (Nat.le_refl _) (by omega) hroom.2
        rw [occurrences, dif_pos hroom, if_neg (by rw [hno]; exact Bool.false_ne_true),
          ih (Nat.le_add_right _ _) fun s hle hlt => h s (by omega) (by omega)]
        congr 1
        omega
      · rw [occurrences_of_not hroom, occurrences_of_not (by omega)]

/-- The first occurrence is taken first. -/
theorem occurrences_cons (hsize : 0 < rule.size) {s : Nat} (hs : lo ≤ s)
    (hroom : s + rule.size ≤ hi) (hocc : rule.occurs text s = true)
    (h : ∀ s', lo ≤ s' → s' + rule.size ≤ hi → rule.occurs text s' = true → s ≤ s') :
    rule.occurrences text lo hi =
      ⟨s, s + rule.size⟩ :: rule.occurrences text (s + rule.size) hi := by
  rw [occurrences_skip hs, occurrences, dif_pos ⟨hsize, hroom⟩, if_pos hocc]
  intro s' hle hlt hroom'
  refine Bool.eq_false_iff.mpr fun hocc' => ?_
  exact absurd (h s' hle hroom' hocc') (Nat.not_le_of_lt hlt)

theorem occurrences_eq_nil
    (h : ∀ s, lo ≤ s → s + rule.size ≤ hi → rule.occurs text s = false) :
    rule.occurrences text lo hi = [] := by
  rw [occurrences_skip (Nat.le_add_right lo hi) fun s hle _ => h s hle]
  exact occurrences_of_not (by omega)

/-- Occurrences follow one another. -/
theorem ordered_occurrences (h : lo ≤ hi) : Span.Ordered lo hi (rule.occurrences text lo hi) := by
  fun_induction occurrences rule text lo hi with
  | case1 lo hroom hocc ih =>
      exact ⟨Nat.le_refl _, Nat.lt_add_of_pos_right hroom.1, ih hroom.2⟩
  | case2 lo hroom hocc ih => exact (ih (by omega)).mono (Nat.le_succ lo)
  | case3 lo hroom => exact h

end Rule

namespace Matcher

/-- The parts that were found after `count` others, unless these are too many. -/
def capped (limit count : Nat) (found : List Span) : Except ScanFault (List Span) :=
  if count + found.length ≤ limit then .ok found else .error (.tooMany limit)

theorem capped_nil {limit count : Nat} (h : count ≤ limit) : capped limit count [] = .ok [] :=
  if_pos h

theorem capped_cons_of_lt {limit count : Nat} (h : limit < count + 1) (s : Span)
    (rest : List Span) : capped limit count (s :: rest) = .error (.tooMany limit) := by
  rw [capped, List.length_cons, if_neg (by omega)]

theorem map_capped (limit count : Nat) (s : Span) (rest : List Span) :
    (capped limit (count + 1) rest).map (s :: ·) = capped limit count (s :: rest) := by
  rw [capped, capped, List.length_cons, Nat.add_right_comm, Nat.add_assoc]
  split_ifs <;> rfl

variable {rule : Rule}

/-- **A scan takes the occurrences of a word** from the left to the right, or is given up if there
are too many. -/
theorem scanFrom_ofLiteral (hw : rule.IsWord) (hs : rule.StartsInAscii)
    (hne : rule.pattern.toList ≠ []) {t : ScanText} {limit start lastEnd count : Nat}
    (hcount : count ≤ limit)
    (hstart : ∀ s, lastEnd ≤ s → s + rule.size ≤ t.hi → rule.occurs t.whole s = true →
      start ≤ (ofLiteral rule).resume s) :
    (ofLiteral rule).scanFrom t limit start lastEnd count =
      capped limit count (rule.occurrences t.whole lastEnd t.hi) := by
  have hsize : 0 < rule.size := List.length_pos_of_ne_nil hne
  induction start, lastEnd, count using scanFrom.induct (ofLiteral rule) t limit with
  | case1 start lastEnd count hlen hf =>
      rw [scanFrom_eq, if_pos hlen, hf, Rule.occurrences_eq_nil, capped_nil hcount]
      intro s hle hroom
      refine Bool.eq_false_iff.mpr fun hocc => ?_
      rw [not_occurs_of_find_none hw hs hne hlen hf (hstart s hle hroom hocc)] at hocc
      cases hocc
  | case2 start lastEnd count hlen found hf hb =>
      obtain ⟨s, hspan, -⟩ := exists_body_of_find hw hs hne hlen hf
      rw [hb] at hspan
      cases hspan
  | case3 start lastEnd count hlen found hf body hb hempty =>
      obtain ⟨s, rfl, -⟩ := body_of_find hw hs hne hlen hf hb
      dsimp only at hempty
      omega
  | case4 start lastEnd count hlen found hf body hb hempty hhi =>
      rw [scanFrom_eq, if_pos hlen, hf]
      simp only [hb, if_neg hempty, if_pos hhi]
      obtain ⟨s, rfl, -, -, hmin⟩ := body_of_find hw hs hne hlen hf hb
      rw [Rule.occurrences_eq_nil, capped_nil hcount]
      intro s' hle hroom
      refine Bool.eq_false_iff.mpr fun hocc' => ?_
      have := hmin s' hocc' (hstart s' hle hroom hocc')
      dsimp only at hhi
      omega
  | case5 start lastEnd count hlen found hf body hb hempty hhi hbody hlimit =>
      rw [scanFrom_eq, if_pos hlen, hf]
      simp only [hb, if_neg hempty, if_neg hhi, if_pos hbody, if_pos hlimit]
      obtain ⟨s, rfl, hocc, -, hmin⟩ := body_of_find hw hs hne hlen hf hb
      rw [Rule.occurrences_cons hsize hbody.1 hbody.2.2 hocc
        fun s' hle hroom hocc' => hmin s' hocc' (hstart s' hle hroom hocc'),
        capped_cons_of_lt hlimit]
  | case6 start lastEnd count hlen found hf body hb hempty hhi hbody hlimit ih =>
      rw [scanFrom_eq, if_pos hlen, hf]
      simp only [hb, if_neg hempty, if_neg hhi, if_pos hbody, if_neg hlimit]
      obtain ⟨s, rfl, hocc, -, hmin⟩ := body_of_find hw hs hne hlen hf hb
      obtain ⟨hfirst, -, hroom⟩ := hbody
      rw [Rule.occurrences_cons hsize hfirst hroom hocc
        fun s' hle hroom hocc' => hmin s' hocc' (hstart s' hle hroom hocc'),
        ih (Nat.le_of_not_lt hlimit), map_capped]
      intro s' hle _ _
      rw [resume_eq, resume_eq]
      exact Nat.sub_le_sub_right hle _
  | case7 start lastEnd count hlen found hf body hb hempty hhi hbody ih =>
      rw [scanFrom_eq, if_pos hlen, hf]
      simp only [hb, if_neg hempty, if_neg hhi, if_neg hbody]
      obtain ⟨s, rfl, hocc, hpos, hmin⟩ := body_of_find hw hs hne hlen hf hb
      refine ih hcount fun s' hle hroom hocc' => ?_
      have hfirst := hmin s' hocc' (hstart s' hle hroom hocc')
      -- what was dropped does not lie in the rest of the text, so the search is past it
      have hdiff : (ofLiteral rule).resume s ≠ (ofLiteral rule).resume s' := by
        intro heq
        obtain rfl := eq_of_resume_eq hw hs hne hocc hocc' heq
        exact hbody ⟨hle, Nat.lt_of_le_of_lt hle (Nat.lt_add_of_pos_right hsize), hroom⟩
      rw [hpos]
      rw [resume_eq, resume_eq] at hdiff ⊢
      omega
  | case8 start lastEnd count hlen =>
      rw [scanFrom_eq, if_neg hlen, Rule.occurrences_eq_nil, capped_nil hcount]
      intro s hle hroom
      refine Bool.eq_false_iff.mpr fun hocc => ?_
      have hlt := lt_length_of_occurs hne hocc
      have hfar := hstart s hle hroom hocc
      rw [resume_eq] at hfar
      omega

/-- **What a word masks in a text are its occurrences,** unless these are too many. -/
theorem spans_ofLiteral (hw : rule.IsWord) (hs : rule.StartsInAscii)
    (hne : rule.pattern.toList ≠ []) (t : ScanText) (limit : Nat) :
    (ofLiteral rule).spans t limit = capped limit 0 (rule.occurrences t.whole t.lo t.hi) := by
  refine scanFrom_ofLiteral hw hs hne (Nat.zero_le _) fun s hle _ _ => ?_
  rw [resume_eq, resume_eq]
  exact Nat.sub_le_sub_right hle _

end Matcher

end TextMasking
