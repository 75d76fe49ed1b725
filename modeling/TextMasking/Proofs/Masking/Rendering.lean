import TextMasking.Proofs.Masking.Tiling
import TextMasking.Proofs.Matching.Words

/-! # What words make of a text

When rules that look for words are applied one after the other, each one masks its occurrences and
leaves the parts between them to the others.  What comes of it is the text that is shown and the
number of masks (`Rendering.ofWords`); no rule is given up if none has too many occurrences in one
part (`Sparse`).

No occurrence reaches over the end of a line, and a line feed is no word character.  So the lines of
a text can be masked one by one (`Rendering.ofText_newline`, `SparseText.of_newline`). -/

namespace TextMasking

open Unicode

/-- What a text is shown as, and how many masks are in it. -/
structure Rendering where
  shown : List Char
  masks : Nat
  deriving DecidableEq, Repr

namespace Rendering

instance : Append Rendering := ⟨fun a b => ⟨a.shown ++ b.shown, a.masks + b.masks⟩⟩

/-- A text without masks. -/
def text (cs : List Char) : Rendering := ⟨cs, 0⟩

/-- A mask. -/
def mask (replacement : String) : Rendering := ⟨replacement.toList, 1⟩

theorem append_assoc (a b c : Rendering) : a ++ b ++ c = a ++ (b ++ c) := by
  refine congrArg₂ mk ?_ ?_
  · exact List.append_assoc _ _ _
  · exact Nat.add_assoc _ _ _

theorem text_append (cs ds : List Char) : text cs ++ text ds = text (cs ++ ds) := rfl

@[simp] theorem append_text_nil (a : Rendering) : a ++ text [] = a := by
  refine congrArg₂ mk ?_ ?_
  · exact List.append_nil _
  · exact Nat.add_zero _

@[simp] theorem text_nil_append (a : Rendering) : text [] ++ a = a :=
  congrArg (mk a.shown) (Nat.zero_add _)

/-- The part from `lo` to `hi` with masks for the spans; `f` renders what is between them. -/
def between (f : Nat → Nat → Rendering) (replacement : String) (lo hi : Nat) :
    List Span → Rendering
  | [] => f lo hi
  | s :: rest => f lo s.start ++ (mask replacement ++ between f replacement s.stop hi rest)

/-- What the rules make of the part of a text from `lo` to `hi`. -/
def ofWords (whole : List Char) : List Rule → Nat → Nat → Rendering
  | [], lo, hi => text (whole.extract lo hi)
  | rule :: rules, lo, hi =>
    between (ofWords whole rules) rule.replacement lo hi (rule.occurrences whole lo hi)

/-- What the rules make of a text. -/
def ofText (rules : List Rule) (cs : List Char) : Rendering :=
  ofWords cs rules 0 cs.length

end Rendering

/-- The parts from `lo` to `hi` between the spans are as `P` says. -/
def AllBetween (P : Nat → Nat → Prop) (lo hi : Nat) : List Span → Prop
  | [] => P lo hi
  | s :: rest => P lo s.start ∧ AllBetween P s.stop hi rest

/-- No rule has more occurrences than the limit in one part. -/
def Sparse (limit : Nat) (whole : List Char) : List Rule → Nat → Nat → Prop
  | [], _, _ => True
  | rule :: rules, lo, hi =>
    (rule.occurrences whole lo hi).length ≤ limit ∧
      AllBetween (Sparse limit whole rules) lo hi (rule.occurrences whole lo hi)

/-- No rule has more occurrences than the limit in one part of the text. -/
def SparseText (limit : Nat) (rules : List Rule) (cs : List Char) : Prop :=
  Sparse limit cs rules 0 cs.length

/-! ### The end of a line -/

section

variable {rule : Rule} {whole : List Char} {lo hi k : Nat}

/-- No occurrence reaches over white space. -/
theorem Rule.IsWord.occurrences_split (hw : rule.IsWord) {c : Char} (hc : whole[k]? = some c)
    (hblank : isBlank c = true) (hlo : lo ≤ k) (hhi : k < hi) :
    rule.occurrences whole lo hi =
      rule.occurrences whole lo k ++ rule.occurrences whole (k + 1) hi := by
  have hover {s : Nat} (hle : s ≤ k) (hlt : k < s + rule.size) :
      rule.occurs whole s = false := by
    refine Bool.eq_false_iff.mpr fun hocc => ?_
    obtain ⟨d, hd, hno⟩ := hw.exists_of_occurs hocc (show k - s < rule.size by omega)
    rw [Nat.add_sub_cancel' hle, hc] at hd
    cases hd
    rw [hblank] at hno
    cases hno
  fun_induction Rule.occurrences rule whole lo k with
  | case1 lo hroom hocc ih =>
      rw [Rule.occurrences, dif_pos ⟨hroom.1, by omega⟩, if_pos hocc, ih hroom.2,
        List.cons_append]
  | case2 lo hroom hocc ih =>
      rw [Rule.occurrences, dif_pos ⟨hroom.1, by omega⟩, if_neg hocc, ih (by omega)]
  | case3 lo hroom =>
      rw [List.nil_append]
      by_cases hsize : 0 < rule.size
      · exact Rule.occurrences_skip (by omega) fun s hle hlt _ => hover (by omega) (by omega)
      · rw [Rule.occurrences_of_not (by omega), Rule.occurrences_of_not (by omega)]

/-- Where there is only white space, no word occurs. -/
theorem Rule.IsWord.occurrences_blank (hw : rule.IsWord)
    (h : ∀ i c, lo ≤ i → i < hi → whole[i]? = some c → isBlank c = true) :
    rule.occurrences whole lo hi = [] := by
  by_cases hroom : 0 < rule.size
  · refine Rule.occurrences_eq_nil fun s hle hin => ?_
    refine Bool.eq_false_iff.mpr fun hocc => ?_
    obtain ⟨c, hc, hno⟩ := hw.exists_of_occurs hocc hroom
    rw [h s c hle (by omega) hc] at hno
    cases hno
  · exact Rule.occurrences_of_not (by omega)

namespace Rendering

/-- What is rendered around a character comes apart there if each part between the spans does. -/
theorem between_append {f : Nat → Nat → Rendering} {r : String} {mid : Rendering} {a b : List Span}
    (ha : Span.Ordered lo k a) (hb : Span.Ordered (k + 1) hi b)
    (hf : ∀ i j, i ≤ k → k < j → j ≤ hi → f i j = f i k ++ (mid ++ f (k + 1) j)) :
    between f r lo hi (a ++ b) = between f r lo k a ++ (mid ++ between f r (k + 1) hi b) := by
  induction a generalizing lo with
  | nil =>
      have hlo : lo ≤ k := ha
      cases b with
      | nil => exact hf lo hi hlo (Nat.lt_of_succ_le hb) (Nat.le_refl _)
      | cons s rest =>
          have hstart := Nat.le_trans (Nat.le_of_lt hb.2.1) hb.2.2.le
          rw [List.nil_append, between, between, between,
            hf lo s.start hlo (Nat.lt_of_succ_le hb.1) hstart]
          simp only [append_assoc]
  | cons s a ih =>
      rw [List.cons_append, between, between, ih ha.2.2]
      simp only [append_assoc]

end Rendering

theorem AllBetween.of_append {P : Nat → Nat → Prop} {a b : List Span}
    (h : AllBetween P lo hi (a ++ b)) (ha : Span.Ordered lo k a) (hb : Span.Ordered (k + 1) hi b)
    (hp : ∀ i j, i ≤ k → k < j → j ≤ hi → P i j → P i k ∧ P (k + 1) j) :
    AllBetween P lo k a ∧ AllBetween P (k + 1) hi b := by
  induction a generalizing lo with
  | nil =>
      have hlo : lo ≤ k := ha
      cases b with
      | nil => exact hp lo hi hlo (Nat.lt_of_succ_le hb) (Nat.le_refl _) h
      | cons s rest =>
          have hstart := Nat.le_trans (Nat.le_of_lt hb.2.1) hb.2.2.le
          obtain ⟨hleft, hright⟩ :=
            hp lo s.start hlo (Nat.lt_of_succ_le hb.1) hstart h.1
          exact ⟨hleft, hright, h.2⟩
  | cons s a ih =>
      obtain ⟨hleft, hright⟩ := ih h.2 ha.2.2
      exact ⟨⟨h.1, hleft⟩, hright⟩

theorem extract_split {c : Char} (hc : whole[k]? = some c) (hlo : lo ≤ k) (hhi : k < hi) :
    whole.extract lo hi = whole.extract lo k ++ c :: whole.extract (k + 1) hi := by
  have hlt := (List.getElem?_eq_some_iff.mp hc).1
  have hcut : whole.extract lo k ++ whole.extract k hi = whole.extract lo hi :=
    ScanText.slice_append_slice ⟨whole, 0, 0⟩ hlo (Nat.le_of_lt hhi)
  have hdrop : whole.drop k = c :: whole.drop (k + 1) := by
    rw [List.drop_eq_getElem_cons hlt, ← Option.some.inj ((List.getElem?_eq_getElem hlt).symm.trans
      hc)]
  have hnext : whole.extract k hi = c :: whole.extract (k + 1) hi := by
    rw [List.extract_eq_take_drop, List.extract_eq_take_drop, hdrop,
      show hi - k = hi - (k + 1) + 1 by omega, List.take_succ_cons]
  rw [← hcut, hnext]

/-- **What is made of a text comes apart at white space.** -/
theorem Rendering.ofWords_split {rules : List Rule} (hw : ∀ r ∈ rules, r.IsWord) {c : Char}
    (hc : whole[k]? = some c) (hblank : isBlank c = true) (hlo : lo ≤ k) (hhi : k < hi) :
    ofWords whole rules lo hi =
      ofWords whole rules lo k ++ (text [c] ++ ofWords whole rules (k + 1) hi) := by
  induction rules generalizing lo hi with
  | nil =>
      rw [ofWords, ofWords, ofWords, text_append, text_append, extract_split hc hlo hhi]
      rfl
  | cons rule rules ih =>
      obtain ⟨hr, hrules⟩ := List.forall_mem_cons.mp hw
      rw [ofWords, ofWords, ofWords, hr.occurrences_split hc hblank hlo hhi]
      exact between_append (Rule.ordered_occurrences hlo) (Rule.ordered_occurrences hhi)
        fun i j hik hkj _ => ih hrules hik hkj

/-- Rules that are not given up in a text are not given up in what is before and behind white
space. -/
theorem Sparse.of_split {rules : List Rule} {limit : Nat} (hw : ∀ r ∈ rules, r.IsWord) {c : Char}
    (hc : whole[k]? = some c) (hblank : isBlank c = true) (hlo : lo ≤ k) (hhi : k < hi)
    (h : Sparse limit whole rules lo hi) :
    Sparse limit whole rules lo k ∧ Sparse limit whole rules (k + 1) hi := by
  induction rules generalizing lo hi with
  | nil => exact ⟨trivial, trivial⟩
  | cons rule rules ih =>
      obtain ⟨hr, hrules⟩ := List.forall_mem_cons.mp hw
      obtain ⟨hcount, hparts⟩ := h
      rw [hr.occurrences_split hc hblank hlo hhi] at hcount hparts
      rw [List.length_append] at hcount
      obtain ⟨hleft, hright⟩ := hparts.of_append (Rule.ordered_occurrences hlo)
        (Rule.ordered_occurrences hhi) fun i j hik hkj _ hsparse => ih hrules hik hkj hsparse
      exact ⟨⟨by omega, hleft⟩, ⟨by omega, hright⟩⟩

end

/-! ### Parts of a text -/

/-- The part lies in the whole from `k` on, and no word character stands beside it. -/
structure LiesIn (part whole : List Char) (k : Nat) : Prop where
  eq : ∃ x y, whole = x ++ part ++ y ∧ x.length = k
  before : wordBefore whole k = false
  after : wordAt whole (k + part.length) = false

/-- The part of a text that lies `k` characters further on. -/
def Span.shift (k : Nat) (s : Span) : Span := ⟨k + s.start, k + s.stop⟩

theorem startsWith_append {fold : Bool} {cs text : List Char} (h : cs.length ≤ text.length)
    (rest : List Char) : startsWith fold cs (text ++ rest) = startsWith fold cs text := by
  induction cs generalizing text with
  | nil => rfl
  | cons c cs ih =>
      cases text with
      | nil => cases h
      | cons d text =>
          rw [List.cons_append, startsWith, startsWith, ih (Nat.le_of_succ_le_succ h)]

namespace LiesIn

variable {rule : Rule} {part whole : List Char} {k i lo hi : Nat}

theorem drop_eq (h : LiesIn part whole k) (hi : i ≤ part.length) :
    ∃ rest, whole.drop (k + i) = part.drop i ++ rest := by
  obtain ⟨x, y, rfl, rfl⟩ := h.eq
  refine ⟨y, ?_⟩
  rw [List.append_assoc, List.drop_append, List.drop_of_length_le (Nat.le_add_right _ _),
    List.nil_append, Nat.add_sub_cancel_left, List.drop_append_of_le_length hi]

theorem wordAt_eq (h : LiesIn part whole k) (hi : i ≤ part.length) :
    wordAt whole (k + i) = wordAt part i := by
  rcases Nat.eq_or_lt_of_le hi with rfl | hlt
  · rw [h.after, wordAt, List.getElem?_eq_none (Nat.le_refl _), Option.any_none]
  · obtain ⟨rest, hrest⟩ := h.drop_eq hi
    have hne : part.drop i ≠ [] := by
      rw [ne_eq, List.drop_eq_nil_iff]
      exact Nat.not_le_of_lt hlt
    rw [wordAt, wordAt, ← List.head?_drop, hrest, ← List.head?_drop,
      List.head?_append_of_ne_nil _ hne]

theorem wordBefore_eq (h : LiesIn part whole k) (hi : i ≤ part.length) :
    wordBefore whole (k + i) = wordBefore part i := by
  cases i with
  | zero => exact h.before
  | succ i => exact h.wordAt_eq (Nat.le_of_succ_le hi)

theorem occurs_eq (h : LiesIn part whole k) (hi : i + rule.size ≤ part.length) :
    rule.occurs whole (k + i) = rule.occurs part i := by
  obtain ⟨rest, hrest⟩ := h.drop_eq (show i ≤ part.length by omega)
  rw [Rule.occurs, Rule.occurs, hrest, startsWith_append, h.wordBefore_eq (by omega),
    Nat.add_assoc, h.wordAt_eq hi]
  rw [List.length_drop]
  exact Nat.le_sub_of_add_le' hi

theorem occurrences_eq (h : LiesIn part whole k) (hi' : hi ≤ part.length) :
    rule.occurrences whole (k + lo) (k + hi) =
      (rule.occurrences part lo hi).map (Span.shift k) := by
  fun_induction Rule.occurrences rule part lo hi with
  | case1 lo hroom hocc ih =>
      rw [Rule.occurrences, dif_pos ⟨hroom.1, by omega⟩,
        if_pos ((h.occurs_eq (by omega)).trans hocc), Nat.add_assoc, ih]
      rfl
  | case2 lo hroom hocc ih =>
      rw [Rule.occurrences, dif_pos ⟨hroom.1, by omega⟩,
        if_neg (by rwa [h.occurs_eq (by omega)]), Nat.add_assoc, ih]
  | case3 lo hroom =>
      rw [Rule.occurrences_of_not (by omega)]
      rfl

theorem between_shift {f g : Nat → Nat → Rendering} {r : String} {spans : List Span}
    (hord : Span.Ordered lo hi spans)
    (hf : ∀ i j, i ≤ j → j ≤ hi → f (k + i) (k + j) = g i j) :
    Rendering.between f r (k + lo) (k + hi) (spans.map (Span.shift k)) =
      Rendering.between g r lo hi spans := by
  induction spans generalizing lo with
  | nil => exact hf lo hi hord (Nat.le_refl _)
  | cons s rest ih =>
      have hle := hord.2.2.le
      have hlt := hord.2.1
      rw [List.map_cons, Rendering.between, Rendering.between, Span.shift,
        hf lo s.start hord.1 (by omega), ih hord.2.2]

/-- **What is made of a part does not depend on where it lies.** -/
theorem ofWords_eq (h : LiesIn part whole k) (hlo : lo ≤ hi) (hhi : hi ≤ part.length)
    (rules : List Rule) :
    Rendering.ofWords whole rules (k + lo) (k + hi) = Rendering.ofWords part rules lo hi := by
  induction rules generalizing lo hi with
  | nil =>
      obtain ⟨rest, hrest⟩ := h.drop_eq (show lo ≤ part.length by omega)
      rw [Rendering.ofWords, Rendering.ofWords, List.extract_eq_take_drop,
        List.extract_eq_take_drop, hrest, Nat.add_sub_add_left, List.take_append_of_le_length]
      rw [List.length_drop]
      omega
  | cons rule rules ih =>
      rw [Rendering.ofWords, Rendering.ofWords, h.occurrences_eq hhi]
      exact between_shift (Rule.ordered_occurrences hlo)
        fun i j hij hj => ih hij (Nat.le_trans hj hhi)

theorem allBetween_shift {P Q : Nat → Nat → Prop} {spans : List Span}
    (h : AllBetween P (k + lo) (k + hi) (spans.map (Span.shift k)))
    (hord : Span.Ordered lo hi spans)
    (hp : ∀ i j, i ≤ j → j ≤ hi → P (k + i) (k + j) → Q i j) : AllBetween Q lo hi spans := by
  induction spans generalizing lo with
  | nil => exact hp lo hi hord (Nat.le_refl _) h
  | cons s rest ih =>
      have hle := hord.2.2.le
      have hlt := hord.2.1
      exact ⟨hp lo s.start hord.1 (by omega) h.1, ih h.2 hord.2.2⟩

theorem sparse {rules : List Rule} {limit : Nat} (h : LiesIn part whole k) (hlo : lo ≤ hi)
    (hhi : hi ≤ part.length) (hs : Sparse limit whole rules (k + lo) (k + hi)) :
    Sparse limit part rules lo hi := by
  induction rules generalizing lo hi with
  | nil => trivial
  | cons rule rules ih =>
      obtain ⟨hcount, hparts⟩ := hs
      rw [h.occurrences_eq hhi] at hcount hparts
      rw [List.length_map] at hcount
      exact ⟨hcount, allBetween_shift hparts (Rule.ordered_occurrences hlo)
        fun i j hij hj hs => ih hij (Nat.le_trans hj hhi) hs⟩

end LiesIn

/-! ### Lines -/

section

variable {rules : List Rule} {a b : List Char}

theorem wordAt_newline (a b : List Char) : wordAt (a ++ '\n' :: b) a.length = false := by
  rw [wordAt, List.getElem?_append_right (Nat.le_refl _), Nat.sub_self]
  rfl

theorem liesIn_line (a b : List Char) : LiesIn a (a ++ '\n' :: b) 0 where
  eq := ⟨[], '\n' :: b, rfl, rfl⟩
  before := rfl
  after := by
    rw [Nat.zero_add]
    exact wordAt_newline a b

theorem liesIn_rest (a b : List Char) : LiesIn b (a ++ '\n' :: b) (a.length + 1) where
  eq := ⟨a ++ ['\n'], [], by simp, by simp⟩
  before := wordAt_newline a b
  after := by
    have hlen : a.length + 1 + b.length = (a ++ '\n' :: b).length := by
      rw [List.length_append, List.length_cons]
      omega
    rw [wordAt, hlen, List.getElem?_eq_none (Nat.le_refl _), Option.any_none]

theorem getElem?_newline (a b : List Char) : (a ++ '\n' :: b)[a.length]? = some '\n' := by
  rw [List.getElem?_append_right (Nat.le_refl _), Nat.sub_self]
  rfl

/-- **Lines are masked one by one.** -/
theorem Rendering.ofText_newline (hw : ∀ r ∈ rules, r.IsWord) (a b : List Char) :
    ofText rules (a ++ '\n' :: b) = ofText rules a ++ (text ['\n'] ++ ofText rules b) := by
  have hlen : (a ++ '\n' :: b).length = a.length + 1 + b.length := by
    rw [List.length_append, List.length_cons]
    omega
  have hline : ofWords (a ++ '\n' :: b) rules 0 a.length = ofWords a rules 0 a.length := by
    have heq := (liesIn_line a b).ofWords_eq (Nat.zero_le _) (Nat.le_refl _) rules
    rwa [Nat.zero_add, Nat.zero_add] at heq
  have hrest : ofWords (a ++ '\n' :: b) rules (a.length + 1) (a.length + 1 + b.length) =
      ofWords b rules 0 b.length :=
    (liesIn_rest a b).ofWords_eq (Nat.zero_le _) (Nat.le_refl _) rules
  rw [ofText, ofText, ofText, hlen, ofWords_split hw (getElem?_newline a b) (by decide)
    (Nat.zero_le _) (by omega), hline, hrest]

theorem SparseText.of_newline {limit : Nat} (hw : ∀ r ∈ rules, r.IsWord)
    (h : SparseText limit rules (a ++ '\n' :: b)) :
    SparseText limit rules a ∧ SparseText limit rules b := by
  have hlen : (a ++ '\n' :: b).length = a.length + 1 + b.length := by
    rw [List.length_append, List.length_cons]
    omega
  rw [SparseText, hlen] at h
  obtain ⟨hline, hrest⟩ := h.of_split hw (getElem?_newline a b) (by decide) (Nat.zero_le _)
    (by omega)
  refine ⟨(liesIn_line a b).sparse (Nat.zero_le _) (Nat.le_refl _) ?_,
    (liesIn_rest a b).sparse (Nat.zero_le _) (Nat.le_refl _) ?_⟩
  · rw [Nat.zero_add, Nat.zero_add]
    exact hline
  · rw [Nat.add_zero]
    exact hrest

/-- White space stays as it is. -/
theorem ofWords_of_blank (hw : ∀ r ∈ rules, r.IsWord) {whole : List Char} {lo hi : Nat}
    (h : ∀ i c, lo ≤ i → i < hi → whole[i]? = some c → isBlank c = true) (limit : Nat) :
    Rendering.ofWords whole rules lo hi = .text (whole.extract lo hi) ∧
      Sparse limit whole rules lo hi := by
  induction rules with
  | nil => exact ⟨rfl, trivial⟩
  | cons rule rules ih =>
      obtain ⟨hr, hrules⟩ := List.forall_mem_cons.mp hw
      obtain ⟨hsame, hsparse⟩ := ih hrules
      rw [Rendering.ofWords, Sparse, hr.occurrences_blank h]
      exact ⟨hsame, Nat.zero_le _, hsparse⟩

/-- Where there is nothing, nothing is made of it. -/
theorem ofWords_self (hw : ∀ r ∈ rules, r.IsWord) (whole : List Char) (k limit : Nat) :
    Sparse limit whole rules k k ∧ Rendering.ofWords whole rules k k = .text [] := by
  have hnone : ∀ i c, k ≤ i → i < k → whole[i]? = some c → isBlank c = true :=
    fun i c hlo hhi => absurd hhi (Nat.not_lt_of_le hlo)
  obtain ⟨hsame, hsparse⟩ := ofWords_of_blank hw hnone limit
  rw [List.extract_eq_take_drop, Nat.sub_self, List.take_zero] at hsame
  exact ⟨hsparse, hsame⟩

end

end TextMasking
