import TextMasking.Masking.Fragments
import TextMasking.Proofs.Document.Nodes
import TextMasking.Proofs.Matching.Scan

/-! # Matches tile their text

The fragments that the matches of a scan make of a text (`ScanText.fragments`, counted in
characters) are masks for the matches, with the text between them: no character is lost, moved or
doubled (`Matcher.unmasked_fragments`), and each match becomes one mask. -/

namespace TextMasking

/-- The leaves of fragments after others follow their leaves. -/
theorem Fragment.toForest_append (fresh : NodeId) (a b : List Fragment) :
    toForest fresh (a ++ b) = toForest fresh a ++ toForest (fresh + a.length) b := by
  induction a generalizing fresh with
  | nil => rfl
  | cons f rest ih =>
      have hlen : fresh + (f :: rest).length = fresh + 1 + rest.length := by
        rw [List.length_cons, Nat.add_comm rest.length, Nat.add_assoc]
      rw [hlen]
      cases f with
      | text s =>
          exact congrArg (Forest.text fresh s) (ih (fresh + 1))
      | mask m => exact congrArg (Forest.mask fresh m) (ih (fresh + 1))

namespace ScanText

/-- The part of the whole from one position to another as a fragment, if there is any. -/
def piece (t : ScanText) (a b : Nat) : List Fragment :=
  if a < b then [.text (String.ofList (t.slice ⟨a, b⟩))] else []

/-- The part from `last` to the end of the text, with masks for the spans. -/
def fragments (t : ScanText) (replacement : String) (last : Nat) : List Span → List Fragment
  | [] => t.piece last t.hi
  | s :: rest =>
    t.piece last s.start ++
      .mask ⟨String.ofList (t.slice s), replacement⟩ :: t.fragments replacement s.stop rest

/-! ### Parts of a whole -/

theorem slice_self (t : ScanText) (a : Nat) : t.slice ⟨a, a⟩ = [] := by
  simp [slice]

theorem slice_append_slice (t : ScanText) {a b c : Nat} (hab : a ≤ b) (hbc : b ≤ c) :
    t.slice ⟨a, b⟩ ++ t.slice ⟨b, c⟩ = t.slice ⟨a, c⟩ := by
  obtain ⟨k, rfl⟩ := Nat.exists_eq_add_of_le hab
  obtain ⟨l, rfl⟩ := Nat.exists_eq_add_of_le hbc
  simp only [slice, Nat.add_sub_cancel_left]
  rw [Nat.add_assoc, Nat.add_sub_cancel_left, List.take_add, List.drop_drop]

theorem unmasked_piece (t : ScanText) {a b : Nat} (h : a ≤ b) :
    String.join ((t.piece a b).map Fragment.unmasked) = String.ofList (t.slice ⟨a, b⟩) := by
  rw [piece]
  split_ifs with hlt
  · simp [Fragment.unmasked]
  · obtain rfl : a = b := by omega
    simp [slice_self]

/-- The fragments read as the part of the text that they are made from. -/
theorem unmasked_fragments (t : ScanText) (replacement : String) {last : Nat} {spans : List Span}
    (h : Span.Ordered last t.hi spans) :
    String.join ((t.fragments replacement last spans).map Fragment.unmasked) =
      String.ofList (t.slice ⟨last, t.hi⟩) := by
  induction spans generalizing last with
  | nil => exact t.unmasked_piece h
  | cons s rest ih =>
      obtain ⟨h₁, h₂, h₃⟩ := h
      have hle := h₃.le
      rw [fragments, List.map_append, List.map_cons, String.join_append, String.join_cons, ih h₃,
        t.unmasked_piece h₁, Fragment.unmasked, ← String.ofList_append, ← String.ofList_append,
        t.slice_append_slice (Nat.le_of_lt h₂) hle,
        t.slice_append_slice h₁ (by omega)]

theorem maskIds_piece (t : ScanText) (a b fresh : Nat) :
    (Fragment.toForest fresh (t.piece a b)).maskIds = [] := by
  rw [piece]
  split_ifs <;> rfl

/-- Each span is one of the masks. -/
theorem length_maskIds_fragments (t : ScanText) (replacement : String) (last fresh : Nat)
    (spans : List Span) :
    (Fragment.toForest fresh (t.fragments replacement last spans)).maskIds.length =
      spans.length := by
  induction spans generalizing last fresh with
  | nil =>
      rw [fragments, maskIds_piece]
      rfl
  | cons s rest ih =>
      rw [fragments, Fragment.toForest_append, Forest.maskIds_append, maskIds_piece,
        List.nil_append, Fragment.toForest, Forest.maskIds, List.length_cons, ih, List.length_cons]

/-! ### Byte offsets -/

/-- A text is cut at two positions in it. -/
theorem exists_cut {before text : List Char} (after : List Char) {p q : Nat}
    (hlo : before.length ≤ p) (hpq : p ≤ q) (hhi : q ≤ before.length + text.length) :
    ∃ a b c, text = a ++ b ++ c ∧ p = before.length + a.length ∧ q = p + b.length ∧
      (between before text after).slice ⟨before.length, p⟩ = a ∧
      (between before text after).slice ⟨p, q⟩ = b := by
  obtain ⟨k, rfl⟩ := Nat.exists_eq_add_of_le hlo
  obtain ⟨l, rfl⟩ := Nat.exists_eq_add_of_le hpq
  refine ⟨text.take k, (text.drop k).take l, (text.drop k).drop l, ?_, ?_, ?_, ?_, ?_⟩
  · rw [List.append_assoc, List.take_append_drop, List.take_append_drop]
  · rw [List.length_take]
    omega
  · rw [List.length_take, List.length_drop]
    omega
  · simp only [slice, between, Nat.add_sub_cancel_left]
    rw [List.append_assoc, List.drop_left, List.take_append_of_le_length (by omega)]
  · simp only [slice, between, Nat.add_sub_cancel_left]
    rw [List.append_assoc, List.drop_append, List.drop_of_length_le (by omega), List.nil_append,
      Nat.add_sub_cancel_left, List.drop_append_of_le_length (by omega),
      List.take_append_of_le_length (by rw [List.length_drop]; omega)]

/-- A part of the text between two byte offsets is the part between the positions. -/
theorem gap_eq_piece {before text after : List Char} {p q : Nat} (hlo : before.length ≤ p)
    (hpq : p ≤ q) (hhi : q ≤ before.length + text.length) :
    Fragment.gap text ((between before text after).byteOffset p)
        ((between before text after).byteOffset q) =
      (between before text after).piece p q := by
  obtain ⟨a, b, c, htext, hp, hq, hsa, hsb⟩ := exists_cut after hlo hpq hhi
  have hoff : (between before text after).byteOffset p = Text.byteLength a := by
    rw [byteOffset]
    exact congrArg _ hsa
  have hoff' : (between before text after).byteOffset q =
      Text.byteLength a + Text.byteLength b := by
    rw [byteOffset, ← Text.byteLength_append, ← hsa, ← hsb]
    exact congrArg _ (slice_append_slice _ hlo hpq).symm
  rw [Fragment.gap, piece, hoff, hoff', hsb]
  cases b with
  | nil => rw [if_neg (by simp [Text.byteLength]), if_neg (by simp at hq; omega)]
  | cons x b =>
      have hpos := Text.byteLength_pos (List.cons_ne_nil x b)
      rw [if_pos (by omega), if_pos (by simp at hq; omega), htext, Text.sliceBytes,
        Nat.add_sub_cancel_left, List.append_assoc, Text.splitAtByte_append,
        Text.splitAtByte_append]

/-- The last byte offset is the length of the text. -/
theorem byteOffset_hi (before text after : List Char) :
    (between before text after).byteOffset (before.length + text.length) =
      Text.byteLength text := by
  simp [byteOffset, slice, between, List.append_assoc]

end ScanText

namespace Matcher

/-- The match that a span of a text is reported as. -/
def report (m : Matcher) (t : ScanText) (s : Span) : TextMatch where
  start := t.byteOffset s.start
  stop := t.byteOffset s.stop
  matched := String.ofList (t.slice s)
  replacement := m.rule.replacement
  pattern := m.rule.pattern

theorem ofMatchesFrom_report {m : Matcher} {before text : List Char} (after : List Char)
    {last : Nat} {spans : List Span} (hlo : before.length ≤ last)
    (h : Span.Ordered last (before.length + text.length) spans) :
    Fragment.ofMatchesFrom text ((ScanText.between before text after).byteOffset last)
        (spans.map (m.report (.between before text after))) =
      (ScanText.between before text after).fragments m.rule.replacement last spans := by
  induction spans generalizing last with
  | nil =>
      rw [List.map_nil, Fragment.ofMatchesFrom, ← ScanText.byteOffset_hi before text after,
        ScanText.gap_eq_piece hlo h (Nat.le_refl _)]
      rfl
  | cons s rest ih =>
      obtain ⟨h₁, h₂, h₃⟩ := h
      have hle := h₃.le
      rw [List.map_cons, Fragment.ofMatchesFrom, ScanText.fragments,
        ← ScanText.gap_eq_piece hlo h₁ (by omega)]
      exact congrArg _ (congrArg _ (ih (by omega) h₃))

/-- The fragments that reported matches make are those that their spans make. -/
theorem ofMatches_report {m : Matcher} {before text after : String} {spans : List Span}
    (h : Span.Ordered before.toList.length (before.toList.length + text.toList.length) spans) :
    Fragment.ofMatches text
        (spans.map (m.report (.between before.toList text.toList after.toList))) =
      (ScanText.between before.toList text.toList after.toList).fragments m.rule.replacement
        before.toList.length spans := by
  have hzero : (ScanText.between before.toList text.toList after.toList).byteOffset
      before.toList.length = 0 := by
    rw [ScanText.byteOffset]
    exact congrArg _ (ScanText.slice_self _ _)
  have hfragments := ofMatchesFrom_report after.toList (m := m) (Nat.le_refl _) h
  rwa [hzero] at hfragments

/-- **A scan that is not given up cuts its text at what it masks.** -/
theorem exists_spans_of_scan {m : Matcher} {before text after : String} {options : Options}
    {found : List TextMatch} (h : m.scan before text after options = .ok found) :
    ∃ spans, m.spans (.between before.toList text.toList after.toList) options.maxMatches =
        .ok spans ∧
      found = spans.map (m.report (.between before.toList text.toList after.toList)) ∧
      Fragment.ofMatches text found =
        (ScanText.between before.toList text.toList after.toList).fragments m.rule.replacement
          before.toList.length spans := by
  rw [scan] at h
  cases hs : m.spans (.between before.toList text.toList after.toList) options.maxMatches with
  | error e =>
      simp only [hs] at h
      cases h
  | ok spans =>
      simp only [hs] at h
      cases h
      exact ⟨spans, rfl, rfl, ofMatches_report (ordered_of_spans hs (Nat.le_add_right _ _))⟩

/-- **No character of a text is lost, moved or doubled when its matches are masked.** -/
theorem unmasked_ofMatches {m : Matcher} {before text after : String} {options : Options}
    {found : List TextMatch} (h : m.scan before text after options = .ok found) :
    String.join ((Fragment.ofMatches text found).map Fragment.unmasked) = text := by
  obtain ⟨spans, hs, -, hf⟩ := exists_spans_of_scan h
  have hord := ordered_of_spans hs (Nat.le_add_right _ _)
  have hslice : (ScanText.between before.toList text.toList after.toList).slice
      ⟨before.toList.length, before.toList.length + text.toList.length⟩ = text.toList := by
    simp [ScanText.slice, ScanText.between, List.append_assoc]
  rw [hf]
  refine (ScanText.unmasked_fragments _ m.rule.replacement hord).trans ?_
  exact (congrArg String.ofList hslice).trans String.ofList_toList

/-- Each match becomes one mask. -/
theorem length_maskIds_ofMatches {m : Matcher} {before text after : String} {options : Options}
    {found : List TextMatch} (h : m.scan before text after options = .ok found) (fresh : NodeId) :
    (Fragment.toForest fresh (Fragment.ofMatches text found)).maskIds.length = found.length := by
  obtain ⟨spans, -, hfound, hf⟩ := exists_spans_of_scan h
  rw [hf, ScanText.length_maskIds_fragments, hfound, List.length_map]

end Matcher

end TextMasking
