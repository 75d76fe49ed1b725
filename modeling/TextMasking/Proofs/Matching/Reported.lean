import TextMasking.Proofs.Masking.Tiling

/-! # Where matches stand

What a scan reports are byte offsets.  A match cuts its text into what comes before it, its own
characters and what comes after (`TextMatch.Cuts`), and it stands for a part that the scan took
(`Matcher.exists_isAt_of_scan`).  Of two places in a text the one with more characters before it has
the larger offset (`Text.byteLength_lt_iff`). -/

namespace TextMasking

namespace Text

theorem byteLength_le_of_isPrefix {a b : List Char} (h : a <+: b) : byteLength a ≤ byteLength b := by
  obtain ⟨rest, rfl⟩ := h
  rw [byteLength_append]
  exact Nat.le_add_right _ _

/-- Offsets in a text compare as the numbers of characters before them. -/
theorem byteLength_lt_iff {a b text : List Char} (ha : a <+: text) (hb : b <+: text) :
    byteLength a < byteLength b ↔ a.length < b.length := by
  constructor
  · intro h
    refine Nat.lt_of_not_le fun hle => ?_
    exact Nat.not_lt_of_le (byteLength_le_of_isPrefix (List.prefix_of_prefix_length_le hb ha hle)) h
  · intro h
    obtain ⟨rest, rfl⟩ := List.prefix_of_prefix_length_le ha hb (Nat.le_of_lt h)
    have hne : rest ≠ [] := by
      rintro rfl
      simp at h
    rw [byteLength_append]
    exact Nat.lt_add_of_pos_right (byteLength_pos hne)

end Text

/-- A text is cut in three, and the match is the part in the middle. -/
structure TextMatch.Cuts (x : TextMatch) (text left body right : List Char) : Prop where
  text_eq : text = left ++ body ++ right
  start_eq : x.start = Text.byteLength left
  stop_eq : x.stop = Text.byteLength (left ++ body)
  matched_eq : x.matched = String.ofList body

/-- The match stands for a part of a whole in which the text comes after others. -/
def TextMatch.IsAt (x : TextMatch) (before text : List Char) (s : Span) : Prop :=
  ∃ left body right, x.Cuts text left body right ∧
    s = ⟨before.length + left.length, before.length + (left ++ body).length⟩

namespace TextMatch.IsAt

variable {x : TextMatch} {before text place : List Char} {s : Span}

/-- Where a match begins and ends, in the text and in the whole. -/
theorem exists_prefixes (h : x.IsAt before text s) : ∃ p q, p <+: text ∧ q <+: text ∧
    x.start = Text.byteLength p ∧ x.stop = Text.byteLength q ∧
      s = ⟨before.length + p.length, before.length + q.length⟩ := by
  obtain ⟨left, body, right, hcuts, rfl⟩ := h
  have hbody : left ++ body <+: text := ⟨right, hcuts.text_eq.symm⟩
  exact ⟨left, left ++ body, (List.prefix_append left body).trans hbody, hbody, hcuts.start_eq,
    hcuts.stop_eq, rfl⟩

theorem start_lt_iff (h : x.IsAt before text s) (hp : place <+: text) :
    x.start < Text.byteLength place ↔ s.start < before.length + place.length := by
  obtain ⟨p, q, hstart, -, hx, -, rfl⟩ := h.exists_prefixes
  rw [hx, Text.byteLength_lt_iff hstart hp, Nat.add_lt_add_iff_left]

theorem lt_start_iff (h : x.IsAt before text s) (hp : place <+: text) :
    Text.byteLength place < x.start ↔ before.length + place.length < s.start := by
  obtain ⟨p, q, hstart, -, hx, -, rfl⟩ := h.exists_prefixes
  rw [hx, Text.byteLength_lt_iff hp hstart, Nat.add_lt_add_iff_left]

theorem lt_stop_iff (h : x.IsAt before text s) (hp : place <+: text) :
    Text.byteLength place < x.stop ↔ before.length + place.length < s.stop := by
  obtain ⟨p, q, -, hstop, -, hx, rfl⟩ := h.exists_prefixes
  rw [hx, Text.byteLength_lt_iff hp hstop, Nat.add_lt_add_iff_left]

end TextMatch.IsAt

namespace Matcher

variable {m : Matcher} {before text after : String} {options : Options} {found : List TextMatch}

/-- A part of the text is reported as a match that stands for it. -/
theorem isAt_report (m : Matcher) {before text : List Char} (after : List Char) {s : Span}
    (hlo : before.length ≤ s.start) (hle : s.start ≤ s.stop)
    (hhi : s.stop ≤ before.length + text.length) :
    (m.report (.between before text after) s).IsAt before text s := by
  obtain ⟨left, body, right, htext, hstart, hstop, hleft, hbody⟩ :=
    ScanText.exists_cut after hlo hle hhi
  refine ⟨left, body, right, ⟨htext, congrArg Text.byteLength hleft, ?_, ?_⟩, ?_⟩
  · refine congrArg Text.byteLength ?_
    rw [← hleft, ← hbody]
    exact (ScanText.slice_append_slice _ hlo hle).symm
  · exact congrArg String.ofList hbody
  · obtain ⟨start, stop⟩ := s
    dsimp only at hstart hstop
    rw [hstop, hstart, List.length_append, Nat.add_assoc]

/-- **What a scan reports stands for what it takes,** one match for each part. -/
theorem exists_isAt_of_scan (h : m.scan before text after options = .ok found) :
    ∃ spans, m.spans (.between before.toList text.toList after.toList) options.maxMatches =
        .ok spans ∧
      (∀ x ∈ found, ∃ s ∈ spans, x.IsAt before.toList text.toList s) ∧
      ∀ s ∈ spans, ∃ x ∈ found, x.IsAt before.toList text.toList s := by
  obtain ⟨spans, hspans, rfl, -⟩ := exists_spans_of_scan h
  have hord := ordered_of_spans hspans (Nat.le_add_right _ _)
  have hat {s : Span} (hs : s ∈ spans) : (m.report (.between before.toList text.toList
      after.toList) s).IsAt before.toList text.toList s := by
    obtain ⟨hlo, hlt, hhi⟩ := hord.of_mem hs
    exact m.isAt_report after.toList hlo (Nat.le_of_lt hlt) hhi
  refine ⟨spans, hspans, fun x hx => ?_, fun s hs => ⟨_, List.mem_map_of_mem hs, hat hs⟩⟩
  obtain ⟨s, hs, rfl⟩ := List.mem_map.mp hx
  exact ⟨s, hs, hat hs⟩

end Matcher

end TextMasking
