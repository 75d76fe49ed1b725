import Mathlib.Tactic.SplitIfs
import TextMasking.Regex.CharSet

/-! # Case variants of white space and of ASCII letters

White space has no case variants (`caseVariants_of_isBlank`).  A case variant of an ASCII letter is
an ASCII letter, but for two: the sign for kelvin is a variant of `k` and the long `s` of `s`, and
neither is an ASCII word character (`holds_asciiWord_of_mem_caseVariants`). -/

namespace TextMasking.Unicode

theorem caseVariants_of_isBlank {c : Char} (h : isBlank c = true) : caseVariants c = [] := by
  let ranges := [(0x9, 0xD), (0x20, 0x20), (0x85, 0x85), (0xA0, 0xA0), (0x1680, 0x1680),
    (0x2000, 0x200A), (0x2028, 0x2029), (0x202F, 0x202F), (0x205F, 0x205F), (0x3000, 0x3000)]
  have hall : ((ranges.flatMap fun r => List.range' r.1 (r.2 + 1 - r.1)).all fun n =>
      (caseVariants (Char.ofNat n)).isEmpty) = true := by decide +kernel
  have hascending : Ascending ranges := by simp [ranges, Ascending]
  obtain ⟨r, hr, hlo, hhi⟩ := (inRanges_iff hascending c.toNat).mp h
  have hmem : c.toNat ∈ ranges.flatMap fun r => List.range' r.1 (r.2 + 1 - r.1) := by
    refine List.mem_flatMap.mpr ⟨r, hr, List.mem_range'_1.mpr ⟨hlo, ?_⟩⟩
    omega
  have hempty := List.all_eq_true.mp hall c.toNat hmem
  rwa [Char.ofNat_toNat, List.isEmpty_iff] at hempty

/-! ### ASCII letters -/

/-- The letters with a variant that is no ASCII letter. -/
def strayLetters : List Char := ['k', 'K', 's', 'S']

/-- An ASCII letter or an underscore. -/
def isLetterLike (c : Char) : Bool := c.isAlpha || c == '_'

theorem letter_of_isLetterLike {c : Char} (h : isLetterLike c = true) :
    (0x41 ≤ c.toNat ∧ c.toNat ≤ 0x5A ∨ 0x61 ≤ c.toNat ∧ c.toNat ≤ 0x7A) ∨ c = '_' := by
  have h : (decide ('A'.val ≤ c.val ∧ c.val ≤ 'Z'.val) ||
      (decide ('a'.val ≤ c.val) && decide (c.val ≤ 'z'.val)) || c == '_') = true := h
  simp only [Bool.or_eq_true, Bool.and_eq_true, decide_eq_true_eq, beq_iff_eq,
    UInt32.le_iff_toNat_le] at h
  exact h

theorem toNat_of_isLetterLike {c : Char} (h : isLetterLike c = true) :
    0x41 ≤ c.toNat ∧ c.toNat ≤ 0x7A := by
  rcases letter_of_isLetterLike h with (h | h) | rfl
  · exact ⟨h.1, Nat.le_trans h.2 (by decide)⟩
  · exact ⟨Nat.le_trans (by decide) h.1, h.2⟩
  · decide

theorem holds_asciiWord_of_letter {c : Char}
    (h : 0x41 ≤ c.toNat ∧ c.toNat ≤ 0x5A ∨ 0x61 ≤ c.toNat ∧ c.toNat ≤ 0x7A) :
    CharSet.asciiWord.holds c = true := by
  simp only [CharSet.asciiWord, CharSet.ofRanges, List.foldr, CharSet.holds, Bool.or_eq_true,
    Bool.and_eq_true, decide_eq_true_eq, Char.le_def, UInt32.le_iff_toNat_le]
  rcases h with h | h
  · exact .inl h
  · exact .inr (.inl h)

theorem holds_asciiWord_of_isLetterLike {c : Char} (h : isLetterLike c = true) :
    CharSet.asciiWord.holds c = true := by
  rcases letter_of_isLetterLike h with h | rfl
  · exact holds_asciiWord_of_letter h
  · decide

/-- **Only ASCII letters have an ASCII letter among their variants,** stray ones apart. -/
theorem holds_asciiWord_of_mem_caseVariants {c d : Char} (hc : isLetterLike c = true)
    (hstray : c ∉ strayLetters) (h : c ∈ caseVariants d) : CharSet.asciiWord.holds d = true := by
  obtain ⟨hlo, hhi⟩ := toNat_of_isLetterLike hc
  have hnumber {m : Nat} (h : Char.ofNat m = c) : m ≤ 0x7A := by
    rw [← h] at hlo hhi
    by_cases hm : m.isValidChar
    · rwa [Char.ofNat, dif_pos hm] at hhi
    · rw [Char.ofNat, dif_neg hm] at hlo
      exact absurd hlo (by decide)
  unfold caseVariants at h
  dsimp only at h
  split at h
  · rename_i set hset
    have hall : (caseSets.all fun set => set.all fun k =>
        !isLetterLike (Char.ofNat k) || strayLetters.contains (Char.ofNat k)) = true := by
      decide
    obtain ⟨k, hk, rfl⟩ := List.mem_map.mp h
    have hk := List.all_eq_true.mp (List.all_eq_true.mp hall set (List.mem_of_find?_eq_some hset))
      k (List.mem_filter.mp hk).1
    rw [hc, Bool.not_true, Bool.false_or, List.contains_iff_mem] at hk
    exact absurd hk hstray
  · split at h
    · rename_i m hm
      have hall : (casePairs.all fun row => 0x7A < row.image ||
          0x41 ≤ row.first && row.last ≤ 0x5A) = true := by decide
      obtain ⟨row, hrow, hm⟩ := List.exists_of_findSome?_eq_some hm
      have hrow := List.all_eq_true.mp hall row hrow
      have hle := hnumber (List.mem_singleton.mp h).symm
      rw [CaseRow.image?] at hm
      split_ifs at hm with hin
      cases hm
      simp only [Bool.or_eq_true, Bool.and_eq_true, decide_eq_true_eq] at hrow
      exact holds_asciiWord_of_letter (.inl (by omega))
    · have hall : (casePairs.all fun row => 0x7A < row.first ||
          0x61 ≤ row.image && row.image + (row.last - row.first) ≤ 0x7A) = true := by
        decide
      obtain ⟨m, hm, hc⟩ := Option.map_eq_some_iff.mp (Option.mem_toList.mp h)
      obtain ⟨row, hrow, hm⟩ := List.exists_of_findSome?_eq_some hm
      have hrow := List.all_eq_true.mp hall row hrow
      have hle := hnumber hc
      rw [CaseRow.source?] at hm
      split_ifs at hm with hin
      cases hm
      simp only [Bool.or_eq_true, Bool.and_eq_true, decide_eq_true_eq] at hrow
      exact holds_asciiWord_of_letter (.inr (by omega))

end TextMasking.Unicode
