import TextMasking.Matching.Scan
import TextMasking.Proofs.Regex.Traversal

/-! # Scans as runs

A scan that is not given up is a run of searches (`Matcher.Scans`): each search takes the match it
finds, drops it and goes on behind its start, or ends the scan.  What a scan masks are parts of the
text one after the other, none of them empty (`Matcher.ordered_of_spans`). -/

namespace TextMasking

/-- Parts that follow one another from `lo` up to `hi`, none of them empty. -/
def Span.Ordered (lo hi : Nat) : List Span → Prop
  | [] => lo ≤ hi
  | s :: rest => lo ≤ s.start ∧ s.start < s.stop ∧ Ordered s.stop hi rest

theorem Span.Ordered.le {lo hi : Nat} {spans : List Span} (h : Ordered lo hi spans) : lo ≤ hi := by
  induction spans generalizing lo with
  | nil => exact h
  | cons s rest ih =>
      have := ih h.2.2
      have := h.1
      have := h.2.1
      omega

/-- Parts that follow one another lie between the ends of them all. -/
theorem Span.Ordered.of_mem {lo hi : Nat} {spans : List Span} (h : Ordered lo hi spans) {s : Span}
    (hs : s ∈ spans) : lo ≤ s.start ∧ s.start < s.stop ∧ s.stop ≤ hi := by
  induction spans generalizing lo with
  | nil => cases hs
  | cons s' rest ih =>
      obtain ⟨hlo, hlt, hrest⟩ := h
      rcases List.mem_cons.mp hs with rfl | hs
      · exact ⟨hlo, hlt, hrest.le⟩
      · obtain ⟨hle, hmem⟩ := ih hrest hs
        exact ⟨by omega, hmem⟩

namespace Matcher

/-- A match that a search from `start` finds, with its body. -/
structure Finds (m : Matcher) (t : ScanText) (start : Nat) (found : Match) (body : Span) :
    Prop where
  start_le : start ≤ t.whole.length
  find_eq : m.regex.find t.whole start = some found
  span?_eq : found.caps.span? bodyGroup = some body

/-- The rest of a scan from `start` on that takes bodies from `lastEnd` on and is not given up, with
what it takes. -/
inductive Scans (m : Matcher) (t : ScanText) : Nat → Nat → List Span → Prop
  | past (start lastEnd : Nat) (h : t.whole.length < start) : Scans m t start lastEnd []
  | none (start lastEnd : Nat) (hs : start ≤ t.whole.length)
      (h : m.regex.find t.whole start = .none) : Scans m t start lastEnd []
  | beyond (start lastEnd : Nat) (found : Match) (body : Span) (h : Finds m t start found body)
      (hb : t.hi ≤ body.start)
      (hne : ¬(body.start = body.stop ∧ t.lo ≤ body.start ∧ body.start ≤ t.hi)) :
      Scans m t start lastEnd []
  | take (start lastEnd : Nat) (found : Match) (body : Span) (h : Finds m t start found body)
      (hne : ¬(body.start = body.stop ∧ t.lo ≤ body.start ∧ body.start ≤ t.hi))
      (hb : lastEnd ≤ body.start ∧ lastEnd < body.stop ∧ body.stop ≤ t.hi) (more : List Span)
      (hmore : Scans m t (m.resume body.stop) body.stop more) :
      Scans m t start lastEnd (body :: more)
  | drop (start lastEnd : Nat) (found : Match) (body : Span) (h : Finds m t start found body)
      (hne : ¬(body.start = body.stop ∧ t.lo ≤ body.start ∧ body.start ≤ t.hi))
      (hlt : body.start < t.hi)
      (hb : ¬(lastEnd ≤ body.start ∧ lastEnd < body.stop ∧ body.stop ≤ t.hi)) (spans : List Span)
      (hmore : Scans m t (found.start + 1) lastEnd spans) : Scans m t start lastEnd spans

theorem scanFrom_eq (m : Matcher) (t : ScanText) (limit start lastEnd count : Nat) :
    m.scanFrom t limit start lastEnd count =
      if start ≤ t.whole.length then
        match m.regex.find t.whole start with
        | none => .ok []
        | some found =>
          match found.caps.span? bodyGroup with
          | none => .error .noBody
          | some body =>
            if body.start = body.stop ∧ t.lo ≤ body.start ∧ body.start ≤ t.hi then
              .error (.emptyMatch (t.byteOffset body.start))
            else if t.hi ≤ body.start then .ok []
            else if lastEnd ≤ body.start ∧ lastEnd < body.stop ∧ body.stop ≤ t.hi then
              if limit < count + 1 then .error (.tooMany limit)
              else (scanFrom m t limit (m.resume body.stop) body.stop (count + 1)).map (body :: ·)
            else scanFrom m t limit (found.start + 1) lastEnd count
      else .ok [] := by
  rw [scanFrom]
  by_cases hs : start ≤ t.whole.length
  · rw [dif_pos hs, if_pos hs]
    split
    · rename_i h
      rw [h]
    · rename_i found h
      rw [h]
      rfl
  · rw [dif_neg hs, if_neg hs]

/-- A scan that is not given up is such a run. -/
theorem scans_of_scanFrom {m : Matcher} {t : ScanText} {limit start lastEnd count : Nat}
    {spans : List Span} (h : m.scanFrom t limit start lastEnd count = .ok spans) :
    Scans m t start lastEnd spans := by
  induction start, lastEnd, count using scanFrom.induct m t limit
    generalizing spans with
  | case1 start lastEnd count hs hf =>
      rw [scanFrom_eq, if_pos hs, hf] at h
      cases h
      exact .none start lastEnd hs hf
  | case2 start lastEnd count hs found hf hb =>
      rw [scanFrom_eq, if_pos hs, hf] at h
      simp only [hb] at h
      cases h
  | case3 start lastEnd count hs found hf body hb hempty =>
      rw [scanFrom_eq, if_pos hs, hf] at h
      simp only [hb, if_pos hempty] at h
      cases h
  | case4 start lastEnd count hs found hf body hb hempty hhi =>
      rw [scanFrom_eq, if_pos hs, hf] at h
      simp only [hb, if_neg hempty, if_pos hhi] at h
      cases h
      exact .beyond start lastEnd found body ⟨hs, hf, hb⟩ hhi hempty
  | case5 start lastEnd count hs found hf body hb hempty hhi hbody hlimit =>
      rw [scanFrom_eq, if_pos hs, hf] at h
      simp only [hb, if_neg hempty, if_neg hhi, if_pos hbody, if_pos hlimit] at h
      cases h
  | case6 start lastEnd count hs found hf body hb hempty hhi hbody hlimit ih =>
      rw [scanFrom_eq, if_pos hs, hf] at h
      simp only [hb, if_neg hempty, if_neg hhi, if_pos hbody, if_neg hlimit] at h
      cases hmore : m.scanFrom t limit (m.resume body.stop) body.stop (count + 1) with
      | error e =>
          rw [hmore] at h
          cases h
      | ok more =>
          rw [hmore] at h
          cases h
          exact .take start lastEnd found body ⟨hs, hf, hb⟩ hempty hbody more (ih hmore)
  | case7 start lastEnd count hs found hf body hb hempty hhi hbody ih =>
      rw [scanFrom_eq, if_pos hs, hf] at h
      simp only [hb, if_neg hempty, if_neg hhi, if_neg hbody] at h
      exact .drop start lastEnd found body ⟨hs, hf, hb⟩ hempty (Nat.lt_of_not_le hhi) hbody spans
        (ih h)
  | case8 start lastEnd count hs =>
      rw [scanFrom_eq, if_neg hs] at h
      cases h
      exact .past start lastEnd (Nat.lt_of_not_le hs)

namespace Finds

variable {m : Matcher} {t : ScanText} {start : Nat} {found : Match} {body : Span}

/-- A body lies in what its match matched. -/
theorem within (h : Finds m t start found body) :
    start ≤ found.start ∧ found.start ≤ body.start ∧ body.start ≤ body.stop ∧
      body.stop ≤ found.stop ∧ found.stop ≤ t.whole.length :=
  ⟨Regex.le_start_of_find h.find_eq, Regex.span?_of_find h.start_le h.find_eq h.span?_eq⟩

end Finds

/-- What a run takes lies between where it began to take and the end of the text, in order. -/
theorem Scans.ordered {m : Matcher} {t : ScanText} {start lastEnd : Nat} {spans : List Span}
    (h : Scans m t start lastEnd spans) (hlo : t.lo ≤ lastEnd) (hhi : lastEnd ≤ t.hi) :
    Span.Ordered lastEnd t.hi spans := by
  induction h with
  | past => exact hhi
  | none => exact hhi
  | beyond => exact hhi
  | take start lastEnd found body h hne hb more hmore ih =>
      have := h.within
      refine ⟨hb.1, ?_, ih (by omega) hb.2.2⟩
      -- a body at which the text is split is not empty, or the scan would have been given up
      rcases Nat.eq_or_lt_of_le this.2.2.1 with e | hlt
      · exact absurd ⟨e, by omega, by omega⟩ hne
      · exact hlt
  | drop start lastEnd found body h hne hlt hb spans hmore ih => exact ih hlo hhi

/-- What a scan masks are parts of the text in order, none of them empty. -/
theorem ordered_of_spans {m : Matcher} {t : ScanText} {limit : Nat} {spans : List Span}
    (h : m.spans t limit = .ok spans) (ht : t.lo ≤ t.hi) : Span.Ordered t.lo t.hi spans :=
  (scans_of_scanFrom h).ordered (Nat.le_refl _) ht

end Matcher

end TextMasking
