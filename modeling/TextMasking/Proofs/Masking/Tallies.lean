import Mathlib.Algebra.GroupWithZero.Nat
import Mathlib.Data.List.Induction
import TextMasking.Masking.Report

/-! # Tallies and merged reports

Items are tallied under the first one with their pattern.  So a tally keeps the order in which
patterns first came, and for each of them the placeholder that came first and the sum of all counts
(`Report.amount_foldl_tally`).  Tallying a tally is tallying its items one by one
(`Report.foldl_tally_foldl`), and so merging reports is associative (`Report.merge_assoc`): a report
into which others are merged does not depend on how these were merged before
(`Report.merge_mergeAll`). -/

namespace TextMasking

namespace Report

variable {items more : List SummaryItem} {item other : SummaryItem} {pattern replacement : String}

/-! ### Tallying -/

/-- The sum of all counts. -/
def total (items : List SummaryItem) : Nat :=
  (items.map (·.occurrences)).sum

/-- The sum of the counts of a pattern. -/
def countOf (items : List SummaryItem) (pattern : String) : Nat :=
  total (items.filter (·.pattern = pattern))

/-- The sum of the counts of a pattern with a placeholder. -/
def amount (items : List SummaryItem) (pattern replacement : String) : Nat :=
  total (items.filter fun i => i.pattern = pattern ∧ i.replacement = replacement)

/-- The placeholder that comes first with a pattern. -/
def placeholder? (items : List SummaryItem) (pattern : String) : Option String :=
  (items.find? (·.pattern = pattern)).map (·.replacement)

theorem total_tally (items : List SummaryItem) (item : SummaryItem) :
    total (tally items item) = total items + item.occurrences := by
  unfold total
  induction items with
  | nil => simp [tally]
  | cons first rest ih =>
      rw [tally]
      split_ifs
      · simp
        omega
      · simp [ih]
        omega

theorem total_foldl_tally (items more : List SummaryItem) :
    total (more.foldl tally items) = total items + total more := by
  induction more generalizing items with
  | nil => simp [total]
  | cons item more ih =>
      rw [List.foldl_cons, ih, total_tally]
      simp [total]
      omega

theorem countOf_tally (items : List SummaryItem) (item : SummaryItem) (pattern : String) :
    countOf (tally items item) pattern =
      countOf items pattern + if item.pattern = pattern then item.occurrences else 0 := by
  unfold countOf total
  induction items with
  | nil => by_cases h : item.pattern = pattern <;> simp [tally, h]
  | cons first rest ih =>
      rw [tally]
      by_cases he : first.pattern = item.pattern
      · by_cases h : item.pattern = pattern
        · simp [he, h]
          omega
        · simp [he, h]
      · rw [if_neg he]
        by_cases h : first.pattern = pattern
        · simp [h, ih, Nat.add_assoc]
        · simp [h, ih]

theorem countOf_foldl_tally (items more : List SummaryItem) (pattern : String) :
    countOf (more.foldl tally items) pattern = countOf items pattern + countOf more pattern := by
  induction more generalizing items with
  | nil => rfl
  | cons item more ih =>
      rw [List.foldl_cons, ih, countOf_tally, Nat.add_assoc]
      unfold countOf total
      by_cases h : item.pattern = pattern <;> simp [h]

/-- Two items with one pattern are tallied like the first one with both counts. -/
theorem tally_tally_self (items : List SummaryItem) (h : item.pattern = other.pattern) :
    tally (tally items item) other =
      tally items { item with occurrences := item.occurrences + other.occurrences } := by
  induction items with
  | nil => simp [tally, h]
  | cons first rest ih =>
      by_cases hf : first.pattern = item.pattern
      · simp [tally, hf, h, Nat.add_assoc]
      · have hf' : first.pattern ≠ other.pattern := h ▸ hf
        simp [tally, hf, hf', ih]

/-- An item whose pattern is there may be tallied earlier. -/
theorem tally_comm (h : ∃ i ∈ items, i.pattern = other.pattern) :
    tally (tally items item) other = tally (tally items other) item := by
  induction items with
  | nil =>
      obtain ⟨i, hi, -⟩ := h
      cases hi
  | cons first rest ih =>
      by_cases hi : first.pattern = item.pattern
      · by_cases ho : first.pattern = other.pattern
        · simp [tally, hi, hi.symm.trans ho]
          omega
        · have hne : item.pattern ≠ other.pattern := hi ▸ ho
          simp [tally, hi, hne]
      · by_cases ho : first.pattern = other.pattern
        · have hne : other.pattern ≠ item.pattern := ho ▸ hi
          simp [tally, hne, ho]
        · have hrest : ∃ i ∈ rest, i.pattern = other.pattern := by
            obtain ⟨i, hmem, hpat⟩ := h
            refine ⟨i, (List.mem_cons.mp hmem).resolve_left ?_, hpat⟩
            rintro rfl
            exact ho hpat
          simp [tally, hi, ho, ih hrest]

theorem exists_mem_tally (items : List SummaryItem) (item : SummaryItem) :
    ∃ i ∈ tally items item, i.pattern = item.pattern := by
  induction items with
  | nil => exact ⟨item, List.mem_singleton.mpr rfl, rfl⟩
  | cons first rest ih =>
      rw [tally]
      split_ifs with h
      · exact ⟨_, List.mem_cons_self, h⟩
      · obtain ⟨i, hi, hpat⟩ := ih
        exact ⟨i, List.mem_cons_of_mem _ hi, hpat⟩

theorem exists_mem_tally_of_mem (h : ∃ i ∈ items, i.pattern = pattern) :
    ∃ i ∈ tally items item, i.pattern = pattern := by
  obtain ⟨i, hi, rfl⟩ := h
  induction items with
  | nil => cases hi
  | cons first rest ih =>
      rw [tally]
      split_ifs
      · cases List.mem_cons.mp hi with
        | inl e => exact ⟨_, List.mem_cons_self, by rw [e]⟩
        | inr hi => exact ⟨i, List.mem_cons_of_mem _ hi, rfl⟩
      · cases List.mem_cons.mp hi with
        | inl e => exact ⟨i, e ▸ List.mem_cons_self, rfl⟩
        | inr hi =>
            obtain ⟨j, hj, hpat⟩ := ih hi
            exact ⟨j, List.mem_cons_of_mem _ hj, hpat⟩

/-- An item whose pattern is there may be tallied before others. -/
theorem foldl_tally_comm (h : ∃ i ∈ items, i.pattern = item.pattern) :
    tally (more.foldl tally items) item = more.foldl tally (tally items item) := by
  induction more generalizing items with
  | nil => rfl
  | cons first more ih =>
      rw [List.foldl_cons, List.foldl_cons, ih (exists_mem_tally_of_mem h), tally_comm h]

/-- The items of a tally are tallied like the items that it was made from. -/
theorem foldl_tally_tally (items more : List SummaryItem) (item : SummaryItem) :
    (tally more item).foldl tally items = tally (more.foldl tally items) item := by
  induction more generalizing items with
  | nil => rfl
  | cons first more ih =>
      rw [tally]
      split_ifs with h
      · rw [List.foldl_cons, List.foldl_cons, ← tally_tally_self items h, foldl_tally_comm]
        rw [← h]
        exact exists_mem_tally items first
      · exact ih (tally items first)

theorem foldl_tally_foldl (items more later : List SummaryItem) :
    (later.foldl tally more).foldl tally items = later.foldl tally (more.foldl tally items) := by
  induction later generalizing more with
  | nil => rfl
  | cons item later ih => rw [List.foldl_cons, List.foldl_cons, ih, foldl_tally_tally]

/-! ### What a tally lists -/

theorem placeholder?_cons (first : SummaryItem) (rest : List SummaryItem) (pattern : String) :
    placeholder? (first :: rest) pattern =
      if first.pattern = pattern then some first.replacement else placeholder? rest pattern := by
  unfold placeholder?
  by_cases h : first.pattern = pattern <;> simp [h]

theorem amount_cons (first : SummaryItem) (rest : List SummaryItem)
    (pattern replacement : String) :
    amount (first :: rest) pattern replacement =
      (if first.pattern = pattern ∧ first.replacement = replacement then first.occurrences else 0) +
        amount rest pattern replacement := by
  unfold amount total
  by_cases h : first.pattern = pattern ∧ first.replacement = replacement <;> simp [h]

/-- The placeholder of a pattern is the first one. -/
theorem placeholder?_tally (items : List SummaryItem) (item : SummaryItem) (pattern : String) :
    placeholder? (tally items item) pattern =
      (placeholder? items pattern).or
        (if item.pattern = pattern then some item.replacement else none) := by
  induction items with
  | nil => simp [tally, placeholder?]
  | cons first rest ih =>
      by_cases hi : first.pattern = item.pattern
      · rw [tally, if_pos hi, placeholder?_cons, placeholder?_cons]
        by_cases hf : first.pattern = pattern
        · simp [hf]
        · have hne : item.pattern ≠ pattern := hi ▸ hf
          simp [hf, hne]
      · rw [tally, if_neg hi, placeholder?_cons, placeholder?_cons, ih]
        by_cases hf : first.pattern = pattern <;> simp [hf]

/-- A count goes to the placeholder that is listed with the pattern. -/
theorem amount_tally (items : List SummaryItem) (item : SummaryItem)
    (pattern replacement : String) :
    amount (tally items item) pattern replacement = amount items pattern replacement +
      if item.pattern = pattern ∧
          (placeholder? items pattern).getD item.replacement = replacement then
        item.occurrences else 0 := by
  induction items with
  | nil =>
      rw [tally, amount_cons]
      by_cases h : item.pattern = pattern ∧ item.replacement = replacement <;>
        simp [placeholder?, amount, total, h]
  | cons first rest ih =>
      by_cases hi : first.pattern = item.pattern
      · rw [tally, if_pos hi, amount_cons, amount_cons, placeholder?_cons]
        by_cases hf : first.pattern = pattern
        · have he : item.pattern = pattern := hi.symm.trans hf
          by_cases hr : first.replacement = replacement
          · simp [hf, he, hr]
            omega
          · simp [hf, he, hr]
        · have hne : item.pattern ≠ pattern := hi ▸ hf
          simp [hf, hne]
      · rw [tally, if_neg hi, amount_cons, amount_cons, placeholder?_cons, ih]
        by_cases hf : first.pattern = pattern
        · have hne : item.pattern ≠ pattern := fun e => hi (hf.trans e.symm)
          simp [hne]
        · simp [hf]

theorem countOf_eq_zero (h : placeholder? items pattern = none) : countOf items pattern = 0 := by
  unfold placeholder? at h
  rw [Option.map_eq_none_iff, List.find?_eq_none] at h
  rw [countOf, List.filter_eq_nil_iff.mpr h]
  rfl

theorem placeholder?_foldl_tally (items more : List SummaryItem) (pattern : String) :
    placeholder? (more.foldl tally items) pattern =
      (placeholder? items pattern).or (placeholder? more pattern) := by
  induction more generalizing items with
  | nil => simp [placeholder?]
  | cons first more ih =>
      rw [List.foldl_cons, ih, placeholder?_tally, placeholder?_cons, Option.or_assoc]
      split_ifs <;> simp

/-- **A tally lists each pattern with the placeholder that came first and the sum of all
counts.** -/
theorem amount_foldl_tally (items : List SummaryItem) (pattern replacement : String) :
    amount (items.foldl tally []) pattern replacement =
      if placeholder? items pattern = some replacement then countOf items pattern else 0 := by
  induction items using List.reverseRecOn with
  | nil => simp [amount, total, placeholder?]
  | append_singleton items item ih =>
      have hfirst : placeholder? (items ++ [item]) pattern = (placeholder? items pattern).or
          (if item.pattern = pattern then some item.replacement else none) := by
        unfold placeholder?
        rw [List.find?_append, Option.map_or]
        by_cases h : item.pattern = pattern <;> simp [h]
      have hcount : countOf (items ++ [item]) pattern =
          countOf items pattern + if item.pattern = pattern then item.occurrences else 0 := by
        unfold countOf total
        by_cases h : item.pattern = pattern <;> simp [h]
      have hsame : placeholder? (items.foldl tally []) pattern = placeholder? items pattern :=
        placeholder?_foldl_tally [] items pattern
      rw [List.foldl_append, List.foldl_cons, List.foldl_nil, amount_tally, ih, hfirst, hcount,
        hsame]
      cases hp : placeholder? items pattern with
      | none =>
          rw [countOf_eq_zero hp]
          by_cases hi : item.pattern = pattern <;> simp [hi]
      | some first =>
          by_cases hr : first = replacement <;> simp [hr]

/-! ### Merging -/

theorem mem_list {skips : List SkippedRule} {skip other : SkippedRule} :
    other ∈ list skips skip ↔ other ∈ skips ∨ other = skip := by
  unfold list
  split_ifs with h
  · rw [List.contains_iff_mem] at h
    constructor
    · exact .inl
    · rintro (hother | rfl)
      · exact hother
      · exact h
  · simp

theorem mem_foldl_list {skips more : List SkippedRule} {skip : SkippedRule} :
    skip ∈ more.foldl list skips ↔ skip ∈ skips ∨ skip ∈ more := by
  induction more generalizing skips with
  | nil => simp
  | cons first more ih => rw [List.foldl_cons, ih, mem_list, List.mem_cons, or_assoc]

/-- The skipped rules of a report are added like those that it was made from. -/
theorem foldl_list_list (skips more : List SkippedRule) (skip : SkippedRule) :
    (list more skip).foldl list skips = list (more.foldl list skips) skip := by
  by_cases h : skip ∈ more
  · have hmem : skip ∈ more.foldl list skips := mem_foldl_list.mpr (.inr h)
    rw [list, list, if_pos (List.contains_iff_mem.mpr h), if_pos (List.contains_iff_mem.mpr hmem)]
  · rw [list, if_neg (by simpa using h), List.foldl_append]
    rfl

theorem foldl_list_foldl (skips more later : List SkippedRule) :
    (later.foldl list more).foldl list skips = later.foldl list (more.foldl list skips) := by
  induction later generalizing more with
  | nil => rfl
  | cons skip later ih => rw [List.foldl_cons, List.foldl_cons, ih, foldl_list_list]

/-- **Merging is associative.** -/
theorem merge_assoc (a b c : Report) : (a.merge b).merge c = a.merge (b.merge c) := by
  simp only [merge, foldl_tally_foldl, foldl_list_foldl, Nat.add_assoc]

/-- A report into which merged reports are merged is merged with them one by one. -/
theorem merge_mergeAll (r : Report) (reports : List Report) :
    r.merge (mergeAll reports) = reports.foldl merge r :=
  (List.foldl_hom (r.merge ·) fun acc first => merge_assoc r acc first).symm

theorem mergeAll_append (reports later : List Report) :
    mergeAll (reports ++ later) = (mergeAll reports).merge (mergeAll later) := by
  rw [merge_mergeAll, mergeAll, List.foldl_append]
  rfl

end Report

end TextMasking
