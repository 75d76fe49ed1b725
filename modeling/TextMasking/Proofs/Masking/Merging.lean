import Mathlib.Data.List.Nodup
import TextMasking.Proofs.Masking.Tallies

/-! # Merging reports

Merging is associative, and the report of a pass that did nothing may be merged into any other.  A
report that others are merged into lists nothing twice if it did not before (`Report.Distinct`), so
that only a report that lists nothing twice stays as it is when it is merged into an empty one
(`Report.empty_merge_eq_iff`).

A machine counts in words, which hold only so much (`Counter`): a sum that is too large stops it, or
wraps around.  Either way, reports that it holds are merged (`Report.mergeIn`) into what it holds of
the merged report (`Report.mergeIn_hold`), so that merging stays associative. -/

namespace TextMasking

namespace Report

/-! ### Sums -/

theorem total_merge (a b : Report) :
    total (a.merge b).summary = total a.summary + total b.summary :=
  total_foldl_tally a.summary b.summary

/-- The masks made are those that the summary counts. -/
def Balanced (r : Report) : Prop :=
  r.masksCreated = total r.summary

theorem Balanced.merge {a b : Report} (ha : a.Balanced) (hb : b.Balanced) :
    (a.merge b).Balanced := by
  unfold Balanced at *
  calc (a.merge b).masksCreated
    _ = total a.summary + total b.summary := congrArg₂ (· + ·) ha hb
    _ = total (a.merge b).summary := (total_merge a b).symm

/-! ### Reports that list nothing twice -/

/-- No pattern is summed up twice, and no skipped rule is listed twice. -/
structure Distinct (r : Report) : Prop where
  summary : (r.summary.map (·.pattern)).Nodup
  compileSkips : r.compileSkips.Nodup
  scanSkips : r.scanSkips.Nodup

/-- An item with a new pattern is the last one of its tally. -/
theorem tally_of_not_mem {items : List SummaryItem} {item : SummaryItem}
    (h : item.pattern ∉ items.map (·.pattern)) : tally items item = items ++ [item] := by
  induction items with
  | nil => rfl
  | cons first rest ih =>
      rw [List.map_cons, List.mem_cons, not_or] at h
      rw [tally, if_neg (Ne.symm h.1), ih h.2]
      rfl

/-- An item with a pattern that is there adds no pattern. -/
theorem patterns_tally_of_mem {items : List SummaryItem} {item : SummaryItem}
    (h : item.pattern ∈ items.map (·.pattern)) :
    (tally items item).map (·.pattern) = items.map (·.pattern) := by
  induction items with
  | nil => cases h
  | cons first rest ih =>
      rw [tally]
      split_ifs with he
      · rfl
      · have hrest := (List.mem_cons.mp h).resolve_left (Ne.symm he)
        rw [List.map_cons, ih hrest, List.map_cons]

theorem nodup_foldl_tally {items : List SummaryItem} (h : (items.map (·.pattern)).Nodup)
    (more : List SummaryItem) : ((more.foldl tally items).map (·.pattern)).Nodup := by
  induction more generalizing items with
  | nil => exact h
  | cons item more ih =>
      refine ih ?_
      by_cases hmem : item.pattern ∈ items.map (·.pattern)
      · rwa [patterns_tally_of_mem hmem]
      · rw [tally_of_not_mem hmem, List.map_append]
        exact h.append (List.nodup_singleton _) (List.disjoint_singleton.mpr hmem)

theorem nodup_foldl_list {skips : List SkippedRule} (h : skips.Nodup) (more : List SkippedRule) :
    (more.foldl list skips).Nodup := by
  induction more generalizing skips with
  | nil => exact h
  | cons skip more ih =>
      refine ih ?_
      rw [list]
      split_ifs with hmem
      · exact h
      · exact h.append (List.nodup_singleton _) (List.disjoint_singleton.mpr (by simpa using hmem))

/-- Items with different patterns are tallied as they are. -/
theorem foldl_tally_of_nodup {items more : List SummaryItem}
    (h : ((items ++ more).map (·.pattern)).Nodup) : more.foldl tally items = items ++ more := by
  induction more generalizing items with
  | nil => simp
  | cons item more ih =>
      have hnew : item.pattern ∉ items.map (·.pattern) := by
        rw [List.map_append, List.nodup_append'] at h
        exact fun hmem => h.2.2 hmem List.mem_cons_self
      rw [List.foldl_cons, tally_of_not_mem hnew, ih (by rwa [← List.append_cons]),
        ← List.append_cons]

theorem foldl_list_of_nodup {skips more : List SkippedRule} (h : (skips ++ more).Nodup) :
    more.foldl list skips = skips ++ more := by
  induction more generalizing skips with
  | nil => simp
  | cons skip more ih =>
      have hnew : skip ∉ skips := fun hmem =>
        (List.nodup_append'.mp h).2.2 hmem List.mem_cons_self
      rw [List.foldl_cons, list, if_neg (by simpa using hnew), ih (by rwa [← List.append_cons]),
        ← List.append_cons]

/-- Whatever is merged into a report that lists nothing twice, it lists nothing twice. -/
theorem Distinct.merge {a : Report} (h : a.Distinct) (b : Report) : (a.merge b).Distinct where
  summary := nodup_foldl_tally h.summary b.summary
  compileSkips := nodup_foldl_list h.compileSkips b.compileSkips
  scanSkips := nodup_foldl_list h.scanSkips b.scanSkips

/-- The report of passes in order lists nothing twice. -/
theorem distinct_mergeAll (reports : List Report) : (mergeAll reports).Distinct := by
  have hempty : empty.Distinct := ⟨.nil, .nil, .nil⟩
  unfold mergeAll
  generalize empty = r at hempty
  induction reports generalizing r with
  | nil => exact hempty
  | cons first reports ih => exact ih _ (hempty.merge first)

/-- **Only a report that lists nothing twice stays as it is** when it is merged into an empty
one. -/
theorem empty_merge_eq_iff {r : Report} : empty.merge r = r ↔ r.Distinct := by
  constructor
  · intro h
    rw [← h]
    exact distinct_mergeAll [r]
  · intro h
    have hsummary : r.summary.foldl tally [] = r.summary := foldl_tally_of_nodup h.summary
    have hcompile : r.compileSkips.foldl list [] = r.compileSkips :=
      foldl_list_of_nodup h.compileSkips
    have hscan : r.scanSkips.foldl list [] = r.scanSkips := foldl_list_of_nodup h.scanSkips
    simp [merge, empty, hsummary, hcompile, hscan]

end Report

/-! ### Counting in words -/

/-- How a machine counts: what a word holds of a count, unless the count is too large, and how what
two words hold is added. -/
structure Counter where
  hold : Nat → Option Nat
  add : Nat → Nat → Option Nat
  add_eq {m n m' n' : Nat} : hold m = some m' → hold n = some n' → add m' n' = hold (m + n)
  hold_add {m : Nat} (n : Nat) : hold m = none → hold (m + n) = none

namespace Counter

/-- Words hold the counts below a size, and a sum that reaches the size stops the machine. -/
def checked (size : Nat) : Counter where
  hold n := if n < size then some n else none
  add m n := if m + n < size then some (m + n) else none
  add_eq := by grind
  hold_add := by grind

/-- Words hold what is left of a count when it is divided by a size. -/
def wrapping (size : Nat) : Counter where
  hold n := some (n % size)
  add m n := some ((m + n) % size)
  add_eq := by
    rintro m n _ _ ⟨⟩ ⟨⟩
    rw [← Nat.add_mod]
  hold_add := nofun

variable {w : Counter} {size n : Nat}

theorem hold_add_right (w : Counter) (m : Nat) (h : w.hold n = none) : w.hold (m + n) = none := by
  rw [Nat.add_comm]
  exact w.hold_add m h

/-- A count below the size is held as it is. -/
theorem hold_of_lt (hw : w ∈ [checked size, wrapping size]) (h : n < size) :
    w.hold n = some n := by
  rw [List.mem_pair] at hw
  rcases hw with rfl | rfl
  · exact if_pos h
  · exact congrArg some (Nat.mod_eq_of_lt h)

/-- What is held of a count differs from it by a multiple of the size. -/
theorem mod_eq_of_hold {m : Nat} (hw : w ∈ [checked size, wrapping size])
    (h : w.hold n = some m) : m % size = n % size := by
  rw [List.mem_pair] at hw
  rcases hw with rfl | rfl
  · obtain ⟨-, hsome⟩ := Option.ite_none_right_eq_some.mp h
    cases hsome
    rfl
  · cases h
    exact Nat.mod_mod n size

end Counter

namespace Report

variable {w : Counter} {items more items' more' : List SummaryItem} {item item' : SummaryItem}

/-- Counts an item in words, otherwise like `tally`. -/
def tallyIn (w : Counter) : List SummaryItem → SummaryItem → Option (List SummaryItem)
  | [], item => some [item]
  | first :: rest, item =>
    if first.pattern = item.pattern then
      (w.add first.occurrences item.occurrences).map fun n =>
        { first with occurrences := n } :: rest
    else (tallyIn w rest item).map (first :: ·)

/-- The report of one pass after another, counted in words; nothing if the machine stops. -/
def mergeIn (r : Report) (w : Counter) (later : Report) : Option Report := do
  let masksCreated ← w.add r.masksCreated later.masksCreated
  let unitsLeftUnmodified ← w.add r.unitsLeftUnmodified later.unitsLeftUnmodified
  let summary ← later.summary.foldlM (tallyIn w) r.summary
  return {
    masksCreated
    summary
    compileSkips := later.compileSkips.foldl list r.compileSkips
    scanSkips := later.scanSkips.foldl list r.scanSkips
    unitsLeftUnmodified }

/-- The items with what is held of their counts. -/
def holdItems (w : Counter) : List SummaryItem → Option (List SummaryItem)
  | [] => some []
  | first :: rest =>
    (w.hold first.occurrences).bind fun n =>
      (holdItems w rest).map fun rest => { first with occurrences := n } :: rest

/-- The report with what is held of its counts. -/
def hold (r : Report) (w : Counter) : Option Report := do
  let masksCreated ← w.hold r.masksCreated
  let unitsLeftUnmodified ← w.hold r.unitsLeftUnmodified
  let summary ← holdItems w r.summary
  return { r with masksCreated, summary, unitsLeftUnmodified }

theorem exists_of_holdItems_cons (h : holdItems w (item :: items) = some items') :
    ∃ n rest, w.hold item.occurrences = some n ∧ holdItems w items = some rest ∧
      items' = { item with occurrences := n } :: rest := by
  obtain ⟨n, hitem, h⟩ := Option.bind_eq_some_iff.mp h
  obtain ⟨rest, hrest, rfl⟩ := Option.map_eq_some_iff.mp h
  exact ⟨n, rest, hitem, hrest, rfl⟩

/-- An item is counted among items that are held as their tally is held. -/
theorem tallyIn_hold {n : Nat} (h : holdItems w items = some items')
    (hitem : w.hold item.occurrences = some n) :
    tallyIn w items' { item with occurrences := n } = holdItems w (tally items item) := by
  induction items generalizing items' with
  | nil =>
      cases h
      rw [tally, holdItems, hitem]
      rfl
  | cons first rest ih =>
      obtain ⟨k, rest', hk, hrest, rfl⟩ := exists_of_holdItems_cons h
      by_cases he : first.pattern = item.pattern
      · simp only [tally, tallyIn, if_pos he, holdItems, w.add_eq hk hitem, hrest]
        cases w.hold (first.occurrences + item.occurrences) <;> rfl
      · simp only [tally, tallyIn, if_neg he, holdItems, hk, ih hrest]
        rfl

/-- A count that is too large is too large in a tally. -/
theorem holdItems_tally_eq_none
    (h : holdItems w items = none ∨ w.hold item.occurrences = none) :
    holdItems w (tally items item) = none := by
  induction items with
  | nil =>
      rw [tally, holdItems, h.resolve_left (Option.some_ne_none [])]
      rfl
  | cons first rest ih =>
      rw [tally]
      cases hfirst : w.hold first.occurrences with
      | none =>
          split_ifs
          · rw [holdItems, w.hold_add _ hfirst]
            rfl
          · rw [holdItems, hfirst]
            rfl
      | some n =>
          have hrest : holdItems w rest = none ∨ w.hold item.occurrences = none :=
            h.imp_left fun h => by simpa [holdItems, hfirst] using h
          split_ifs
          · rw [holdItems]
            rcases hrest with hrest | hitem
            · simp [hrest]
            · rw [w.hold_add_right _ hitem]
              rfl
          · simp [holdItems, ih hrest]

theorem holdItems_foldl_eq_none (h : holdItems w items = none ∨ holdItems w more = none) :
    holdItems w (more.foldl tally items) = none := by
  induction more generalizing items with
  | nil => exact h.resolve_right (Option.some_ne_none [])
  | cons item more ih =>
      refine ih ?_
      rcases h with h | h
      · exact .inl (holdItems_tally_eq_none (.inl h))
      · cases hitem : w.hold item.occurrences with
        | none => exact .inl (holdItems_tally_eq_none (.inr hitem))
        | some n => exact .inr (by simpa [holdItems, hitem] using h)

theorem foldlM_tallyIn_hold (h : holdItems w items = some items')
    (hmore : holdItems w more = some more') :
    more'.foldlM (tallyIn w) items' = holdItems w (more.foldl tally items) := by
  induction more generalizing items items' more' with
  | nil =>
      cases hmore
      exact h.symm
  | cons item more ih =>
      obtain ⟨n, more', hitem, hmore', rfl⟩ := exists_of_holdItems_cons hmore
      rw [List.foldlM_cons, List.foldl_cons, tallyIn_hold h hitem]
      cases htally : holdItems w (tally items item) with
      | none => exact (holdItems_foldl_eq_none (.inl htally)).symm
      | some items₁ => exact ih htally hmore'

section

variable {a b c a' b' c' r : Report} {size : Nat}

/-- What is held of a report, count by count. -/
theorem hold_eq_some_iff : a.hold w = some r ↔
    ∃ masks left summary, w.hold a.masksCreated = some masks ∧
      w.hold a.unitsLeftUnmodified = some left ∧ holdItems w a.summary = some summary ∧
      r = ⟨masks, summary, a.compileSkips, a.scanSkips, left⟩ := by
  unfold hold
  simp only [Option.bind_eq_bind, Option.bind_eq_some_iff, pure, Option.some.injEq]
  grind

/-- **A machine merges what it holds of two reports into what it holds of the merged report,** and
stops if it cannot hold that. -/
theorem mergeIn_hold (ha : a.hold w = some a') (hb : b.hold w = some b') :
    a'.mergeIn w b' = (a.merge b).hold w := by
  obtain ⟨masks, left, summary, hmasks, hleft, hsummary, rfl⟩ := hold_eq_some_iff.mp ha
  obtain ⟨masks', left', summary', hmasks', hleft', hsummary', rfl⟩ := hold_eq_some_iff.mp hb
  simp only [mergeIn, hold, merge, w.add_eq hmasks hmasks', w.add_eq hleft hleft',
    foldlM_tallyIn_hold hsummary hsummary']

theorem hold_eq_none_iff : a.hold w = none ↔ w.hold a.masksCreated = none ∨
    w.hold a.unitsLeftUnmodified = none ∨ holdItems w a.summary = none := by
  unfold hold
  cases w.hold a.masksCreated <;> cases w.hold a.unitsLeftUnmodified <;>
    cases holdItems w a.summary <;> simp

/-- A report that is too large is too large when it is merged. -/
theorem hold_merge_eq_none (h : a.hold w = none ∨ b.hold w = none) :
    (a.merge b).hold w = none := by
  simp only [hold_eq_none_iff] at h ⊢
  rcases h with (h | h | h) | (h | h | h)
  · exact .inl (w.hold_add _ h)
  · exact .inr (.inl (w.hold_add _ h))
  · exact .inr (.inr (holdItems_foldl_eq_none (.inl h)))
  · exact .inl (w.hold_add_right _ h)
  · exact .inr (.inl (w.hold_add_right _ h))
  · exact .inr (.inr (holdItems_foldl_eq_none (.inr h)))

/-- Merging in words is associative: a machine stops in both orders or in none. -/
theorem mergeIn_assoc (ha : a.hold w = some a') (hb : b.hold w = some b')
    (hc : c.hold w = some c') :
    (a'.mergeIn w b').bind (·.mergeIn w c') = (b'.mergeIn w c').bind (a'.mergeIn w ·) := by
  -- where the first merging stops, so does the exact report of all three
  have hleft : (a'.mergeIn w b').bind (·.mergeIn w c') = ((a.merge b).merge c).hold w := by
    rw [mergeIn_hold ha hb]
    cases hab : (a.merge b).hold w with
    | none => exact (hold_merge_eq_none (.inl hab)).symm
    | some ab => exact mergeIn_hold hab hc
  have hright : (b'.mergeIn w c').bind (a'.mergeIn w ·) = (a.merge (b.merge c)).hold w := by
    rw [mergeIn_hold hb hc]
    cases hbc : (b.merge c).hold w with
    | none => exact (hold_merge_eq_none (.inr hbc)).symm
    | some bc => exact mergeIn_hold ha hbc
  rw [hleft, hright, merge_assoc]

/-! ### Reports of words -/

/-- Every count of the report is below a size. -/
structure Fits (r : Report) (size : Nat) : Prop where
  masksCreated : r.masksCreated < size
  unitsLeftUnmodified : r.unitsLeftUnmodified < size
  summary : ∀ i ∈ r.summary, i.occurrences < size

theorem holdItems_of_forall_lt (hw : w ∈ [Counter.checked size, Counter.wrapping size])
    (h : ∀ i ∈ items, i.occurrences < size) : holdItems w items = some items := by
  induction items with
  | nil => rfl
  | cons first rest ih =>
      obtain ⟨hfirst, hrest⟩ := List.forall_mem_cons.mp h
      rw [holdItems, Counter.hold_of_lt hw hfirst, ih hrest]
      rfl

/-- A report that fits is held as it is. -/
theorem Fits.hold_eq (h : r.Fits size)
    (hw : w ∈ [Counter.checked size, Counter.wrapping size]) : r.hold w = some r :=
  hold_eq_some_iff.mpr ⟨_, _, _, Counter.hold_of_lt hw h.masksCreated,
    Counter.hold_of_lt hw h.unitsLeftUnmodified, holdItems_of_forall_lt hw h.summary, rfl⟩

theorem total_cons (item : SummaryItem) (items : List SummaryItem) :
    total (item :: items) = item.occurrences + total items := by simp [total]

theorem total_mod_of_hold (hw : w ∈ [Counter.checked size, Counter.wrapping size])
    (h : holdItems w items = some items') : total items' % size = total items % size := by
  induction items generalizing items' with
  | nil =>
      cases h
      rfl
  | cons first rest ih =>
      obtain ⟨n, rest', hfirst, hrest, rfl⟩ := exists_of_holdItems_cons h
      rw [total_cons, total_cons, Nat.add_mod, ih hrest, Counter.mod_eq_of_hold hw hfirst, ← Nat.add_mod]

/-- As far as words tell, the masks made are those that the summary counts. -/
def BalancedIn (r : Report) (size : Nat) : Prop :=
  r.masksCreated % size = total r.summary % size

theorem BalancedIn.merge (ha : a.BalancedIn size) (hb : b.BalancedIn size) :
    (a.merge b).BalancedIn size := by
  unfold BalancedIn at *
  calc (a.masksCreated + b.masksCreated) % size
    _ = (total a.summary + total b.summary) % size := by
      rw [Nat.add_mod, ha, hb, ← Nat.add_mod]
    _ = total (a.merge b).summary % size := by rw [total_merge]

theorem BalancedIn.of_hold (h : a.BalancedIn size)
    (hw : w ∈ [Counter.checked size, Counter.wrapping size]) (hr : a.hold w = some r) :
    r.BalancedIn size := by
  obtain ⟨masks, left, summary, hmasks, -, hsummary, rfl⟩ := hold_eq_some_iff.mp hr
  exact (Counter.mod_eq_of_hold hw hmasks).trans (h.trans (total_mod_of_hold hw hsummary).symm)

end

/-- **The laws of merging.**  Merging is associative, a report stays as it is when an empty one is
merged into it, and where the summaries count all masks, so does the merged one; merged into an
empty report, only a report that lists nothing twice stays as it is.  The same holds of reports that
fit into the words of a machine, whether a sum that is too large stops it or wraps around. -/
theorem merge_laws (a b c : Report) :
    (a.merge b).merge c = a.merge (b.merge c) ∧
      a.merge empty = a ∧ (empty.merge a = a ↔ a.Distinct) ∧
      (a.Balanced → b.Balanced → (a.merge b).Balanced) ∧
      ∀ size, a.Fits size → b.Fits size → c.Fits size →
        ∀ w ∈ [Counter.checked size, Counter.wrapping size],
          (a.mergeIn w b).bind (·.mergeIn w c) = (b.mergeIn w c).bind (a.mergeIn w ·) ∧
            a.mergeIn w empty = some a ∧ a.mergeIn w b = (a.merge b).hold w ∧
            (a.BalancedIn size → b.BalancedIn size →
              ∀ r, a.mergeIn w b = some r → r.BalancedIn size) := by
  refine ⟨merge_assoc a b c, merge_empty a, empty_merge_eq_iff, Balanced.merge, ?_⟩
  intro size ha hb hc w hw
  have hempty : empty.Fits size := ⟨Nat.zero_lt_of_lt ha.masksCreated,
    Nat.zero_lt_of_lt ha.masksCreated, nofun⟩
  have hmerged := mergeIn_hold (ha.hold_eq hw) (hb.hold_eq hw)
  refine ⟨mergeIn_assoc (ha.hold_eq hw) (hb.hold_eq hw) (hc.hold_eq hw), ?_, hmerged, ?_⟩
  · rw [mergeIn_hold (ha.hold_eq hw) (hempty.hold_eq hw), merge_empty, ha.hold_eq hw]
  · intro hbalanced hbalanced' r hr
    exact (hbalanced.merge hbalanced').of_hold hw (hmerged.symm.trans hr)

/-- Reports that list a pattern and a skipped rule twice, also in words of one byte, where their
merging stops or wraps around. -/
theorem merge_laws_repeated :
    let skip : SkippedRule := ⟨"(", "no expression"⟩
    let a : Report := ⟨3, [⟨"p", "X", 1⟩, ⟨"p", "Y", 2⟩], [skip, skip], [], 0⟩
    let b : Report :=
      ⟨250, [⟨"q", "Z", 1⟩, ⟨"p", "Z", 200⟩, ⟨"q", "X", 49⟩], [skip], [skip, skip], 1⟩
    let c : Report := ⟨4, [⟨"q", "X", 4⟩], [], [skip], 0⟩
    let merged : Report :=
      ⟨257, [⟨"p", "X", 201⟩, ⟨"p", "Y", 2⟩, ⟨"q", "Z", 54⟩], [skip, skip], [skip], 1⟩
    (a.merge b).merge c = merged ∧ a.merge (b.merge c) = merged ∧ a.merge empty = a ∧
      empty.merge a ≠ a ∧ a.Balanced ∧ b.Balanced ∧ (a.merge b).Balanced ∧
      (a.mergeIn (.checked 256) b).bind (·.mergeIn (.checked 256) c) = none ∧
      (b.mergeIn (.wrapping 256) c).bind (a.mergeIn (.wrapping 256) ·) =
        some { merged with masksCreated := 1 } := by
  intro skip a b c merged
  have hfits : a.Fits 256 ∧ b.Fits 256 ∧ c.Fits 256 :=
    ⟨⟨by decide, by decide, by decide⟩, ⟨by decide, by decide, by decide⟩,
      ⟨by decide, by decide, by decide⟩⟩
  obtain ⟨hassoc, hempty, hdistinct, hbalanced, hwords⟩ := merge_laws a b c
  obtain ⟨hchecked, -⟩ := hwords 256 hfits.1 hfits.2.1 hfits.2.2 (.checked 256) List.mem_cons_self
  obtain ⟨hwrapping, -⟩ := hwords 256 hfits.1 hfits.2.1 hfits.2.2 (.wrapping 256)
    (List.mem_cons_of_mem _ List.mem_cons_self)
  have ha : a.Balanced := rfl
  have hb : b.Balanced := rfl
  have hmerged : (a.merge b).merge c = merged := by decide
  refine ⟨hmerged, hassoc.symm.trans hmerged, hempty, ?_, ha, hb, hbalanced ha hb, ?_, ?_⟩
  · intro h
    exact absurd (hdistinct.mp h).summary (by decide)
  · rw [hchecked]
    decide
  · rw [← hwrapping]
    decide

end Report

end TextMasking
