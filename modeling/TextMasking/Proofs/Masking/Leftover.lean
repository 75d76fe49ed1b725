import TextMasking.Proofs.Document.Units
import TextMasking.Proofs.Masking.Tiling
import TextMasking.Proofs.Matching.Settled

/-! # Texts that a scan leaves

The texts among the fragments of a scanned text are parts of it beside its matches, and each reads
in the same whole as before (`ScanText.exists_part_of_mem_units`).  So a matcher that has made the
fragments finds nothing more in them, and neither does one that found nothing before
(`Matcher.settled_of_mem_units`, `Matcher.Settled.of_mem_units`). -/

namespace TextMasking

/-- A passage as a text to be scanned. -/
def Passage.scanText (p : Passage) : ScanText :=
  .between p.before.toList p.text.toList p.after.toList

namespace ScanText

/-- The part of the whole from one position to another, as a passage. -/
def part (t : ScanText) (a b : Nat) : Passage :=
  ⟨String.ofList (t.whole.take a), String.ofList (t.slice ⟨a, b⟩), String.ofList (t.whole.drop b)⟩

theorem take_append_slice (t : ScanText) {a b : Nat} (h : a ≤ b) :
    t.whole.take a ++ t.slice ⟨a, b⟩ = t.whole.take b := by
  obtain ⟨k, rfl⟩ := Nat.exists_eq_add_of_le h
  rw [slice, Nat.add_sub_cancel_left, List.take_add]

theorem slice_append_drop (t : ScanText) {a b : Nat} (h : a ≤ b) :
    t.slice ⟨a, b⟩ ++ t.whole.drop b = t.whole.drop a := by
  obtain ⟨k, rfl⟩ := Nat.exists_eq_add_of_le h
  rw [slice, Nat.add_sub_cancel_left, ← List.drop_drop, List.take_append_drop]

/-- A part is scanned in the same whole. -/
theorem scanText_part (t : ScanText) {a b : Nat} (h : a ≤ b) (hb : b ≤ t.whole.length) :
    (t.part a b).scanText = ⟨t.whole, a, b⟩ := by
  simp only [part, Passage.scanText, between, String.toList_ofList]
  have hslice : (t.slice ⟨a, b⟩).length = b - a := by
    rw [slice, List.length_take, List.length_drop]
    dsimp only
    omega
  have htake : (t.whole.take a).length = a := List.length_take_of_le (Nat.le_trans h hb)
  rw [t.take_append_slice h, List.take_append_drop, htake, hslice, Nat.add_sub_cancel' h]

end ScanText

theorem Fragment.units_append (above : List Forest.Ancestor) (before after : String)
    (fresh : NodeId) (a b : List Fragment) :
    units above before after fresh (a ++ b) =
      units above before (String.join (b.map unmasked) ++ after) fresh a ++
        units above (before ++ String.join (a.map unmasked)) after (fresh + a.length) b := by
  induction a generalizing before fresh with
  | nil => simp [units]
  | cons f rest ih =>
      have hlen : fresh + (f :: rest).length = fresh + 1 + rest.length := by
        rw [List.length_cons, Nat.add_comm rest.length, Nat.add_assoc]
      rw [hlen]
      cases f with
      | text s => simp [units, unmasked, ih, String.append_assoc]
      | mask m => simp [units, unmasked, ih, String.append_assoc]

namespace ScanText

theorem mem_units_piece {t : ScanText} {above : List Forest.Ancestor} {a b : Nat} {fresh i : NodeId}
    {v : TextUnit} (hv : (i, v) ∈ Fragment.units above
      (String.ofList (t.whole.take a)) (String.ofList (t.whole.drop b)) fresh (t.piece a b)) :
    v = ⟨above, t.part a b⟩ := by
  unfold piece at hv
  split_ifs at hv
  · simp only [Fragment.units, List.map_nil, String.join_nil, String.empty_append,
      List.mem_singleton] at hv
    cases hv
    rfl
  · cases hv

/-- **The texts among the fragments are parts of the text that meet no match.** -/
theorem exists_part_of_mem_units {t : ScanText} {replacement : String}
    {above : List Forest.Ancestor} {last : Nat} {fresh i : NodeId} {spans : List Span}
    {v : TextUnit} (h : Span.Ordered last t.hi spans)
    (hv : (i, v) ∈ Fragment.units above (String.ofList (t.whole.take last))
      (String.ofList (t.whole.drop t.hi)) fresh (t.fragments replacement last spans)) :
    ∃ a b, last ≤ a ∧ a ≤ b ∧ b ≤ t.hi ∧ v = ⟨above, t.part a b⟩ ∧
      ∀ s ∈ spans, s.stop ≤ a ∨ b ≤ s.start := by
  induction spans generalizing last fresh with
  | nil =>
      have hle : last ≤ t.hi := h
      refine ⟨last, t.hi, Nat.le_refl _, hle, Nat.le_refl _, mem_units_piece hv, ?_⟩
      simp
  | cons s rest ih =>
      obtain ⟨hstart, hlt, hrest⟩ := h
      have hle := hrest.le
      have hafter : String.join ((.mask ⟨String.ofList (t.slice s), replacement⟩ ::
            t.fragments replacement s.stop rest).map Fragment.unmasked) ++
          String.ofList (t.whole.drop t.hi) = String.ofList (t.whole.drop s.start) := by
        rw [List.map_cons, String.join_cons, t.unmasked_fragments replacement hrest,
          Fragment.unmasked, ← String.ofList_append, ← String.ofList_append,
          t.slice_append_slice (Nat.le_of_lt hlt) hle, t.slice_append_drop (by omega)]
      have hbefore : String.ofList (t.whole.take last) ++
          String.join ((t.piece last s.start).map Fragment.unmasked) ++
            String.ofList (t.slice s) = String.ofList (t.whole.take s.stop) := by
        rw [t.unmasked_piece hstart, ← String.ofList_append, ← String.ofList_append,
          t.take_append_slice hstart, t.take_append_slice (Nat.le_of_lt hlt)]
      rw [fragments, Fragment.units_append, List.mem_append, hafter, Fragment.units, hbefore] at hv
      rcases hv with hv | hv
      · refine ⟨last, s.start, Nat.le_refl _, hstart, by omega, mem_units_piece hv, ?_⟩
        intro s' hs'
        rcases List.mem_cons.mp hs' with rfl | hs'
        · exact .inr (Nat.le_refl _)
        · have := (hrest.of_mem hs').1
          exact .inr (by omega)
      · obtain ⟨a, b, ha, hab, hb, rfl, hgap⟩ := ih hrest hv
        refine ⟨a, b, by omega, hab, hb, rfl, ?_⟩
        intro s' hs'
        rcases List.mem_cons.mp hs' with rfl | hs'
        · exact .inl ha
        · exact hgap s' hs'

end ScanText

namespace Matcher

variable {m m' : Matcher} {p : Passage} {options : Options} {found : List TextMatch}
  {above : List Forest.Ancestor} {fresh i : NodeId} {v : TextUnit}

/-- The texts that a scan leaves are parts of its text. -/
theorem exists_part_of_scan (h : m.scan p.before p.text p.after options = .ok found)
    (hv : (i, v) ∈ Fragment.units above p.before p.after fresh (Fragment.ofMatches p.text found)) :
    ∃ spans a b, m.spans p.scanText options.maxMatches = .ok spans ∧ p.scanText.lo ≤ a ∧
      b ≤ p.scanText.hi ∧ v.above = above ∧ v.passage.scanText = ⟨p.scanText.whole, a, b⟩ ∧
      ∀ s ∈ spans, s.stop ≤ a ∨ b ≤ s.start := by
  obtain ⟨spans, hs, -, hf⟩ := exists_spans_of_scan h
  have hord := ordered_of_spans hs (Nat.le_add_right _ _)
  have hbefore : String.ofList (p.scanText.whole.take p.scanText.lo) = p.before := by
    simp [Passage.scanText, ScanText.between, List.append_assoc]
  have hafter : String.ofList (p.scanText.whole.drop p.scanText.hi) = p.after := by
    simp [Passage.scanText, ScanText.between]
  have hhi : p.scanText.hi ≤ p.scanText.whole.length := by
    simp [Passage.scanText, ScanText.between]
  have hv' : (i, v) ∈ Fragment.units above
      (String.ofList (p.scanText.whole.take p.scanText.lo))
      (String.ofList (p.scanText.whole.drop p.scanText.hi)) fresh
      (p.scanText.fragments m.rule.replacement p.scanText.lo spans) := by
    rw [hbefore, hafter]
    exact hf ▸ hv
  obtain ⟨a, b, ha, hab, hb, rfl, hgap⟩ := ScanText.exists_part_of_mem_units hord hv'
  exact ⟨spans, a, b, hs, ha, hb, rfl, ScanText.scanText_part _ hab (Nat.le_trans hb hhi), hgap⟩

/-- **A scan leaves nothing to be found in the texts beside its matches.** -/
theorem settled_of_mem_units (ha : m.Anchored)
    (h : m.scan p.before p.text p.after options = .ok found)
    (hv : (i, v) ∈ Fragment.units above p.before p.after fresh (Fragment.ofMatches p.text found)) :
    m.Settled v.passage.scanText := by
  obtain ⟨spans, a, b, hs, hlo, hhi, -, hv, hgap⟩ := exists_part_of_scan h hv
  rw [hv]
  exact settled_of_spans hs ha rfl hlo hhi hgap

/-- What another matcher leaves of a text in which nothing is left to be found. -/
theorem Settled.of_mem_units (hm : m'.Settled p.scanText)
    (h : m.scan p.before p.text p.after options = .ok found)
    (hv : (i, v) ∈ Fragment.units above p.before p.after fresh (Fragment.ofMatches p.text found)) :
    m'.Settled v.passage.scanText := by
  obtain ⟨spans, a, b, -, hlo, hhi, -, hv, -⟩ := exists_part_of_scan h hv
  rw [hv]
  exact hm.part rfl hlo hhi

/-- A text in which a scan finds nothing has nothing left to be found. -/
theorem settled_of_scan_nil (ha : m.Anchored)
    (h : m.scan p.before p.text p.after options = .ok []) : m.Settled p.scanText := by
  obtain ⟨spans, hs, hnil, -⟩ := exists_spans_of_scan h
  obtain rfl : spans = [] := List.map_eq_nil_iff.mp hnil.symm
  exact settled_of_spans hs ha rfl (Nat.le_refl _) (Nat.le_refl _) (by simp)

end Matcher

end TextMasking
