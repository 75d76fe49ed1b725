import TextMasking.Proofs.Masking.Tiling
import TextMasking.Proofs.Matching.Number

/-! # Numbers stand for quantities

A pattern that is one number is meant to find the same quantity however it is written.  What its
rule finds has the digits of the pattern, or these and a fraction of one or two digits where the
pattern has none.  So it is read as the same quantity unless the digits are regrouped: a decimal
mark among them begins a fraction in one of both and separates thousands in the other
(`Matcher.sameQuantity_of_scan`). -/

namespace TextMasking

namespace Matcher

variable {m : Matcher} {rule : Rule} {t : ScanText}

/-- What a run takes are bodies. -/
theorem Scans.exists_bodyAt {start lastEnd : Nat} {spans : List Span}
    (h : Scans m t start lastEnd spans) {s : Span} (hs : s ∈ spans) :
    ∃ pos, m.BodyAt t.whole pos s := by
  induction h with
  | take start lastEnd found body hf hne hb more hmore ih =>
      rcases List.mem_cons.mp hs with rfl | hs
      · exact ⟨_, hf.bodyAt⟩
      · exact ih hs
  | drop start lastEnd found body hf hne hlt hb spans hmore ih => exact ih hs
  | _ => cases hs

/-- What stands in the text where a literal rule fits is what its pieces accept. -/
theorem Fits.accepts_slice {pos : Nat} {s : Span} (h : Fits rule t.whole pos s) :
    Piece.AllAccept (!rule.caseSensitive) (pieces rule) (t.slice s) := by
  obtain ⟨u, hu, ⟨rest, hrest⟩, hstop⟩ := h.accepts
  have hslice : t.slice s = u := by
    rw [ScanText.slice, ← hrest, hstop, Nat.add_sub_cancel_left, List.take_left]
  rwa [hslice]

/-- The pieces of a literal rule accept every match of the rule. -/
theorem accepts_of_scan {before text after : String} {options : Options} {found : List TextMatch}
    (h : (ofLiteral rule).scan before text after options = .ok found) {x : TextMatch}
    (hx : x ∈ found) :
    Piece.AllAccept (!rule.caseSensitive) (pieces rule) x.matched.toList := by
  obtain ⟨spans, hspans, rfl, -⟩ := exists_spans_of_scan h
  obtain ⟨s, hs, rfl⟩ := List.mem_map.mp hx
  obtain ⟨pos, hbody⟩ := (scans_of_scanFrom hspans).exists_bodyAt hs
  rw [report, String.toList_ofList]
  exact (fits_of_bodyAt hbody).accepts_slice

/-- A pattern that is one number as a whole has one piece. -/
theorem pieces_of_written (h : Number.Written rule.pattern.toList) :
    pieces rule = [.number (Number.of rule.pattern.toList)] := by
  obtain ⟨d, rest, hcs, hd⟩ := h.first
  have hlen : (Number.read (d :: rest)).2 = rest.length + 1 := by
    rw [Number.read, ← hcs, h.stretch_eq, hcs, List.length_cons]
  rw [pieces, hcs, Piece.ofPattern, if_pos hd]
  dsimp only
  rw [hlen, Nat.add_sub_cancel, List.drop_length, Piece.ofPattern]
  rfl

/-- **A rule for a number finds the quantity of its pattern, unless the digits are regrouped.**
What it finds in any text is read as a number with the same digits, and with the same fraction or
one of one or two digits where the pattern has none; the only other finds have just the digits of
the pattern, and a fraction where the pattern has none or none where the pattern has one. -/
theorem sameQuantity_of_scan (h : compile rule = .ok m) (hlit : rule.isRegex = false)
    (hpattern : Number.Written rule.pattern.toList) {before text after : String}
    {options : Options} {found : List TextMatch}
    (hscan : m.scan before text after options = .ok found) :
    ∀ x ∈ found,
      Number.SameQuantity (.of rule.pattern.toList) (.of x.matched.toList) ↔
        ¬Number.Regrouped (.of rule.pattern.toList) (.of x.matched.toList) := by
  intro x hx
  obtain rfl := ofLiteral_of_compile h hlit
  have haccepts := accepts_of_scan hscan hx
  rw [pieces_of_written hpattern] at haccepts
  obtain ⟨u, _, hu, rfl, hmatched⟩ := haccepts
  rw [hmatched, List.append_nil]
  exact Number.sameQuantity_iff hpattern.readable hu

/-- Another mark for thousands and a fraction in the text do not change the quantity. -/
theorem sameQuantity_of_scan_grouped :
    let text := "1.234 and 1234,5"
    let found := [⟨0, 5, "1.234", "X", "1,234"⟩, ⟨10, 16, "1234,5", "X", "1,234"⟩]
    (ofLiteral (.literal "1,234" "X")).scan "" text "" .default = .ok found ∧
      ∀ x ∈ found, Number.SameQuantity (.of "1,234".toList) (.of x.matched.toList) := by
  have hscan : (ofLiteral (.literal "1,234" "X")).scan "" "1.234 and 1234,5" "" .default =
      .ok [⟨0, 5, "1.234", "X", "1,234"⟩, ⟨10, 16, "1234,5", "X", "1,234"⟩] := by decide +kernel
  have hpattern : Number.Written "1,234".toList := by decide +kernel
  refine ⟨hscan, fun x hx => (sameQuantity_of_scan
    (show compile (.literal "1,234" "X") = .ok _ from rfl) rfl hpattern hscan x hx).mpr fun h => ?_⟩
  rcases List.mem_pair.mp hx with rfl | rfl
  · exact h.fraction (by decide)
  · exact absurd h.digits (by decide)

/-- A number without a fraction is found where its last digits are one. -/
theorem not_sameQuantity_of_scan : ¬∀ (rule : Rule) (m : Matcher), compile rule = .ok m →
    rule.isRegex = false → Number.Written rule.pattern.toList →
    ∀ (before text after : String) (options : Options) (found : List TextMatch),
      m.scan before text after options = .ok found →
        ∀ x ∈ found, Number.SameQuantity (.of rule.pattern.toList) (.of x.matched.toList) := by
  intro h
  have hscan : (ofLiteral (.literal "150" "X")).scan "" "1.50" "" .default =
      .ok [⟨0, 4, "1.50", "X", "150"⟩] := by decide +kernel
  have hpattern : Number.Written "150".toList := by decide +kernel
  have hsame := h (.literal "150" "X") _ rfl rfl hpattern "" "1.50" "" .default _
    hscan _ List.mem_cons_self
  exact absurd hsame.digits (by decide)

end Matcher

end TextMasking
