import TextMasking.Proofs.Matching.Reported
import TextMasking.Proofs.Matching.Settled

/-! # What a plain scan passes over

A scan whose expression reads no character before a match tests every position of its text that it
does not take.  A search from a position finds the first match after it, so no match begins in
between; what is found begins at its own start, and it is dropped only if it ends behind the text.
So wherever a match begins that is not taken, the preferred one runs on beyond the text
(`Matcher.Scans.beyond_of_preferred`, `Matcher.preferred_ends_beyond`). -/

namespace TextMasking

namespace Matcher

variable {m : Matcher} {t : ScanText}

namespace Finds

variable {start : Nat} {found : Match} {body : Span}

/-- An expression that reads nothing before its body finds the body where its match starts. -/
theorem body_start (h : Finds m t start found body) (ha : m.Anchored)
    (hplain : m.readsBefore = false) : body.start = found.start := by
  have hlead := ha _ _ _ h.bodyAt
  have := h.within.2.1
  rw [lead, hplain, if_neg Bool.false_ne_true] at hlead
  omega

end Finds

/-- **Where a match begins that a run does not take, the preferred one ends beyond the text.** -/
theorem Scans.beyond_of_preferred {start lastEnd : Nat} {spans : List Span}
    (h : Scans m t start lastEnd spans) (ha : m.Anchored) (hplain : m.readsBefore = false)
    (hhi : t.hi ≤ t.whole.length) (hlo : t.lo ≤ lastEnd) (hle : lastEnd ≤ start) {pos : Nat}
    (hpos : start ≤ pos) (hlt : pos < t.hi) (hout : ∀ s ∈ spans, pos < s.start ∨ s.stop ≤ pos)
    {best : Match} (hbest : m.regex.preferred t.whole pos = some best) :
    ∃ body, best.caps.span? bodyGroup = some body ∧ body.start = pos ∧ t.hi < body.stop := by
  induction h with
  | past start lastEnd hstart => omega
  | none start lastEnd hs hnone =>
      rw [Regex.preferred_eq_none_of_find hs hnone hpos (by omega)] at hbest
      cases hbest
  | beyond start lastEnd found body h hbeyond =>
      have hfirst := h.start_le_of_preferred hpos hbest
      have hstart := h.body_start ha hplain
      omega
  | take start lastEnd found body h hne htake more hmore ih =>
      have hfirst := h.start_le_of_preferred hpos hbest
      have hstart := h.body_start ha hplain
      rcases hout body List.mem_cons_self with hbefore | hbehind
      · omega
      · rw [resume, hplain, if_neg Bool.false_ne_true] at ih
        exact ih (by omega) (Nat.le_refl _) hbehind fun s hs => hout s (List.mem_cons_of_mem _ hs)
  | drop start lastEnd found body h hne hbefore hdrop spans hmore ih =>
      have hstart := h.body_start ha hplain
      have hwithin := h.within
      rcases Nat.eq_or_lt_of_le (h.start_le_of_preferred hpos hbest) with rfl | hgt
      · -- the match found there was dropped, and only its end can be the reason
        obtain ⟨-, found', hfound', hspan⟩ := h.bodyAt
        obtain rfl := Option.some.inj (hbest.symm.trans hfound')
        exact ⟨body, hspan, hstart, by omega⟩
      · exact ih hlo (by omega) hgt hout

theorem readsBefore_of_compile {rule : Rule} (h : compile rule = .ok m) :
    m.readsBefore = rule.wholeWord := by
  obtain rfl | ⟨_, _, -, -, rfl⟩ := compile_cases h <;> rfl

/-- **A plain scan misses nothing.**  At a character of the text that neither begins a reported match
nor lies inside of one, the expression has no match, or the preferred one ends beyond the text; so
does the body of it, which begins at that character. -/
theorem preferred_ends_beyond {rule : Rule} (h : compile rule = .ok m)
    (hplain : rule.wholeWord = false) {before text after : String} {options : Options}
    {found : List TextMatch} (hscan : m.scan before text after options = .ok found)
    {left right : List Char} {c : Char} (htext : text.toList = left ++ c :: right)
    (hout : ∀ x ∈ found, Text.byteLength left < x.start ∨ x.stop ≤ Text.byteLength left)
    {best : Match} (hbest : m.regex.preferred
      (before.toList ++ text.toList ++ after.toList) (before.toList ++ left).length = some best) :
    ∃ body, best.caps.span? bodyGroup = some body ∧ body.start = best.start ∧
      (before.toList ++ text.toList).length < body.stop ∧ body.stop ≤ best.stop := by
  obtain ⟨spans, hspans, -, hreported⟩ := exists_isAt_of_scan hscan
  have hreads : m.readsBefore = false := (readsBefore_of_compile h).trans hplain
  have hprefix : left <+: text.toList := ⟨c :: right, htext.symm⟩
  have hlen : left.length < text.toList.length := by simp [htext]
  have hgap : ∀ s ∈ spans, (before.toList ++ left).length < s.start ∨
      s.stop ≤ (before.toList ++ left).length := by
    intro s hs
    obtain ⟨x, hx, hat⟩ := hreported s hs
    rw [List.length_append, ← hat.lt_start_iff hprefix, ← Nat.not_lt, ← hat.lt_stop_iff hprefix,
      Nat.not_lt]
    exact hout x hx
  rw [Matcher.spans, resume, hreads, if_neg Bool.false_ne_true] at hspans
  have hrun := scans_of_scanFrom hspans
  have hfrom : (ScanText.between before.toList text.toList after.toList).lo ≤
      (before.toList ++ left).length := by
    simp [ScanText.between]
  have hto : (before.toList ++ left).length <
      (ScanText.between before.toList text.toList after.toList).hi := by
    simp [ScanText.between]
    omega
  obtain ⟨body, hspan, hstart, hstop⟩ := hrun.beyond_of_preferred (anchored_of_compile h) hreads
    (by simp [ScanText.between]) (Nat.le_refl _) (Nat.le_refl _) hfrom hto hgap hbest
  refine ⟨body, hspan, hstart.trans (Regex.start_of_preferred hbest).symm, ?_, ?_⟩
  · simpa [ScanText.between] using hstop
  · exact ((Regex.within_of_matchAt hbest).1.2 _ (mem_of_lookup hspan)).2.2

/-- A word of which only the first half stands in the text. -/
theorem preferred_ends_beyond_half :
    let m := ofLiteral (.literal "Acme" "X")
    let best : Match := ⟨6, 10, ⟨[(bodyGroup, 6)], [(bodyGroup, ⟨6, 10⟩)]⟩⟩
    m.scan "" "Acme, ac" "me" .default = .ok [⟨0, 4, "Acme", "X", "Acme"⟩] ∧
      m.regex.preferred ("".toList ++ "Acme, ac".toList ++ "me".toList)
        ("".toList ++ "Acme, ".toList).length = some best ∧
      ∃ body, best.caps.span? bodyGroup = some body ∧ body.start = 6 ∧ 8 < body.stop := by
  intro m best
  have hscan : m.scan "" "Acme, ac" "me" .default = .ok [⟨0, 4, "Acme", "X", "Acme"⟩] := by
    decide +kernel
  have hbest : m.regex.preferred ("".toList ++ "Acme, ac".toList ++ "me".toList)
      ("".toList ++ "Acme, ".toList).length = some best := by decide +kernel
  obtain ⟨body, hspan, hstart, hstop, -⟩ := preferred_ends_beyond
    (show compile (.literal "Acme" "X") = .ok m from rfl) rfl hscan
    (show "Acme, ac".toList = "Acme, ".toList ++ 'a' :: ['c'] by decide) (by decide) hbest
  exact ⟨hscan, hbest, body, hspan, hstart, hstop⟩

end Matcher

end TextMasking
