import TextMasking.Proofs.Matching.Grammar
import TextMasking.Proofs.Regex.Preference

/-! # Whole words side by side

How far a text goes that stands for a whole word is determined by where it begins
(`Rule.Stands.unique`), so a search that stands one character before such a text finds it.  At the
start of the whole text a search can also stand for a text there, and prefers that one
(`Matcher.bodyAt_first`).  If the scan does not take it, or it is a single character, then a text that
begins with the second character is passed over: the search goes on one character later, where it
finds only what begins later still (`Rule.Shadowed`).  Everything else that stands for a whole word
has a character in common with a reported match (`Matcher.overlaps_of_stands`). -/

namespace TextMasking

open Unicode

/-! ### Where numbers end -/

namespace Number

/-- No digit comes after the stretch of a number, not even behind separators. -/
theorem not_isDigit_after_stretch {c e : Char} {rest gap tail : List Char} (hc : c.isDigit = true)
    (hcut : c :: rest = stretch (c :: rest) ++ (gap ++ e :: tail))
    (hsep : ∀ a ∈ gap, isSeparator a = true) : e.isDigit = false := by
  cases he : e.isDigit with
  | false => rfl
  | true =>
      have hpre : stretch (c :: rest) ++ gap ++ [e] <+: c :: rest :=
        ⟨tail, by rw [List.append_assoc, List.append_assoc, List.singleton_append]; exact hcut.symm⟩
      have hchars : ∀ a ∈ stretch (c :: rest) ++ gap ++ [e],
          a.isDigit = true ∨ isSeparator a = true :=
        List.forall_mem_append.mpr ⟨List.forall_mem_append.mpr
          ⟨(written_stretch rest hc).chars, fun a ha => .inr (hsep a ha)⟩,
          List.forall_mem_singleton.mpr (.inl he)⟩
      have hlen := (prefix_stretch hpre hchars ⟨_, e, rfl, he⟩).length_le
      rw [List.length_append, List.length_append, List.length_singleton] at hlen
      omega

section

variable {digits x y z w : List Char} {mark : Char}

/-- Digits before an end are all that stand there. -/
theorem takeWhile_isDigit (hd : ∀ c ∈ digits, c.isDigit = true) (hz : endsBefore z = true) :
    (digits ++ z).takeWhile Char.isDigit = digits := by
  rw [List.takeWhile_append_of_pos hd]
  cases z with
  | nil => simp
  | cons c z =>
      rw [endsBefore, Bool.and_eq_true, Bool.not_eq_true'] at hz
      rw [List.takeWhile_cons_of_neg (by simp [hz.1]), List.append_nil]

theorem endsBefore_mark (hm : isDecimalMark mark = true) (hd : ∀ c ∈ digits, c.isDigit = true)
    (hne : digits ≠ []) : endsBefore (mark :: (digits ++ z)) = false := by
  obtain ⟨d, more, rfl⟩ := List.exists_cons_of_ne_nil hne
  simp [endsBefore, hm, hd d List.mem_cons_self]

/-- What comes after the last digit of an integer part is determined. -/
theorem Ending.eq_of_append_eq {fraction : Option (List Char)} (hx : Ending fraction x)
    (hy : Ending fraction y) (hz : endsBefore z = true) (hw : endsBefore w = true)
    (h : x ++ z = y ++ w) : x = y := by
  cases fraction with
  | some f =>
      obtain ⟨mark, -, rfl⟩ := hx
      obtain ⟨mark', -, rfl⟩ := hy
      exact (List.append_inj h rfl).1
  | none =>
      have hne {digits : List Char} (hlen : digits.length = 1 ∨ digits.length = 2) :
          digits ≠ [] := by
        rintro rfl
        simp at hlen
      rcases hx with rfl | ⟨mark, ds, hm, hlen, hds, rfl⟩ <;>
        rcases hy with rfl | ⟨mark', es, hm', hlen', hes, rfl⟩
      · rfl
      · rw [List.nil_append] at h
        rw [h, List.cons_append, endsBefore_mark hm' hes (hne hlen')] at hz
        cases hz
      · rw [List.nil_append] at h
        rw [← h, List.cons_append, endsBefore_mark hm hds (hne hlen)] at hw
        cases hw
      · obtain ⟨rfl, hrest⟩ := List.cons.inj (show mark :: (ds ++ z) = mark' :: (es ++ w) from h)
        rw [← takeWhile_isDigit hds hz, hrest, takeWhile_isDigit hes hw]

/-- **What a number accepts at a place is determined** by where the number ends. -/
theorem Accepts.eq_of_append_eq {n : Number} (hn : n.Readable) (hx : n.Accepts x)
    (hy : n.Accepts y) (hz : endsBefore z = true) (hw : endsBefore w = true)
    (h : x ++ z = y ++ w) : x = y := by
  obtain ⟨p, e, hp, he, rfl⟩ := hx
  obtain ⟨q, f, hq, hf, rfl⟩ := hy
  rw [List.append_assoc, List.append_assoc] at h
  have hcount : p.countP Char.isDigit = q.countP Char.isDigit := by
    rw [List.countP_eq_length_filter, List.countP_eq_length_filter, hp.filter hn.digits,
      hq.filter hn.digits]
  obtain rfl := (hp.written hn.digits hn.digits_ne_nil).eq_of_append_eq
    (hq.written hn.digits hn.digits_ne_nil) hcount h
  rw [he.eq_of_append_eq hf hz hw (List.append_cancel_left h)]

end

end Number

/-! ### How far a spelling goes -/

namespace Piece

open Number

variable {fold : Bool} {cs rest after u v x y : List Char}

/-- A text may follow a spelling of the pattern: no digit comes next, and a number at the end of the
pattern ends. -/
structure Follows (cs x : List Char) : Prop where
  digit : x.head?.any Char.isDigit = false
  ends : cs.getLast?.any Char.isDigit = true → endsBefore x = true

theorem Follows.of_suffix (h : Follows cs x) (hs : after <:+ cs) : Follows after x := by
  obtain ⟨z, rfl⟩ := hs
  refine ⟨h.digit, fun hlast => h.ends ?_⟩
  rw [List.getLast?_append]
  cases hget : after.getLast? with
  | none =>
      rw [hget] at hlast
      cases hlast
  | some d =>
      rw [hget] at hlast
      exact hlast

/-- A spelling begins with no digit if its pattern does not. -/
theorem not_isDigit_head (hcs : ∀ c ∈ cs.head?, c.isDigit = false)
    (hu : AllAccept fold (ofPattern cs) u) (hx : x.head?.any Char.isDigit = false) :
    (u ++ x).head?.any Char.isDigit = false := by
  cases cs with
  | nil =>
      rw [ofPattern] at hu
      obtain rfl : u = [] := hu
      exact hx
  | cons c cs =>
      have hc := hcs c rfl
      rw [ofPattern_cons_char hc] at hu
      obtain ⟨_, v, ⟨d, rfl, hd⟩, -, rfl⟩ := hu
      exact hd.not_isDigit hc

theorem caseVariants_of_isDecimalMark {c : Char} (h : isDecimalMark c = true) :
    caseVariants c = [] := by
  simp only [isDecimalMark, Bool.or_eq_true, beq_iff_eq] at h
  rcases h with rfl | rfl
  · decide
  · decide

/-- A number ends before a spelling of the rest of its pattern. -/
theorem endsBefore_append {c : Char} (hc : c.isDigit = true)
    (hcut : c :: rest = stretch (c :: rest) ++ after) (hu : AllAccept fold (ofPattern after) u)
    (hx : Follows (c :: rest) x) : endsBefore (u ++ x) = true := by
  cases after with
  | nil =>
      rw [ofPattern] at hu
      obtain rfl : u = [] := hu
      obtain ⟨init, d, hlast, hd⟩ := (written_stretch rest hc).last
      rw [List.append_nil, hlast] at hcut
      exact hx.ends (by rw [hcut, List.getLast?_concat]; exact hd)
  | cons a after =>
      have ha : a.isDigit = false := not_isDigit_after_stretch hc hcut (List.forall_mem_nil _)
      rw [ofPattern_cons_char ha] at hu
      obtain ⟨_, v, ⟨d, rfl, hd⟩, hv, rfl⟩ := hu
      have hnext (hm : isDecimalMark d = true) : (v ++ x).head?.any Char.isDigit = false := by
        -- the mark is that of the pattern, and no digit comes after it there
        obtain rfl := hd.eq_of_caseVariants (caseVariants_of_isDecimalMark hm)
        refine not_isDigit_head (fun b hb => ?_) hv hx.digit
        obtain ⟨tail, rfl⟩ := List.head?_eq_some_iff.mp hb
        exact not_isDigit_after_stretch hc hcut
          (List.forall_mem_singleton.mpr (isSeparator_of_isDecimalMark hm))
      rw [List.append_assoc, List.singleton_append, endsBefore, hd.not_isDigit ha]
      cases hm : isDecimalMark d with
      | false => rfl
      | true => rw [hnext hm]; rfl

/-- **How far a spelling goes is determined,** if something else may follow it. -/
theorem AllAccept.eq_of_append_eq (hu : AllAccept fold (ofPattern cs) u)
    (hv : AllAccept fold (ofPattern cs) v) (hx : Follows cs x) (hy : Follows cs y)
    (h : u ++ x = v ++ y) : u = v := by
  induction cs using pattern_induction generalizing u v with
  | nil =>
      rw [ofPattern] at hu hv
      exact hu.trans hv.symm
  | char c rest hc ih =>
      rw [ofPattern_cons_char hc] at hu hv
      obtain ⟨_, u', ⟨d, rfl, -⟩, hu, rfl⟩ := hu
      obtain ⟨_, v', ⟨e, rfl, -⟩, hv, rfl⟩ := hv
      obtain ⟨rfl, hrest⟩ := List.cons.inj (show d :: (u' ++ x) = e :: (v' ++ y) from h)
      have hs : rest <:+ c :: rest := List.suffix_cons c rest
      rw [ih hu hv (hx.of_suffix hs) (hy.of_suffix hs) hrest]
  | number c rest after hc hcut hpieces ih =>
      have hread := (written_stretch rest hc).readable
      have hs : after <:+ c :: rest := ⟨_, hcut.symm⟩
      rw [hpieces] at hu hv
      obtain ⟨p, u', hp, hu, rfl⟩ := hu
      obtain ⟨q, v', hq, hv, rfl⟩ := hv
      rw [List.append_assoc, List.append_assoc] at h
      obtain rfl := hp.eq_of_append_eq hread hq (endsBefore_append hc hcut hu hx)
        (endsBefore_append hc hcut hv hy) h
      rw [ih hu hv (hx.of_suffix hs) (hy.of_suffix hs) (List.append_cancel_left h)]

/-- A spelling of a pattern that is not empty is not empty. -/
theorem AllAccept.ne_nil (hcs : cs ≠ []) (hu : AllAccept fold (ofPattern cs) u) : u ≠ [] := by
  obtain ⟨c, rest, rfl⟩ := List.exists_cons_of_ne_nil hcs
  cases hc : c.isDigit with
  | false =>
      rw [ofPattern_cons_char hc] at hu
      obtain ⟨_, v, ⟨d, rfl, -⟩, -, rfl⟩ := hu
      exact List.cons_ne_nil d v
  | true =>
      obtain ⟨after, -, hpieces⟩ := ofPattern_cons_digit rest hc
      rw [hpieces] at hu
      obtain ⟨x, v, hx, -, rfl⟩ := hu
      obtain ⟨d, more, rfl, -⟩ := (hx.written (written_stretch rest hc).readable).1.first
      exact List.cons_ne_nil d (more ++ v)

end Piece

namespace Rule.Stands

variable {rule : Rule} {left left' u v right right' : List Char}

theorem ne_nil (h : rule.Stands left u right) (hne : rule.pattern.toList ≠ []) : u ≠ [] :=
  Piece.AllAccept.ne_nil hne h.accepts

theorem follows (h : rule.Stands left u right) (hwhole : rule.wholeWord = true) :
    Piece.Follows rule.pattern.toList right := by
  refine ⟨?_, h.ends⟩
  have hbehind := h.behind hwhole
  cases right with
  | nil => rfl
  | cons c right =>
      refine Bool.eq_false_iff.mpr fun hc => ?_
      rw [List.head?_cons, Option.any_some, holds_asciiWord_of_isDigit hc] at hbehind
      cases hbehind

/-- **How far a whole word goes is determined by where it begins.** -/
theorem unique (hwhole : rule.wholeWord = true) (h : rule.Stands left u right)
    (h' : rule.Stands left' v right') (heq : u ++ right = v ++ right') : u = v :=
  Piece.AllAccept.eq_of_append_eq h.accepts h'.accepts (h.follows hwhole) (h'.follows hwhole) heq

end Rule.Stands

/-! ### Where a search finds a whole word -/

namespace Matcher

variable {rule : Rule} {left u right : List Char} {pos : Nat} {body : Span}

/-- A body that begins where a text stands for a whole word is that text. -/
theorem Fits.eq_of_stands (hwhole : rule.wholeWord = true) (hstands : rule.Stands left u right)
    (hpos : pos ≤ (left ++ u ++ right).length) (h : Fits rule (left ++ u ++ right) pos body)
    (hstart : body.start = left.length) : body = ⟨left.length, (left ++ u).length⟩ := by
  obtain ⟨left', v, right', htext, rfl, hstands', -⟩ := (fits_iff_stands hpos).mp h
  rw [List.append_assoc, List.append_assoc] at htext
  obtain ⟨rfl, hrest⟩ := List.append_inj htext hstart.symm
  rw [hstands.unique hwhole hstands' hrest]

/-- At the start of a text, a search prefers a whole word there. -/
theorem bodyAt_first (hwhole : rule.wholeWord = true) (h : rule.Stands [] u right) :
    (ofLiteral rule).BodyAt (u ++ right) 0 ⟨0, u.length⟩ := by
  have hregex : (ofLiteral rule).regex = .seq (.alt (.assert .textStart)
      (.set (.complement .asciiWord))) (Regex.seqs (group rule :: afterGroup rule)) := by
    rw [regex_ofLiteral, hwhole]
    rfl
  have hrun {stop : Nat} {out : Captures} : Runs (u ++ right) stop out 0
      [.run (.assert .textStart), .run (Regex.seqs (group rule :: afterGroup rule))] .empty ↔
      Runs (u ++ right) stop out 0 [.run (Regex.seqs (group rule :: afterGroup rule))] .empty := by
    rw [Runs.assert_iff]
    exact and_iff_right rfl
  -- a run of the first option is a body at the start
  have hfits : Fits rule (u ++ right) 0 ⟨0, u.length⟩ :=
    (fits_iff_stands (Nat.zero_le _)).mpr ⟨[], u, right, rfl, rfl, h, .inr ⟨hwhole, .inl ⟨rfl, rfl⟩⟩⟩
  obtain ⟨stop, hruns⟩ := (exists_runs_group hfits.opens).mpr ⟨_, hfits, rfl, rfl⟩
  obtain ⟨found, hfound, hfirst⟩ := Regex.exists_preferred_left (hrun.mpr hruns)
  obtain ⟨body, hfits', hstart, hout⟩ :=
    (exists_runs_group hfits.opens).mp ⟨found.stop, hrun.mp hfirst⟩
  obtain rfl := hfits'.eq_of_stands hwhole h (Nat.zero_le _) hstart
  refine ⟨Nat.zero_le _, found, ?_, ?_⟩
  · rw [hregex]
    exact hfound
  · rw [← hout]
    rfl

/-- A search one character before a whole word finds it, unless it prefers one at the start. -/
theorem bodyAt_of_stands (hwhole : rule.wholeWord = true) (h : rule.Stands left u right)
    (hlen : left.length = pos + 1) (hfirst : pos = 0 → ∀ v rest,
      left ++ u ++ right = v ++ rest → ¬rule.Stands [] v rest) :
    (ofLiteral rule).BodyAt (left ++ u ++ right) pos ⟨left.length, (left ++ u).length⟩ := by
  have hpos : pos ≤ (left ++ u ++ right).length := by
    simp only [List.length_append]
    omega
  have hfits := (fits_iff_stands hpos).mpr ⟨left, u, right, rfl, rfl, h, .inr ⟨hwhole, .inr hlen⟩⟩
  obtain ⟨body, hbody⟩ := exists_bodyAt_of_fits hpos hfits
  have hstart : body.start = left.length := by
    obtain ⟨left', v, right', htext, rfl, hstands, ⟨hnot, -⟩ | ⟨-, ⟨hzero, rfl⟩ | hlen'⟩⟩ :=
      (fits_iff_stands hpos).mp (fits_of_bodyAt hbody)
    · rw [hwhole] at hnot
      cases hnot
    · exact absurd hstands (hfirst hzero v right' htext)
    · exact hlen'.trans hlen.symm
  rw [← (fits_of_bodyAt hbody).eq_of_stands hwhole h hpos hstart]
  exact hbody

/-- A body for which a run stands is taken if it lies in the rest of the text. -/
theorem Scans.mem_of_bodyAt {m : Matcher} {t : ScanText} {start lastEnd : Nat} {spans : List Span}
    (h : Scans m t start lastEnd spans) (hb : m.BodyAt t.whole start body) (hin : t.Holds body)
    (hle : lastEnd ≤ body.start) : body ∈ spans := by
  have hsame {found : Match} {body' : Span} (hf : Finds m t start found body') : body' = body := by
    have hstart : found.start = start :=
      Nat.le_antisymm (hf.start_le_of_bodyAt hb (Nat.le_refl _)) hf.within.1
    exact hb.unique (hstart ▸ hf.bodyAt)
  have hlt := hin.lt
  have hhi := hin.le_hi
  cases h with
  | past _ _ hpast => exact absurd hb.1 (Nat.not_le_of_lt hpast)
  | none _ _ hs hnone => exact absurd hb (not_bodyAt_of_find hs hnone (Nat.le_refl _))
  | beyond _ _ found body' hf hbeyond =>
      obtain rfl := hsame hf
      omega
  | take _ _ found body' hf hne htake more hmore =>
      obtain rfl := hsame hf
      exact List.mem_cons_self
  | drop _ _ found body' hf hne hbefore hdrop spans hmore =>
      obtain rfl := hsame hf
      exact absurd ⟨hle, by omega, hhi⟩ hdrop

end Matcher

/-- A text of the rule that begins with the second character of the whole is passed over: one at the
start stands for the rule too, and it is the first character alone or not taken by the scan. -/
def Rule.Shadowed (rule : Rule) (before text after left : List Char) : Prop :=
  (before ++ left).length = 1 ∧ ∃ first rest, before ++ text ++ after = first ++ rest ∧
    rule.Stands [] first rest ∧ (before = [] → first.length = 1 ∨ text.length < first.length)

namespace Matcher

variable {rule : Rule}

/-- **A scan takes something of every whole word** that is not passed over at the start. -/
theorem exists_meets_of_stands (h : compile rule = .ok (ofLiteral rule))
    (hwhole : rule.wholeWord = true) {before text after left u right : List Char} {limit : Nat}
    {spans : List Span}
    (hspans : (ofLiteral rule).spans (.between before text after) limit = .ok spans)
    (htext : text = left ++ u ++ right)
    (hstands : rule.Stands (before ++ left) u (right ++ after))
    (hclear : ¬rule.Shadowed before text after left) :
    ∃ s ∈ spans, Span.Meets ⟨(before ++ left).length, (before ++ left ++ u).length⟩ s := by
  have hne := pattern_ne_nil_of_compile h
  have hall : before ++ text ++ after = before ++ left ++ u ++ (right ++ after) := by
    rw [htext]
    simp only [List.append_assoc]
  have hlen := List.length_pos_of_ne_nil (hstands.ne_nil hne)
  have hin : (ScanText.between before text after).Holds
      ⟨(before ++ left).length, (before ++ left ++ u).length⟩ := by
    refine ⟨?_, ?_, ?_⟩
    · simp [ScanText.between]
    · simpa using hlen
    · simp only [ScanText.between, htext, List.length_append]
      omega
  have hmeets {pos : Nat} (hb : (ofLiteral rule).BodyAt (before ++ left ++ u ++ (right ++ after)) pos
      ⟨(before ++ left).length, (before ++ left ++ u).length⟩) :
      ∃ s ∈ spans, Span.Meets ⟨(before ++ left).length, (before ++ left ++ u).length⟩ s :=
    exists_meets_of_spans hspans (anchored_of_compile h) (hall ▸ hb) hin
  cases hstart : (before ++ left).length with
  | zero =>
      rw [List.eq_nil_of_length_eq_zero hstart] at hstands hmeets
      rw [← hstart, List.eq_nil_of_length_eq_zero hstart]
      exact hmeets (bodyAt_first hwhole hstands)
  | succ pos =>
      by_cases hfirst : pos = 0 ∧ ∃ first rest,
          before ++ left ++ u ++ (right ++ after) = first ++ rest ∧ rule.Stands [] first rest
      · -- the text at the start is taken, and reaches over the second character
        obtain ⟨rfl, first, rest, heq, hs⟩ := hfirst
        have htaken : before = [] ∧ first.length ≠ 1 ∧ first.length ≤ text.length := by
          by_contra hnot
          refine hclear ⟨hstart, first, rest, hall.trans heq, hs, fun hb => ?_⟩
          by_contra hboth
          exact hnot ⟨hb, by omega, by omega⟩
        obtain ⟨rfl, hone, hhi⟩ := htaken
        have hpos := List.length_pos_of_ne_nil (hs.ne_nil hne)
        have hmem : ⟨0, first.length⟩ ∈ spans := by
          refine (scans_of_scanFrom hspans).mem_of_bodyAt ?_ ⟨Nat.le_refl _, hpos, ?_⟩ (Nat.le_refl _)
          · rw [resume_eq, show (ScanText.between [] text after).lo = 0 from rfl, Nat.zero_sub,
              show (ScanText.between [] text after).whole = first ++ rest from hall.trans heq]
            exact bodyAt_first hwhole hs
          · exact hhi.trans (Nat.le_add_left _ _)
        refine ⟨_, hmem, ?_, ?_⟩
        · show 0 + 1 < first.length
          omega
        · rw [List.length_append]
          exact Nat.add_pos_right _ hlen
      · rw [← hstart]
        refine hmeets (bodyAt_of_stands hwhole hstands hstart fun hzero v rest heq hs => ?_)
        exact hfirst ⟨hzero, v, rest, heq, hs⟩

/-- **A scan misses no whole word.**  A text that stands for the rule has a character in common with
a reported match, unless it begins with the second character of the whole text and the scan passes
over it there. -/
theorem overlaps_of_stands {m : Matcher} (h : compile rule = .ok m) (hlit : rule.isRegex = false)
    (hwhole : rule.wholeWord = true) {before text after : String} {options : Options}
    {found : List TextMatch} (hscan : m.scan before text after options = .ok found)
    {left u right : List Char} (htext : text.toList = left ++ u ++ right)
    (hstands : rule.Stands (before.toList ++ left) u (right ++ after.toList))
    (hclear : ¬rule.Shadowed before.toList text.toList after.toList left) :
    ∃ x ∈ found, x.start < Text.byteLength (left ++ u) ∧ Text.byteLength left < x.stop := by
  obtain rfl := ofLiteral_of_compile h hlit
  obtain ⟨spans, hspans, -, hreported⟩ := exists_isAt_of_scan hscan
  obtain ⟨s, hs, hmeets⟩ := exists_meets_of_stands h hwhole hspans htext hstands hclear
  obtain ⟨x, hx, hat⟩ := hreported s hs
  have hu : left ++ u <+: text.toList := ⟨right, htext.symm⟩
  have hleft : left <+: text.toList := (List.prefix_append left u).trans hu
  obtain ⟨hbefore, hbehind⟩ := hmeets
  simp only [List.length_append] at hbefore hbehind
  refine ⟨x, hx, (hat.start_lt_iff hu).mpr ?_, (hat.lt_stop_iff hleft).mpr hbefore⟩
  rw [List.length_append]
  omega

/-- Dashes side by side behind a space. -/
theorem overlaps_of_stands_dashes :
    let rule : Rule := ⟨"-", "X", true, false, false⟩
    let found := [⟨1, 2, "-", "X", "-"⟩, ⟨2, 3, "-", "X", "-"⟩]
    (ofLiteral rule).scan "" " --" "" .default = .ok found ∧ rule.Stands " -".toList "-".toList [] ∧
      ∃ x ∈ found, x.start < Text.byteLength " --".toList ∧ Text.byteLength " -".toList < x.stop := by
  intro rule found
  have hscan : (ofLiteral rule).scan "" " --" "" .default = .ok found := by decide +kernel
  have hstands : rule.Stands " -".toList "-".toList [] :=
    ⟨(Piece.allAccept_ofPattern_iff _ _).mpr (by decide), fun _ => by decide,
      fun _ => rfl, fun _ => rfl⟩
  refine ⟨hscan, hstands, ?_⟩
  refine overlaps_of_stands (show compile ⟨"-", "X", true, false, false⟩ = .ok _ from rfl) rfl rfl
    hscan (show " --".toList = " -".toList ++ "-".toList ++ [] by decide) hstands ?_
  exact fun hshadowed => absurd hshadowed.1 (by decide)

/-- Of two dashes at the start of a text only the first is found. -/
theorem not_overlaps_of_stands : ¬∀ (rule : Rule) (m : Matcher), compile rule = .ok m →
    rule.isRegex = false → rule.wholeWord = true →
    ∀ (text : String) (options : Options) (found : List TextMatch),
      m.scan "" text "" options = .ok found →
        ∀ left u right, text.toList = left ++ u ++ right → rule.Stands left u right →
          ∃ x ∈ found, x.start < Text.byteLength (left ++ u) ∧ Text.byteLength left < x.stop := by
  intro h
  have hscan : (ofLiteral ⟨"-", "X", true, false, false⟩).scan "" "--" "" .default =
      .ok [⟨0, 1, "-", "X", "-"⟩] := by decide +kernel
  have hstands : Rule.Stands ⟨"-", "X", true, false, false⟩ "-".toList "-".toList [] :=
    ⟨(Piece.allAccept_ofPattern_iff _ _).mpr (by decide), fun _ => by decide,
      fun _ => rfl, fun _ => rfl⟩
  obtain ⟨x, hx, -, hstop⟩ := h ⟨"-", "X", true, false, false⟩ _ rfl rfl rfl "--" .default _ hscan
    "-".toList "-".toList [] (by decide) hstands
  obtain rfl := List.mem_singleton.mp hx
  exact absurd hstop (by decide)

end Matcher

end TextMasking
