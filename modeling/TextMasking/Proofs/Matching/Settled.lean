import TextMasking.Proofs.Matching.Scan
import TextMasking.Proofs.Matching.Wrapping

/-! # What a scan leaves behind

A scan tries every position at which a body in its text could begin: a match that it does not take
has a body that meets one of those that it takes (`Matcher.exists_meets_of_spans`).  So nothing is
left to be found between them, and a text in which nothing is left to be found is scanned without
a match (`Matcher.Settled`), whatever else is cut off from it.

Both rest on where a body can begin: at the start of its match or one character later, and the
latter only where the search goes on a character earlier (`Matcher.Anchored`). -/

namespace TextMasking

/-- Two parts have a character in common. -/
def Span.Meets (s s' : Span) : Prop :=
  s.start < s'.stop ∧ s'.start < s.stop

/-- A part that is not empty and lies in the text. -/
structure ScanText.Holds (t : ScanText) (s : Span) : Prop where
  lo_le : t.lo ≤ s.start
  lt : s.start < s.stop
  le_hi : s.stop ≤ t.hi

namespace Matcher

/-- The preferred match at a position has this body. -/
def BodyAt (m : Matcher) (text : List Char) (pos : Nat) (body : Span) : Prop :=
  pos ≤ text.length ∧ ∃ found, m.regex.preferred text pos = some found ∧
    found.caps.span? bodyGroup = some body

/-- How far after the start of its match a body can begin. -/
def lead (m : Matcher) : Nat :=
  if m.readsBefore then 1 else 0

theorem resume_eq (m : Matcher) (pos : Nat) : m.resume pos = pos - m.lead := by
  unfold resume lead
  split <;> rfl

/-- A body begins where its match starts, or one character later if the expression may read a
character before it. -/
def Anchored (m : Matcher) : Prop :=
  ∀ text pos body, m.BodyAt text pos body → body.start ≤ pos + m.lead

/-- The body of a rule's matcher is where the search expects it. -/
theorem anchored_of_compile {rule : Rule} {m : Matcher} (h : compile rule = .ok m) :
    m.Anchored := by
  intro text pos body hb
  obtain ⟨-, found, hfound, hspan⟩ := hb
  exact Regex.start_le_of_preferred (leads_of_compile h) hfound hspan

/-- Nothing is left to be found in the text: no body lies in it. -/
def Settled (m : Matcher) (t : ScanText) : Prop :=
  ∀ pos body, m.BodyAt t.whole pos body → ¬t.Holds body

variable {m : Matcher} {t : ScanText}

namespace BodyAt

variable {text : List Char} {pos : Nat} {body body' : Span}

theorem unique (h : m.BodyAt text pos body) (h' : m.BodyAt text pos body') : body' = body := by
  obtain ⟨-, found, hfound, hspan⟩ := h
  obtain ⟨-, found', hfound', hspan'⟩ := h'
  rw [hfound] at hfound'
  cases hfound'
  rw [hspan] at hspan'
  exact (Option.some.inj hspan').symm

theorem le_start (h : m.BodyAt text pos body) : pos ≤ body.start := by
  obtain ⟨-, found, hfound, hspan⟩ := h
  obtain ⟨hw, -⟩ := Regex.within_of_matchAt hfound
  exact (hw.2 _ (mem_of_lookup hspan)).1

end BodyAt

/-- A search that finds nothing leaves no body from its start on. -/
theorem not_bodyAt_of_find {text : List Char} {start pos : Nat} {body : Span}
    (hs : start ≤ text.length) (h : m.regex.find text start = none) (hpos : start ≤ pos) :
    ¬m.BodyAt text pos body := by
  rintro ⟨hlen, found, hfound, -⟩
  rw [Regex.preferred_eq_none_of_find hs h hpos hlen] at hfound
  cases hfound

namespace Finds

variable {start : Nat} {found : Match} {body : Span}

theorem bodyAt (h : Finds m t start found body) : m.BodyAt t.whole found.start body := by
  have hspec := Regex.find_spec (r := m.regex) h.start_le
  rw [h.find_eq] at hspec
  exact ⟨hspec.2.1, found, hspec.2.2.1, h.span?_eq⟩

/-- A search finds the first match. -/
theorem start_le_of_preferred (h : Finds m t start found body) {pos : Nat} {best : Match}
    (hpos : start ≤ pos) (hbest : m.regex.preferred t.whole pos = some best) :
    found.start ≤ pos := by
  have hspec := Regex.find_spec (r := m.regex) h.start_le
  rw [h.find_eq] at hspec
  refine Nat.le_of_not_lt fun hlt => ?_
  rw [hspec.2.2.2 pos hpos hlt] at hbest
  cases hbest

theorem start_le_of_bodyAt (h : Finds m t start found body) {pos : Nat} {body' : Span}
    (hb : m.BodyAt t.whole pos body') (hpos : start ≤ pos) : found.start ≤ pos := by
  obtain ⟨-, found', hfound', -⟩ := hb
  exact h.start_le_of_preferred hpos hfound'

/-- Where a search goes on behind a match, a body that begins later cannot begin before the end of
the first body without meeting it. -/
theorem meets (h : Finds m t start found body) (ha : m.Anchored) {pos : Nat} {body' : Span}
    (hb : m.BodyAt t.whole pos body') (hpos : found.start ≤ pos) (hlt : body'.start < body'.stop)
    (hstop : body'.start < body.stop) : body'.Meets body := by
  refine ⟨hstop, ?_⟩
  have hle := hb.le_start
  have hlead := ha _ _ _ h.bodyAt
  have hone : m.lead ≤ 1 := by
    unfold lead
    split <;> omega
  rcases Nat.eq_or_lt_of_le hpos with rfl | hgt
  · -- it is the same match
    obtain rfl := h.bodyAt.unique hb
    exact hlt
  · omega

end Finds

/-- Every body from `start` on that lies in the text begins before `lastEnd` or meets one that the
run takes. -/
theorem Scans.exists_meets {start lastEnd : Nat} {spans : List Span}
    (h : Scans m t start lastEnd spans) (ha : m.Anchored) {pos : Nat} {body : Span}
    (hb : m.BodyAt t.whole pos body) (hpos : start ≤ pos) (hin : t.Holds body) :
    body.start < lastEnd ∨ ∃ s ∈ spans, body.Meets s := by
  have hlead := ha _ _ _ hb
  have hle := hb.le_start
  have hlt := hin.lt
  have hhi := hin.le_hi
  induction h with
  | past start lastEnd hstart =>
      have := hb.1
      omega
  | none start lastEnd hs hnone =>
      exact absurd hb (not_bodyAt_of_find hs hnone hpos)
  | beyond start lastEnd found body' h hbeyond =>
      have hmeets := h.meets ha hb (h.start_le_of_bodyAt hb hpos) hlt
      have := h.within.2.2.1
      rcases Nat.lt_or_ge body.start body'.stop with hstop | hstop
      · have := (hmeets hstop).2
        omega
      · omega
  | take start lastEnd found body' h hne htake more hmore ih =>
      have hfirst := h.start_le_of_bodyAt hb hpos
      have hmeets (hstop : body.start < body'.stop) : body.start < lastEnd ∨
          ∃ s ∈ body' :: more, body.Meets s :=
        .inr ⟨body', List.mem_cons_self, h.meets ha hb hfirst hlt hstop⟩
      rw [resume_eq] at ih
      rcases Nat.lt_or_ge pos (body'.stop - m.lead) with hskip | hskip
      · -- a position that is passed over begins in the body that was taken
        exact hmeets (by omega)
      · rcases ih hskip with hstop | ⟨s, hs, hmeet⟩
        · exact hmeets hstop
        · exact .inr ⟨s, List.mem_cons_of_mem _ hs, hmeet⟩
  | drop start lastEnd found body' h hne hbefore hdrop spans hmore ih =>
      rcases Nat.eq_or_lt_of_le (h.start_le_of_bodyAt hb hpos) with rfl | hgt
      · obtain rfl := h.bodyAt.unique hb
        omega
      · exact ih hgt

/-- **A scan tries every position:** a body in its text meets one of those that it takes. -/
theorem exists_meets_of_spans {limit : Nat} {spans : List Span} (h : m.spans t limit = .ok spans)
    (ha : m.Anchored) {pos : Nat} {body : Span} (hb : m.BodyAt t.whole pos body)
    (hin : t.Holds body) : ∃ s ∈ spans, body.Meets s := by
  have hlead := ha _ _ _ hb
  have hlo := hin.lo_le
  have hpos : m.resume t.lo ≤ pos := by
    rw [resume_eq]
    omega
  rcases (scans_of_scanFrom h).exists_meets ha hb hpos hin with hlt | hmeets
  · omega
  · exact hmeets

/-- Where nothing is left to be found, a run takes nothing. -/
theorem Settled.eq_nil_of_scans (hm : m.Settled t) {start lastEnd : Nat} {spans : List Span}
    (h : Scans m t start lastEnd spans) (hlo : t.lo ≤ lastEnd) : spans = [] := by
  induction h with
  | past => rfl
  | none => rfl
  | beyond => rfl
  | take start lastEnd found body h hne hb more hmore ih =>
      have hw := h.within
      refine absurd ⟨by omega, ?_, hb.2.2⟩ (hm _ _ h.bodyAt)
      refine Nat.lt_of_le_of_ne hw.2.2.1 fun e => hne ⟨e, ?_, ?_⟩ <;> omega
  | drop start lastEnd found body h hne hlt hb spans hmore ih => exact ih hlo

/-- **Where nothing is left to be found, a scan finds nothing.** -/
theorem Settled.eq_nil_of_scan {before text after : String} {options : Options}
    (hm : m.Settled (.between before.toList text.toList after.toList)) {found : List TextMatch}
    (h : m.scan before text after options = .ok found) : found = [] := by
  rw [scan] at h
  cases hs : m.spans (.between before.toList text.toList after.toList) options.maxMatches with
  | error e =>
      simp only [hs] at h
      cases h
  | ok spans =>
      simp only [hs] at h
      rw [hm.eq_nil_of_scans (scans_of_scanFrom hs) (Nat.le_refl _)] at h
      cases h
      rfl

/-- What nothing is left in, nothing is left in a part of. -/
theorem Settled.part (hm : m.Settled t) {t' : ScanText} (hw : t'.whole = t.whole)
    (hlo : t.lo ≤ t'.lo) (hhi : t'.hi ≤ t.hi) : m.Settled t' := by
  intro pos body hb hin
  rw [hw] at hb
  exact hm pos body hb ⟨Nat.le_trans hlo hin.lo_le, hin.lt, Nat.le_trans hin.le_hi hhi⟩

/-- **Nothing is left to be found beside what a scan takes.** -/
theorem settled_of_spans {limit : Nat} {spans : List Span} (h : m.spans t limit = .ok spans)
    (ha : m.Anchored) {t' : ScanText} (hw : t'.whole = t.whole) (hlo : t.lo ≤ t'.lo)
    (hhi : t'.hi ≤ t.hi) (hgap : ∀ s ∈ spans, s.stop ≤ t'.lo ∨ t'.hi ≤ s.start) :
    m.Settled t' := by
  intro pos body hb hin
  rw [hw] at hb
  have := hin.lo_le
  have := hin.le_hi
  obtain ⟨s, hs, hmeets⟩ := exists_meets_of_spans h ha hb
    ⟨Nat.le_trans hlo hin.lo_le, hin.lt, Nat.le_trans hin.le_hi hhi⟩
  have := hmeets.1
  have := hmeets.2
  rcases hgap s hs with hs | hs <;> omega

end Matcher

end TextMasking
