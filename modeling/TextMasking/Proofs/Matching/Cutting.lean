import TextMasking.Proofs.Matching.Reported
import TextMasking.Proofs.Matching.Settled

/-! # Texts that are scanned in parts

A text can be cut where no match lies across.  The scan of the whole text is that of its first part
until it meets a body behind the cut (`Matcher.Behind`); there the first part is done.  The scan of
the second part begins at the cut, or a character earlier where the expression may read one before
its match, and comes to the same place: it finds the same match at once, or drops the one that the
scan of the whole has dropped just before (`Matcher.Scans.cut`).  From there on it is no matter what
was taken before the cut (`Matcher.Scans.of_behind`), so what is found in the parts is what is found
in the whole (`Matcher.scan_append`). -/

namespace TextMasking

namespace Regex

variable {r : Regex} {text : List Char} {start start' : Nat}

/-- A search that begins later finds nothing either. -/
theorem find_eq_none_of_le (hs : start ≤ text.length) (h : r.find text start = none)
    (hle : start ≤ start') (hlen : start' ≤ text.length) : r.find text start' = none := by
  have hspec := find_spec (r := r) hlen
  cases hfind : r.find text start' with
  | none => rfl
  | some found =>
      rw [hfind] at hspec
      obtain ⟨hge, hlen', hbest, -⟩ := hspec
      rw [preferred_eq_none_of_find hs h (Nat.le_trans hle hge) hlen'] at hbest
      cases hbest

/-- A search that begins later, but not behind the match, finds it too. -/
theorem find_eq_some_of_le {found : Match} (hs : start ≤ text.length)
    (h : r.find text start = some found) (hle : start ≤ start') (hle' : start' ≤ found.start) :
    r.find text start' = some found := by
  have hspec := find_spec (r := r) hs
  rw [h] at hspec
  obtain ⟨-, hlen, hbest, hfirst⟩ := hspec
  have hspec' := find_spec (r := r) (Nat.le_trans hle' hlen)
  cases hfind : r.find text start' with
  | none =>
      rw [hfind] at hspec'
      rw [hspec' found.start hle' hlen] at hbest
      cases hbest
  | some found' =>
      rw [hfind] at hspec'
      obtain ⟨hge', -, hbest', hfirst'⟩ := hspec'
      rcases Nat.lt_trichotomy found'.start found.start with hlt | heq | hgt
      · rw [hfirst _ (Nat.le_trans hle hge') hlt] at hbest'
        cases hbest'
      · rw [heq, hbest] at hbest'
        exact hbest'.symm
      · rw [hfirst' _ hle' hgt] at hbest
        cases hbest

end Regex

namespace ScanText

/-- The part of a text before a position. -/
def upTo (t : ScanText) (pos : Nat) : ScanText := ⟨t.whole, t.lo, pos⟩

/-- The part of a text from a position on. -/
def onward (t : ScanText) (pos : Nat) : ScanText := ⟨t.whole, pos, t.hi⟩

end ScanText

namespace Matcher

variable {m : Matcher} {t : ScanText} {start lastEnd b : Nat} {spans : List Span}

/-! ### Runs within a limit -/

/-- A run is what a scan does if it takes no more than the limit. -/
theorem Scans.scanFrom_eq_ok_iff (h : Scans m t start lastEnd spans) (hlo : t.lo ≤ lastEnd)
    (limit count : Nat) :
    m.scanFrom t limit start lastEnd count = .ok spans ↔
      spans = [] ∨ count + spans.length ≤ limit := by
  induction h generalizing count with
  | past start lastEnd h =>
      rw [scanFrom_eq, if_neg (Nat.not_le_of_lt h)]
      simp
  | none start lastEnd hs h =>
      rw [scanFrom_eq, if_pos hs, h]
      simp
  | beyond start lastEnd found body h hb hne =>
      rw [scanFrom_eq, if_pos h.start_le, h.find_eq]
      simp [h.span?_eq, if_neg hne, if_pos hb]
  | take start lastEnd found body h hne hb more hmore ih =>
      have hbefore : ¬t.hi ≤ body.start := by
        have := h.within
        omega
      rw [scanFrom_eq, if_pos h.start_le, h.find_eq]
      simp only [h.span?_eq, if_neg hne, if_neg hbefore, if_pos hb]
      have hcount : body :: more = [] ∨ count + (body :: more).length ≤ limit ↔
          ¬limit < count + 1 ∧ (more = [] ∨ count + 1 + more.length ≤ limit) := by
        cases more with
        | nil => simp
        | cons s more =>
            simp only [reduceCtorEq, false_or, List.length_cons]
            omega
      rw [hcount, ← ih (by omega)]
      split
      · rename_i hlimit
        simp [hlimit]
      · rename_i hlimit
        cases m.scanFrom t limit (m.resume body.stop) body.stop (count + 1) with
        | error e => simp [Except.map]
        | ok found => simp [Except.map, hlimit]
  | drop start lastEnd found body h hne hlt hb spans hmore ih =>
      rw [scanFrom_eq, if_pos h.start_le, h.find_eq]
      simp only [h.span?_eq, if_neg hne, if_neg (Nat.not_le_of_lt hlt), if_neg hb]
      exact ih hlo count

/-! ### Searches from a later position -/

namespace Finds

variable {found : Match} {body : Span}

/-- A search does not ask where the text ends. -/
theorem upTo (h : Finds m t start found body) (b : Nat) : Finds m (t.upTo b) start found body :=
  ⟨h.start_le, h.find_eq, h.span?_eq⟩

/-- A search does not ask where the text begins. -/
theorem onward (h : Finds m t start found body) (b : Nat) :
    Finds m (t.onward b) start found body :=
  ⟨h.start_le, h.find_eq, h.span?_eq⟩

theorem later (h : Finds m t start found body) {start' : Nat} (hle : start ≤ start')
    (hle' : start' ≤ found.start) : Finds m t start' found body :=
  ⟨by have := h.within; omega, Regex.find_eq_some_of_le h.start_le h.find_eq hle hle', h.span?_eq⟩

end Finds

/-- A run may begin later if no match begins before. -/
theorem Scans.later (h : Scans m t start lastEnd spans) {start' : Nat} (hle : start ≤ start')
    (hlen : start' ≤ t.whole.length)
    (hfirst : ∀ found body, Finds m t start found body → start' ≤ found.start) :
    Scans m t start' lastEnd spans := by
  cases h with
  | past _ _ h => exact absurd (Nat.le_trans hle hlen) (Nat.not_le_of_lt h)
  | none _ _ hs h => exact .none start' lastEnd hlen (Regex.find_eq_none_of_le hs h hle hlen)
  | beyond _ _ found body h hb hne =>
      exact .beyond start' lastEnd found body (h.later hle (hfirst _ _ h)) hb hne
  | take _ _ found body h hne hb more hmore =>
      exact .take start' lastEnd found body (h.later hle (hfirst _ _ h)) hne hb more hmore
  | drop _ _ found body h hne hlt hb _ hmore =>
      exact .drop start' lastEnd found body (h.later hle (hfirst _ _ h)) hne hlt hb spans hmore

/-! ### Bodies behind a position -/

/-- The bodies that a search from `start` may find begin at `b` or later. -/
def Behind (m : Matcher) (text : List Char) (start b : Nat) : Prop :=
  ∀ pos body, start ≤ pos → m.BodyAt text pos body → b ≤ body.start

theorem Behind.later {text : List Char} (h : m.Behind text start b) {start' : Nat}
    (hle : start ≤ start') : m.Behind text start' b :=
  fun pos body hpos hbody => h pos body (Nat.le_trans hle hpos) hbody

theorem lead_le (m : Matcher) : m.lead ≤ 1 := by
  unfold lead
  split <;> omega

/-- If the body that a search finds is behind a position, so are all others. -/
theorem Finds.behind {found : Match} {body : Span} (h : Finds m t start found body)
    (ha : m.Anchored) (hb : b ≤ body.start) : m.Behind t.whole start b := by
  intro pos body' hpos hbody'
  rcases Nat.eq_or_lt_of_le (h.start_le_of_bodyAt hbody' hpos) with rfl | hgt
  · rwa [h.bodyAt.unique hbody']
  · have := ha _ _ _ h.bodyAt
    have := m.lead_le
    have := hbody'.le_start
    omega

theorem Finds.le_start {found : Match} {body : Span} (h : Finds m t start found body)
    (hb : m.Behind t.whole start b) : b ≤ body.start :=
  hb found.start body h.within.1 h.bodyAt

namespace Scans

/-- A text that begins later has fewer places at which a scan is given up. -/
theorem onward (h : Scans m t start lastEnd spans) (hlo : t.lo ≤ b) :
    Scans m (t.onward b) start lastEnd spans := by
  have hnot {body : Span} (hne : ¬(body.start = body.stop ∧ t.lo ≤ body.start ∧
      body.start ≤ t.hi)) : ¬(body.start = body.stop ∧ b ≤ body.start ∧ body.start ≤ t.hi) :=
    fun h => hne ⟨h.1, Nat.le_trans hlo h.2.1, h.2.2⟩
  induction h with
  | past start lastEnd h => exact .past start lastEnd h
  | none start lastEnd hs h => exact .none start lastEnd hs h
  | beyond start lastEnd found body h hb hne =>
      exact .beyond start lastEnd found body (h.onward b) hb (hnot hne)
  | take start lastEnd found body h hne hb more hmore ih =>
      exact .take start lastEnd found body (h.onward b) (hnot hne) hb more ih
  | drop start lastEnd found body h hne hlt hb spans hmore ih =>
      exact .drop start lastEnd found body (h.onward b) (hnot hne) hlt hb spans ih

/-- Where all bodies begin behind a position, it is no matter what was taken before it. -/
theorem of_behind (h : Scans m t start lastEnd spans) (hbehind : m.Behind t.whole start b)
    (hlo : t.lo ≤ b) (hlast : lastEnd ≤ b) {lastEnd' : Nat} (hlast' : lastEnd' ≤ b) :
    Scans m t start lastEnd' spans := by
  induction h with
  | past start lastEnd h => exact .past start lastEnd' h
  | none start lastEnd hs h => exact .none start lastEnd' hs h
  | beyond start lastEnd found body h hb hne => exact .beyond start lastEnd' found body h hb hne
  | take start lastEnd found body h hne hb more hmore ih =>
      have := h.le_start hbehind
      have := h.within
      exact .take start lastEnd' found body h hne (by omega) more hmore
  | drop start lastEnd found body h hne hlt hb spans hmore ih =>
      have := h.le_start hbehind
      have := h.within
      exact .drop start lastEnd' found body h hne hlt (by omega) spans
        (ih (hbehind.later (by omega)) hlast)

/-- Where all bodies begin behind the end of a text, nothing is taken. -/
theorem upTo_of_behind (h : Scans m t start lastEnd spans)
    (hbehind : m.Behind t.whole start b) (hhi : b ≤ t.hi) :
    Scans m (t.upTo b) start lastEnd [] := by
  have hbeyond {found : Match} {body : Span} (h : Finds m t start found body)
      (hne : ¬(body.start = body.stop ∧ t.lo ≤ body.start ∧ body.start ≤ t.hi)) :
      Scans m (t.upTo b) start lastEnd [] :=
    .beyond start lastEnd found body (h.upTo b) (h.le_start hbehind)
      fun h => hne ⟨h.1, h.2.1, Nat.le_trans h.2.2 hhi⟩
  cases h with
  | past _ _ h => exact .past start lastEnd h
  | none _ _ hs h => exact .none start lastEnd hs h
  | beyond _ _ found body h hb hne => exact hbeyond h hne
  | take _ _ found body h hne hb more hmore => exact hbeyond h hne
  | drop _ _ found body h hne hlt hb _ hmore => exact hbeyond h hne

end Scans

/-! ### Runs over the parts -/

/-- A scan of the part from `b` on comes to `start`: it finds what a search from there finds, or it
drops the match that begins just before. -/
def Rejoins (m : Matcher) (t : ScanText) (start b : Nat) : Prop :=
  start ≤ b - m.lead ∨ ∃ found body, Finds m t (b - m.lead) found body ∧ body.start < b ∧
    start = found.start + 1

/-- It also does behind a match that is dropped in the part before. -/
theorem Rejoins.drop (h : m.Rejoins t start b) {found : Match} {body : Span}
    (hfinds : Finds m t start found body) (hlt : body.start < b) :
    m.Rejoins t (found.start + 1) b := by
  have hwithin := hfinds.within
  have hlead := m.lead_le
  rcases Nat.lt_or_ge found.start (b - m.lead) with hbefore | hbehind
  · exact .inl hbefore
  · refine .inr ⟨found, body, ?_, hlt, rfl⟩
    rcases h with hle | ⟨found', body', hfinds', -, rfl⟩
    · exact hfinds.later hle hbehind
    · have := hfinds'.within
      omega

namespace Scans

/-- Where all bodies begin behind the cut, the first part is done and the second takes the rest. -/
theorem cut_of_behind (h : Scans m t start lastEnd spans) (ha : m.Anchored)
    (hlo : t.lo ≤ b) (hhi : b ≤ t.hi) (hlen : t.hi ≤ t.whole.length) (hlast : lastEnd ≤ b)
    (hbehind : m.Behind t.whole start b) (hrejoins : m.Rejoins t start b) :
    Scans m (t.upTo b) start lastEnd [] ∧ Scans m (t.onward b) (b - m.lead) b spans := by
  refine ⟨h.upTo_of_behind hbehind hhi, ?_⟩
  have hmore := (h.of_behind hbehind hlo hlast (Nat.le_refl b)).onward hlo
  rcases hrejoins with hle | ⟨found, body, hfinds, hlt, rfl⟩
  · refine hmore.later hle ?_ fun found body hfinds => ?_
    · show b - m.lead ≤ t.whole.length
      omega
    · have := hfinds.le_start hbehind
      have := ha _ _ _ hfinds.bodyAt
      omega
  · exact .drop _ _ found body (hfinds.onward b) (fun h => absurd h.2.1 (Nat.not_le_of_lt hlt))
      (Nat.lt_of_lt_of_le hlt hhi) (fun h => absurd h.1 (Nat.not_le_of_lt hlt)) spans hmore

/-- **A run over a text is one over its first part and one over the second.** -/
theorem cut (h : Scans m t start lastEnd spans) (ha : m.Anchored) (hlo : t.lo ≤ b)
    (hhi : b ≤ t.hi) (hlen : t.hi ≤ t.whole.length) (hstart : start ≤ b) (hlast : lastEnd ≤ b)
    (hborder : ∀ s ∈ spans, s.stop ≤ b ∨ b ≤ s.start) (hrejoins : m.Rejoins t start b) :
    ∃ left right, spans = left ++ right ∧ Scans m (t.upTo b) start lastEnd left ∧
      Scans m (t.onward b) (b - m.lead) b right := by
  have hrest {start lastEnd : Nat} {spans : List Span} (h : Scans m t start lastEnd spans)
      (hlast : lastEnd ≤ b) (hbehind : m.Behind t.whole start b)
      (hrejoins : m.Rejoins t start b) :
      ∃ left right, spans = left ++ right ∧ Scans m (t.upTo b) start lastEnd left ∧
        Scans m (t.onward b) (b - m.lead) b right :=
    ⟨[], spans, rfl, h.cut_of_behind ha hlo hhi hlen hlast hbehind hrejoins⟩
  have hpart {body : Span} (hne : ¬(body.start = body.stop ∧ t.lo ≤ body.start ∧
      body.start ≤ t.hi)) : ¬(body.start = body.stop ∧ t.lo ≤ body.start ∧ body.start ≤ b) :=
    fun h => hne ⟨h.1, h.2.1, Nat.le_trans h.2.2 hhi⟩
  induction h with
  | past start lastEnd h => omega
  | none start lastEnd hs h =>
      exact hrest (.none start lastEnd hs h) hlast
        (fun pos body hpos hbody => absurd hbody (not_bodyAt_of_find hs h hpos)) hrejoins
  | beyond start lastEnd found body h hb hne =>
      exact hrest (.beyond start lastEnd found body h hb hne) hlast
        (h.behind ha (Nat.le_trans hhi hb)) hrejoins
  | take start lastEnd found body h hne hb more hmore ih =>
      rcases Nat.lt_or_ge body.start b with hlt | hge
      · have hstop : body.stop ≤ b :=
          (hborder body List.mem_cons_self).resolve_right (Nat.not_le_of_lt hlt)
        have hresume : m.resume body.stop ≤ b - m.lead := by
          rw [resume_eq]
          omega
        obtain ⟨left, right, rfl, hleft, hright⟩ := ih (by omega) hstop
          (fun s hs => hborder s (List.mem_cons_of_mem _ hs)) (.inl hresume)
        exact ⟨body :: left, right, rfl, .take start lastEnd found body (h.upTo b) (hpart hne)
          ⟨hb.1, hb.2.1, hstop⟩ left hleft, hright⟩
      · exact hrest (.take start lastEnd found body h hne hb more hmore) hlast (h.behind ha hge)
          hrejoins
  | drop start lastEnd found body h hne hlt hb spans hmore ih =>
      rcases Nat.lt_or_ge body.start b with hlt' | hge
      · have := h.within
        obtain ⟨left, right, rfl, hleft, hright⟩ := ih (by omega) hlast hborder
          (hrejoins.drop h hlt')
        exact ⟨left, right, rfl, .drop start lastEnd found body (h.upTo b) (hpart hne) hlt'
          (fun h => hb ⟨h.1, h.2.1, Nat.le_trans h.2.2 hhi⟩) left hleft, hright⟩
      · exact hrest (.drop start lastEnd found body h hne hlt hb spans hmore) hlast
          (h.behind ha hge) hrejoins

end Scans

/-- A scan of the whole text that is not given up is one of each part. -/
theorem exists_spans_of_cut {limit : Nat} (h : m.spans t limit = .ok spans) (ha : m.Anchored)
    (hlo : t.lo ≤ b) (hhi : b ≤ t.hi) (hlen : t.hi ≤ t.whole.length)
    (hborder : ∀ s ∈ spans, s.stop ≤ b ∨ b ≤ s.start) :
    ∃ left right, spans = left ++ right ∧ m.spans (t.upTo b) limit = .ok left ∧
      m.spans (t.onward b) limit = .ok right := by
  have hrun := scans_of_scanFrom h
  have hstart : m.resume t.lo ≤ b - m.lead := by
    rw [resume_eq]
    omega
  obtain ⟨left, right, rfl, hleft, hright⟩ :=
    hrun.cut ha hlo hhi hlen (by omega) hlo hborder (.inl hstart)
  -- the parts take no more than the whole
  have hcount := (hrun.scanFrom_eq_ok_iff (Nat.le_refl _) limit 0).mp h
  rw [List.append_eq_nil_iff, List.length_append] at hcount
  refine ⟨left, right, rfl,
    (hleft.scanFrom_eq_ok_iff (Nat.le_refl _) limit 0).mpr ?_, ?_⟩
  · exact hcount.imp And.left fun h => by omega
  · rw [spans, resume_eq]
    exact (hright.scanFrom_eq_ok_iff (Nat.le_refl _) limit 0).mpr
      (hcount.imp And.right fun h => by omega)

end Matcher

/-! ### Matches of the parts -/

/-- The match in a text with more before it. -/
def TextMatch.behind (x : TextMatch) (bytes : Nat) : TextMatch :=
  { x with start := bytes + x.start, stop := bytes + x.stop }

namespace ScanText

/-- Bytes are counted from the beginning of the text. -/
theorem byteOffset_between (before left right after : List Char) :
    (between before (left ++ right) after).byteOffset (before.length + left.length) =
      Text.byteLength left := by
  simp [byteOffset, slice, between]

theorem upTo_between (before left right after : List Char) :
    (between before (left ++ right) after).upTo (before.length + left.length) =
      between before left (right ++ after) := by
  simp [upTo, between]

theorem onward_between (before left right after : List Char) :
    (between before (left ++ right) after).onward (before.length + left.length) =
      between (before ++ left) right after := by
  simp [onward, between, Nat.add_assoc]

/-- The offset of a position in the second part of a text. -/
theorem byteOffset_second {before left : List Char} (right after : List Char) {pos : Nat}
    (h : before.length + left.length ≤ pos) :
    (between before (left ++ right) after).byteOffset pos =
      Text.byteLength left + (between (before ++ left) right after).byteOffset pos := by
  have hlo : (between before (left ++ right) after).lo ≤ before.length + left.length :=
    Nat.le_add_right _ _
  rw [← byteOffset_between before left right after, ← onward_between, byteOffset, byteOffset,
    ← slice_append_slice _ hlo h, Text.byteLength_append]
  rfl

end ScanText

namespace Matcher

variable {m : Matcher}

/-- A match in the first part is the same match in the whole text. -/
theorem report_first (m : Matcher) (before left right after : List Char) (s : Span) :
    m.report (.between before (left ++ right) after) s =
      m.report (.between before left (right ++ after)) s := by
  rw [← ScanText.upTo_between]
  rfl

/-- A match in the second part has the first part before it in the whole text. -/
theorem report_second (m : Matcher) {before left : List Char} (right after : List Char) {s : Span}
    (hstart : before.length + left.length ≤ s.start) (hle : s.start ≤ s.stop) :
    m.report (.between before (left ++ right) after) s =
      (m.report (.between (before ++ left) right after) s).behind (Text.byteLength left) := by
  rw [report, report, TextMatch.behind, ScanText.byteOffset_second right after hstart,
    ScanText.byteOffset_second right after (Nat.le_trans hstart hle), ← ScanText.onward_between]
  rfl

theorem scan_of_spans {before text after : String} {options : Options} {spans : List Span}
    (h : m.spans (.between before.toList text.toList after.toList) options.maxMatches =
      .ok spans) :
    m.scan before text after options =
      .ok (spans.map (m.report (.between before.toList text.toList after.toList))) := by
  simp only [scan, h]
  rfl

/-- **A text that is cut where no match lies across is scanned in parts.**  If a scan of the whole
text is not given up, neither are those of its parts, each of them with the other around it, and
what they find is what the scan of the whole finds. -/
theorem scan_append {rule : Rule} (h : compile rule = .ok m)
    {before left right after : String} {options : Options} {found : List TextMatch}
    (hscan : m.scan before (left ++ right) after options = .ok found)
    (hborder : ∀ x ∈ found, ¬(x.start < Text.byteLength left.toList ∧
      Text.byteLength left.toList < x.stop)) :
    ∃ found₁ found₂, m.scan before left (right ++ after) options = .ok found₁ ∧
      m.scan (before ++ left) right after options = .ok found₂ ∧
      found = found₁ ++ found₂.map (·.behind (Text.byteLength left.toList)) := by
  obtain ⟨spans, hspans, rfl, -⟩ := exists_spans_of_scan hscan
  rw [String.toList_append] at hspans hborder ⊢
  have hord := ordered_of_spans hspans (Nat.le_add_right _ _)
  have hcut : ∀ s ∈ spans, s.stop ≤ before.toList.length + left.toList.length ∨
      before.toList.length + left.toList.length ≤ s.start := by
    intro s hs
    obtain ⟨hlo, hlt, hhi⟩ := hord.of_mem hs
    have hat := m.isAt_report after.toList hlo (Nat.le_of_lt hlt) hhi
    have hx := hborder _ (List.mem_map_of_mem hs)
    rw [hat.start_lt_iff (List.prefix_append _ _), hat.lt_stop_iff (List.prefix_append _ _)] at hx
    omega
  have hlo : before.toList.length ≤ before.toList.length + left.toList.length :=
    Nat.le_add_right _ _
  obtain ⟨spans₁, spans₂, rfl, h₁, h₂⟩ := exists_spans_of_cut hspans (anchored_of_compile h) hlo
    (by simp [ScanText.between]) (by simp [ScanText.between]) hcut
  rw [ScanText.onward_between] at h₂
  have hord₂ := ordered_of_spans h₂ (Nat.le_add_right _ _)
  rw [ScanText.upTo_between, ← String.toList_append] at h₁
  rw [← String.toList_append] at h₂
  refine ⟨_, _, scan_of_spans h₁, scan_of_spans h₂, ?_⟩
  rw [List.map_append, List.map_map, String.toList_append, String.toList_append]
  congr 1
  · exact List.map_congr_left fun s _ => m.report_first _ _ _ _ s
  · refine List.map_congr_left fun s hs => ?_
    obtain ⟨hstart, hlt, -⟩ := hord₂.of_mem hs
    rw [ScanText.between, List.length_append] at hstart
    exact m.report_second _ _ hstart (Nat.le_of_lt hlt)

/-- A whole word right behind the cut reads the character before it. -/
theorem scan_append_dashes :
    let rule : Rule := ⟨"-", "X", true, false, false⟩
    let found : List TextMatch := [⟨2, 3, "-", "X", "-"⟩, ⟨3, 4, "-", "X", "-"⟩,
      ⟨5, 6, "-", "X", "-"⟩]
    (ofLiteral rule).scan "a" ("é-" ++ "- -") "" .default = .ok found ∧
      (∀ x ∈ found, ¬(x.start < Text.byteLength "é-".toList ∧
        Text.byteLength "é-".toList < x.stop)) ∧
      ∃ found₁ found₂, (ofLiteral rule).scan "a" "é-" ("- -" ++ "") .default = .ok found₁ ∧
        (ofLiteral rule).scan ("a" ++ "é-") "- -" "" .default = .ok found₂ ∧
        found = found₁ ++ found₂.map (·.behind (Text.byteLength "é-".toList)) := by
  intro rule found
  have hscan : (ofLiteral rule).scan "a" ("é-" ++ "- -") "" .default = .ok found := by
    decide +kernel
  have hborder : ∀ x ∈ found, ¬(x.start < Text.byteLength "é-".toList ∧
      Text.byteLength "é-".toList < x.stop) := by decide +kernel
  exact ⟨hscan, hborder,
    scan_append (show compile ⟨"-", "X", true, false, false⟩ = .ok _ from rfl) hscan hborder⟩

end Matcher

end TextMasking
