import Mathlib.Order.Monotone.Basic
import Mathlib.Order.Nat
import TextMasking.Proofs.Matching.Reported

/-! # The search in byte offsets

A scan counts characters; where a text is a sequence of bytes, the same search is a loop over byte
offsets (`Matcher.searchStep`).  Each step cuts the whole at the offset where it goes on, moves that
offset over a character, and takes the offset of the text off those of a match; a cut inside a
character or a difference below zero would break it.  No step of a search does, and every search
comes to its end with the answer of the scan (`Matcher.searches_scanFrom`), since each position of
the scan has one offset (`Text.offset`) and offsets compare as positions do.

The matches of an answer are parts of the text in order, none of them empty, and no more than the
limit (`TextMatch.Proper`). -/

namespace TextMasking

namespace Text

/-! ### Cuts at byte offsets -/

/-- The characters before and after a byte offset, unless it is beyond them or inside of one. -/
def cutAt? (offset : Nat) (cs : List Char) : Option (List Char × List Char) :=
  let parts := splitAtByte offset cs
  if byteLength parts.1 = offset then some parts else none

/-- The number of bytes from one offset to another, unless the other comes first. -/
def distance? (start stop : Nat) : Option Nat :=
  if start ≤ stop then some (stop - start) else none

/-- The characters between two offsets. -/
def part? (start stop : Nat) (cs : List Char) : Option (List Char) := do
  let (_, rest) ← cutAt? start cs
  let (part, _) ← cutAt? (← distance? start stop) rest
  return part

/-- The offset of the character before an offset, or of the first one. -/
def boundaryBefore? (offset : Nat) (cs : List Char) : Option Nat :=
  (cutAt? offset cs).map fun (before, _) => byteLength before.dropLast

/-- The offset behind the character at an offset; behind the end it is one more. -/
def boundaryAfter? (offset : Nat) (cs : List Char) : Option Nat :=
  (cutAt? offset cs).map fun (_, after) =>
    match after with
    | [] => byteLength cs + 1
    | c :: _ => offset + c.utf8Size

/-- The byte offset of a position; each position behind the end takes one byte. -/
def offset (cs : List Char) (pos : Nat) : Nat :=
  byteLength (cs.take pos) + (pos - cs.length)

variable {cs : List Char} {pos start stop : Nat}

theorem offset_of_le (h : pos ≤ cs.length) : offset cs pos = byteLength (cs.take pos) := by
  unfold offset
  omega

theorem offset_append (a b : List Char) : offset (a ++ b) a.length = byteLength a := by
  rw [offset_of_le (by simp), List.take_left]

theorem offset_length (cs : List Char) : offset cs cs.length = byteLength cs := by
  rw [offset_of_le (Nat.le_refl _), List.take_length]

/-- The offset of the next position. -/
theorem offset_succ (cs : List Char) (pos : Nat) :
    offset cs (pos + 1) = offset cs pos + (cs[pos]?.map Char.utf8Size).getD 1 := by
  unfold offset
  by_cases h : pos < cs.length
  · rw [List.take_succ_eq_append_getElem h, byteLength_append, List.getElem?_eq_getElem h]
    simp only [byteLength, Option.map_some, Option.getD_some]
    omega
  · rw [List.take_of_length_le (by omega), List.take_of_length_le (by omega),
      List.getElem?_eq_none (by omega)]
    simp
    omega

/-- Offsets compare as positions do. -/
theorem strictMono_offset (cs : List Char) : StrictMono (offset cs) := by
  refine strictMono_nat_of_lt_succ fun pos => ?_
  rw [offset_succ]
  cases cs[pos]? with
  | none => simp
  | some c =>
      have := c.utf8Size_pos
      simp
      omega

theorem cutAt?_offset (h : pos ≤ cs.length) :
    cutAt? (offset cs pos) cs = some (cs.take pos, cs.drop pos) := by
  have hsplit := splitAtByte_append (cs.take pos) (cs.drop pos)
  rw [List.take_append_drop] at hsplit
  simp only [cutAt?, offset_of_le h, hsplit, if_true]

theorem distance?_offset (h : start ≤ stop) :
    distance? (offset cs start) (offset cs stop) = some (offset cs stop - offset cs start) :=
  if_pos ((strictMono_offset cs).monotone h)

theorem boundaryBefore?_offset (h : pos ≤ cs.length) :
    boundaryBefore? (offset cs pos) cs = some (offset cs (pos - 1)) := by
  have hinit : (cs.take pos).dropLast = cs.take (pos - 1) := by
    rw [List.dropLast_eq_take, List.length_take, Nat.min_eq_left h, List.take_take,
      Nat.min_eq_left (Nat.sub_le pos 1)]
  rw [boundaryBefore?, cutAt?_offset h, offset_of_le (by omega), ← hinit]
  rfl

theorem boundaryAfter?_offset (h : pos ≤ cs.length) :
    boundaryAfter? (offset cs pos) cs = some (offset cs (pos + 1)) := by
  rw [boundaryAfter?, cutAt?_offset h, Option.map_some, offset_succ]
  by_cases hlt : pos < cs.length
  · rw [List.drop_eq_getElem_cons hlt, List.getElem?_eq_getElem hlt]
    rfl
  · obtain rfl : pos = cs.length := by omega
    rw [List.drop_length, offset_length, List.getElem?_eq_none (Nat.le_refl _)]
    rfl

/-- The characters between two positions are those between their offsets. -/
theorem part?_offset (hle : start ≤ stop) (h : stop ≤ cs.length) :
    part? (offset cs start) (offset cs stop) cs =
      some ((cs.drop start).take (stop - start)) := by
  have hpart : offset cs stop - offset cs start =
      offset (cs.drop start) (stop - start) := by
    have hcut : cs.take stop = cs.take start ++ (cs.drop start).take (stop - start) := by
      rw [← List.take_add, Nat.add_sub_cancel' hle]
    rw [offset_of_le h, offset_of_le (by omega), offset_of_le (by simp; omega), hcut,
      byteLength_append, Nat.add_sub_cancel_left]
  have hrest : stop - start ≤ (cs.drop start).length := by
    rw [List.length_drop]
    omega
  simp only [part?, cutAt?_offset (show start ≤ cs.length by omega), distance?_offset hle, hpart,
    cutAt?_offset hrest, bind, Option.bind, pure]

end Text

/-! ### The loop -/

/-- What a search at a byte offset finds: the offset where the match begins and the part in the
group around the body, if it is set. -/
structure Hit where
  start : Nat
  body? : Option Span

/-- A search under way: the offset where it goes on, the end of the last match and the matches so
far. -/
structure Search where
  next : Nat
  lastEnd : Nat
  found : List TextMatch

/-- What a step of a search comes to. -/
inductive Search.Step where
  | ended (answer : Except ScanFault (List TextMatch))
  | goOn (s : Search)

namespace Matcher

/-- The first match at an offset or behind it. -/
def hit? (m : Matcher) (whole : List Char) (next : Nat) : Option (Option Hit) := do
  let (before, _) ← Text.cutAt? next whole
  return (m.regex.find whole before.length).map fun found =>
    { start := Text.offset whole found.start
      body? := (found.caps.span? bodyGroup).map fun body =>
        ⟨Text.offset whole body.start, Text.offset whole body.stop⟩ }

/-- The match reported for a part of the whole, with offsets that count from `lo`. -/
def matchAt? (m : Matcher) (whole : List Char) (lo : Nat) (body : Span) : Option TextMatch := do
  return {
    start := ← Text.distance? lo body.start
    stop := ← Text.distance? lo body.stop
    matched := String.ofList (← Text.part? body.start body.stop whole)
    replacement := m.rule.replacement
    pattern := m.rule.pattern }

/-- The offset where a search goes on behind another. -/
def resumeAt? (m : Matcher) (whole : List Char) (pos : Nat) : Option Nat :=
  if m.readsBefore then Text.boundaryBefore? pos whole else some pos

/-- One step of the search in the part of the whole between two offsets; nothing if it would cut a
character in two or take an offset from a smaller one. -/
def searchStep (m : Matcher) (whole : List Char) (lo hi limit : Nat) (s : Search) :
    Option Search.Step := do
  if Text.byteLength whole < s.next then
    return .ended (.ok s.found)
  match ← m.hit? whole s.next with
  | none => return .ended (.ok s.found)
  | some ⟨_, none⟩ => return .ended (.error .noBody)
  | some ⟨start, some body⟩ =>
    if body.start = body.stop ∧ lo ≤ body.start ∧ body.start ≤ hi then
      return .ended (.error (.emptyMatch (← Text.distance? lo body.start)))
    else if hi ≤ body.start then return .ended (.ok s.found)
    else if body.start < s.lastEnd ∨ hi < body.stop then
      return .goOn { s with next := ← Text.boundaryAfter? start whole }
    else
      let found := s.found ++ [← m.matchAt? whole lo body]
      let next ← m.resumeAt? whole body.stop
      if limit < found.length then return .ended (.error (.tooMany limit))
      else return .goOn ⟨next, body.stop, found⟩

/-- A search comes to its end with this answer, and none of its steps is broken. -/
inductive Searches (m : Matcher) (whole : List Char) (lo hi limit : Nat) :
    Search → Except ScanFault (List TextMatch) → Prop
  | ended (s : Search) (answer : Except ScanFault (List TextMatch))
      (h : m.searchStep whole lo hi limit s = some (.ended answer)) :
      Searches m whole lo hi limit s answer
  | goOn (s s' : Search) (answer : Except ScanFault (List TextMatch))
      (h : m.searchStep whole lo hi limit s = some (.goOn s'))
      (hmore : Searches m whole lo hi limit s' answer) : Searches m whole lo hi limit s answer

/-- The search in a text between two others, from its beginning, comes to its end with this
answer. -/
def SearchEnds (m : Matcher) (before text after : String) (options : Options)
    (answer : Except ScanFault (List TextMatch)) : Prop :=
  let whole := before.toList ++ text.toList ++ after.toList
  let lo := Text.byteLength before.toList
  let hi := lo + Text.byteLength text.toList
  ∃ next, m.resumeAt? whole lo = some next ∧
    m.Searches whole lo hi options.maxMatches ⟨next, lo, []⟩ answer

variable {m : Matcher} {t : ScanText} {limit start lastEnd count : Nat}

section Steps

open Text

variable {found : List TextMatch} {hit : Match} {body : Span}

theorem hit?_offset (m : Matcher) {whole : List Char} (h : start ≤ whole.length) :
    m.hit? whole (offset whole start) = some ((m.regex.find whole start).map fun found =>
      ⟨offset whole found.start, (found.caps.span? bodyGroup).map fun body =>
        ⟨offset whole body.start, offset whole body.stop⟩⟩) := by
  simp only [hit?, cutAt?_offset h, List.length_take, Nat.min_eq_left h, bind, Option.bind, pure]

theorem resumeAt?_offset (m : Matcher) {whole : List Char} {pos : Nat} (h : pos ≤ whole.length) :
    m.resumeAt? whole (offset whole pos) = some (offset whole (m.resume pos)) := by
  unfold resumeAt? resume
  by_cases hreads : m.readsBefore
  · rw [if_pos hreads, if_pos hreads, boundaryBefore?_offset h]
  · rw [if_neg hreads, if_neg hreads]

/-- The offset in the text of a position is the distance from the offset of the text. -/
theorem distance?_byteOffset {pos : Nat} (hlo : t.lo ≤ pos) (hlen : pos ≤ t.whole.length) :
    distance? (offset t.whole t.lo) (offset t.whole pos) = some (t.byteOffset pos) := by
  rw [distance?_offset hlo, offset_of_le hlen, offset_of_le (hlo.trans hlen)]
  have hcut : t.whole.take pos = t.whole.take t.lo ++ t.slice ⟨t.lo, pos⟩ := by
    rw [ScanText.slice, ← List.take_add, Nat.add_sub_cancel' hlo]
  rw [hcut, byteLength_append, Nat.add_sub_cancel_left]
  rfl

theorem matchAt?_offset (m : Matcher) (hlo : t.lo ≤ body.start)
    (hle : body.start ≤ body.stop) (hlen : body.stop ≤ t.whole.length) :
    m.matchAt? t.whole (offset t.whole t.lo)
        ⟨offset t.whole body.start, offset t.whole body.stop⟩ = some (m.report t body) := by
  simp only [matchAt?, distance?_byteOffset hlo (hle.trans hlen),
    distance?_byteOffset (hlo.trans hle) hlen, part?_offset hle hlen, bind, Option.bind, pure]
  rfl

theorem byteLength_lt_offset_iff : byteLength t.whole < offset t.whole start ↔
    t.whole.length < start := by
  rw [← offset_length, (strictMono_offset t.whole).lt_iff_lt]

/-- A step behind the end of the whole. -/
theorem searchStep_past (lo hi : Nat) (h : t.whole.length < start) :
    m.searchStep t.whole lo hi limit ⟨offset t.whole start, lastEnd, found⟩ =
      some (.ended (.ok found)) := by
  simp only [searchStep, byteLength_lt_offset_iff, if_pos h]
  rfl

/-- A step that finds nothing. -/
theorem searchStep_none (lo hi : Nat) (h : start ≤ t.whole.length)
    (hf : m.regex.find t.whole start = none) :
    m.searchStep t.whole lo hi limit ⟨offset t.whole start, lastEnd, found⟩ =
      some (.ended (.ok found)) := by
  simp only [searchStep, byteLength_lt_offset_iff, if_neg (Nat.not_lt_of_le h), hit?_offset m h, hf]
  rfl

/-- A step that finds a match without a body. -/
theorem searchStep_noBody (lo hi : Nat) (h : start ≤ t.whole.length)
    (hf : m.regex.find t.whole start = some hit) (hb : hit.caps.span? bodyGroup = none) :
    m.searchStep t.whole lo hi limit ⟨offset t.whole start, lastEnd, found⟩ =
      some (.ended (.error .noBody)) := by
  simp only [searchStep, byteLength_lt_offset_iff, if_neg (Nat.not_lt_of_le h), hit?_offset m h, hf,
    Option.map_some, hb]
  rfl

/-- **What a step at a position does with the match that it finds.**  Offsets are those of positions
again, and no cut and no difference is broken. -/
theorem searchStep_of_finds (limit : Nat) (found : List TextMatch)
    (h : Finds m t start hit body) (hlo : t.lo ≤ lastEnd) :
    m.searchStep t.whole (offset t.whole t.lo) (offset t.whole t.hi) limit
        ⟨offset t.whole start, offset t.whole lastEnd, found⟩ =
      some (
        if body.start = body.stop ∧ t.lo ≤ body.start ∧ body.start ≤ t.hi then
          .ended (.error (.emptyMatch (t.byteOffset body.start)))
        else if t.hi ≤ body.start then .ended (.ok found)
        else if lastEnd ≤ body.start ∧ lastEnd < body.stop ∧ body.stop ≤ t.hi then
          if limit < found.length + 1 then .ended (.error (.tooMany limit))
          else .goOn ⟨offset t.whole (m.resume body.stop), offset t.whole body.stop,
            found ++ [m.report t body]⟩
        else .goOn ⟨offset t.whole (hit.start + 1), offset t.whole lastEnd, found⟩) := by
  obtain ⟨-, hstart, hbody, hstop, hlen⟩ := h.within
  have hmono := strictMono_offset t.whole
  simp only [searchStep, byteLength_lt_offset_iff, if_neg (Nat.not_lt_of_le h.start_le),
    hit?_offset m h.start_le, h.find_eq, Option.map_some, h.span?_eq, hmono.le_iff_le,
    hmono.lt_iff_lt, hmono.injective.eq_iff, List.length_append, List.length_singleton, bind,
    Option.bind, pure]
  by_cases hempty : body.start = body.stop ∧ t.lo ≤ body.start ∧ body.start ≤ t.hi
  · rw [if_pos hempty, if_pos hempty, distance?_byteOffset hempty.2.1 (by omega)]
  rw [if_neg hempty, if_neg hempty]
  by_cases hhi : t.hi ≤ body.start
  · rw [if_pos hhi, if_pos hhi]
  rw [if_neg hhi, if_neg hhi]
  by_cases htake : lastEnd ≤ body.start ∧ lastEnd < body.stop ∧ body.stop ≤ t.hi
  · rw [if_neg (by omega), if_pos htake, matchAt?_offset m (by omega) (by omega) (by omega),
      resumeAt?_offset m (by omega)]
    dsimp only
    split_ifs <;> rfl
  · rw [if_pos (by omega), if_neg htake, boundaryAfter?_offset (by omega)]

end Steps

/-- **A search comes to its end with the answer of the scan,** wherever the scan is. -/
theorem searches_scanFrom (m : Matcher) (t : ScanText) (limit start : Nat)
    (found : List TextMatch) (hlo : t.lo ≤ lastEnd) (hcount : found.length = count) :
    m.Searches t.whole (Text.offset t.whole t.lo) (Text.offset t.whole t.hi) limit
      ⟨Text.offset t.whole start, Text.offset t.whole lastEnd, found⟩
      ((m.scanFrom t limit start lastEnd count).map (found ++ ·.map (m.report t))) := by
  induction start, lastEnd, count using scanFrom.induct m t limit generalizing found with
  | case1 start lastEnd count hs hf =>
      rw [scanFrom_eq, if_pos hs, hf]
      refine .ended _ _ ((searchStep_none _ _ hs hf).trans ?_)
      simp [Except.map]
  | case2 start lastEnd count hs hit hf hb =>
      rw [scanFrom_eq, if_pos hs, hf]
      simp only [hb]
      exact .ended _ _ (searchStep_noBody _ _ hs hf hb)
  | case3 start lastEnd count hs hit hf body hb hempty =>
      have hstep := searchStep_of_finds limit found ⟨hs, hf, hb⟩ hlo
      rw [scanFrom_eq, if_pos hs, hf]
      simp only [hb, if_pos hempty] at hstep ⊢
      exact .ended _ _ hstep
  | case4 start lastEnd count hs hit hf body hb hempty hhi =>
      have hstep := searchStep_of_finds limit found ⟨hs, hf, hb⟩ hlo
      rw [scanFrom_eq, if_pos hs, hf]
      simp only [hb, if_neg hempty, if_pos hhi] at hstep ⊢
      simpa [Except.map] using Searches.ended _ _ hstep
  | case5 start lastEnd count hs hit hf body hb hempty hhi hbody hlimit =>
      have hstep := searchStep_of_finds limit found ⟨hs, hf, hb⟩ hlo
      rw [hcount] at hstep
      rw [scanFrom_eq, if_pos hs, hf]
      simp only [hb, if_neg hempty, if_neg hhi, if_pos hbody, if_pos hlimit] at hstep ⊢
      exact .ended _ _ hstep
  | case6 start lastEnd count hs hit hf body hb hempty hhi hbody hlimit ih =>
      have hstep := searchStep_of_finds limit found ⟨hs, hf, hb⟩ hlo
      rw [hcount] at hstep
      rw [scanFrom_eq, if_pos hs, hf]
      simp only [hb, if_neg hempty, if_neg hhi, if_pos hbody, if_neg hlimit] at hstep ⊢
      have hmore := ih (found ++ [m.report t body]) (by omega) (by simp [hcount])
      refine .goOn _ _ _ hstep ?_
      cases hrest : m.scanFrom t limit (m.resume body.stop) body.stop (count + 1) with
      | error e =>
          rw [hrest] at hmore
          exact hmore
      | ok more =>
          rw [hrest] at hmore
          simpa [Except.map] using hmore
  | case7 start lastEnd count hs hit hf body hb hempty hhi hbody ih =>
      have hstep := searchStep_of_finds limit found ⟨hs, hf, hb⟩ hlo
      rw [scanFrom_eq, if_pos hs, hf]
      simp only [hb, if_neg hempty, if_neg hhi, if_neg hbody] at hstep ⊢
      exact .goOn _ _ _ hstep (ih found hlo hcount)
  | case8 start lastEnd count hs =>
      rw [scanFrom_eq, if_neg hs]
      refine .ended _ _ ((searchStep_past _ _ (Nat.lt_of_not_le hs)).trans ?_)
      simp [Except.map]

/-- A step that goes on has found at most one match more, and not more than the limit. -/
theorem found_of_searchStep {whole : List Char} {lo hi : Nat} {s s' : Search}
    (h : m.searchStep whole lo hi limit s = some (.goOn s')) :
    s'.found = s.found ∨ s'.found.length ≤ limit := by
  simp only [searchStep, bind, Option.bind, pure] at h
  grind

/-- A step that ends without a fault answers with what was found. -/
theorem answer_of_searchStep {whole : List Char} {lo hi : Nat} {s : Search} {found : List TextMatch}
    (h : m.searchStep whole lo hi limit s = some (.ended (.ok found))) : found = s.found := by
  simp only [searchStep, bind, Option.bind, pure] at h
  grind

/-- A search that is not given up finds no more matches than the limit. -/
theorem Searches.length_le {whole : List Char} {lo hi : Nat} {s : Search} {found : List TextMatch}
    (h : m.Searches whole lo hi limit s (.ok found)) (hs : s.found.length ≤ limit) :
    found.length ≤ limit := by
  generalize hanswer : Except.ok found = answer at h
  induction h with
  | ended s answer h =>
      subst hanswer
      rw [answer_of_searchStep h]
      exact hs
  | goOn s s' answer h hmore ih =>
      refine ih ?_ hanswer
      cases found_of_searchStep h with
      | inl hsame => rwa [hsame]
      | inr hle => exact hle

/-- A search has one answer. -/
theorem Searches.unique {whole : List Char} {lo hi : Nat} {s : Search}
    {a b : Except ScanFault (List TextMatch)} (ha : m.Searches whole lo hi limit s a)
    (hb : m.Searches whole lo hi limit s b) : a = b := by
  induction ha with
  | ended s answer h =>
      cases hb with
      | ended _ _ h' => simpa [h] using h'
      | goOn _ s' _ h' hmore => simp [h] at h'
  | goOn s s' answer h hmore ih =>
      cases hb with
      | ended _ _ h' => simp [h] at h'
      | goOn _ s'' _ h' hmore' =>
          obtain rfl : s' = s'' := by simpa [h] using h'
          exact ih hmore'

variable {before text after : String} {options : Options} {found : List TextMatch}

/-- The search in a text has the answer of the scan. -/
theorem searchEnds_scan (m : Matcher) (before text after : String) (options : Options) :
    m.SearchEnds before text after options (m.scan before text after options) := by
  let t := ScanText.between before.toList text.toList after.toList
  have hlen : t.lo ≤ t.whole.length ∧ t.hi ≤ t.whole.length := by
    simp [t, ScanText.between]
  have hlo : Text.offset t.whole t.lo = Text.byteLength before.toList := by
    simp only [t, ScanText.between, List.append_assoc, Text.offset_append]
  have hhi : Text.offset t.whole t.hi =
      Text.byteLength before.toList + Text.byteLength text.toList := by
    simp only [t, ScanText.between, ← List.length_append, Text.offset_append,
      Text.byteLength_append]
  have hrun := m.searches_scanFrom t options.maxMatches (m.resume t.lo) []
    (Nat.le_refl t.lo) rfl
  have hnext := m.resumeAt?_offset hlen.1
  rw [hlo] at hnext
  rw [hlo, hhi] at hrun
  refine ⟨_, hnext, ?_⟩
  exact hrun

/-- Offsets in the text compare as positions do. -/
theorem byteOffset_le {p q : Nat} (hlo : t.lo ≤ p) (hpq : p ≤ q) (hlen : q ≤ t.whole.length) :
    t.byteOffset p ≤ t.byteOffset q := by
  have hp := distance?_byteOffset hlo (hpq.trans hlen)
  have hq := distance?_byteOffset (hlo.trans hpq) hlen
  rw [Text.distance?_offset hlo, Option.some.injEq] at hp
  rw [Text.distance?_offset (hlo.trans hpq), Option.some.injEq] at hq
  have := (Text.strictMono_offset t.whole).monotone hpq
  omega

end Matcher

/-- Matches of a text as they should be: each is a part of the text that is not empty, each ends
before the next begins, and there are no more than the limit. -/
structure TextMatch.Proper (text : List Char) (limit : Nat) (found : List TextMatch) : Prop where
  parts : ∀ x ∈ found, x.start < x.stop ∧ ∃ left body right, x.Cuts text left body right
  inOrder : found.Pairwise fun x y => x.stop ≤ y.start
  length_le : found.length ≤ limit

namespace Matcher

/-- Parts in order are reported in order. -/
theorem pairwise_report (m : Matcher) {last : Nat} {spans : List Span}
    (h : Span.Ordered last t.hi spans) (hlo : t.lo ≤ last) (hhi : t.hi ≤ t.whole.length) :
    (spans.map (m.report t)).Pairwise fun x y => x.stop ≤ y.start := by
  induction spans generalizing last with
  | nil => exact .nil
  | cons s rest ih =>
      obtain ⟨hstart, hlt, hrest⟩ := h
      refine List.pairwise_cons.mpr ⟨?_, ih hrest (by omega)⟩
      intro y hy
      obtain ⟨s', hs', rfl⟩ := List.mem_map.mp hy
      obtain ⟨hle, hne, hstop⟩ := hrest.of_mem hs'
      exact byteOffset_le (by omega) hle (by omega)

/-- **A search ends, and what it finds is well formed.**  Whatever the matcher is, the search over
the bytes of a text between two others is never broken and comes to one end, with the answer of the
scan.  The matches of an answer are parts of the text, not empty and one after the other, and no
more than the limit. -/
theorem search_ends_proper (m : Matcher) (before text after : String) (options : Options) :
    (∀ answer, m.SearchEnds before text after options answer ↔
      answer = m.scan before text after options) ∧
    ∀ found, m.scan before text after options = .ok found →
      TextMatch.Proper text.toList options.maxMatches found := by
  have hends := m.searchEnds_scan before text after options
  refine ⟨fun answer => ⟨?_, ?_⟩, ?_⟩
  · intro h
    obtain ⟨next, hnext, hrun⟩ := h
    obtain ⟨next', hnext', hrun'⟩ := hends
    obtain rfl : next = next' := Option.some.inj (hnext.symm.trans hnext')
    exact hrun.unique hrun'
  · intro h
    rwa [h]
  · intro found hfound
    obtain ⟨spans, hspans, rfl, -⟩ := exists_spans_of_scan hfound
    have hord := ordered_of_spans hspans (Nat.le_add_right _ _)
    rw [hfound] at hends
    obtain ⟨next, -, hrun⟩ := hends
    refine ⟨?_, ?_, hrun.length_le (Nat.zero_le _)⟩
    · intro x hx
      obtain ⟨s, hs, rfl⟩ := List.mem_map.mp hx
      obtain ⟨hlo, hlt, hhi⟩ := hord.of_mem hs
      obtain ⟨left, body, right, hcuts, hspan⟩ :=
        m.isAt_report after.toList hlo (Nat.le_of_lt hlt) hhi
      refine ⟨?_, left, body, right, hcuts⟩
      have hbody : body ≠ [] := by
        rintro rfl
        simp [hspan] at hlt
      have := Text.byteLength_pos hbody
      rw [hcuts.start_eq, hcuts.stop_eq, Text.byteLength_append]
      omega
    · exact m.pairwise_report hord (Nat.le_refl _) (by simp [ScanText.between])

/-- A matcher made by hand, over characters of two bytes: its first match begins in the text
before. -/
theorem search_ends_proper_context :
    let m : Matcher := ⟨.literal "é" "X", "", Regex.seqs (beforeRegex true ++
      [.group bodyGroup (.set (.char 'é'))]), true⟩
    let found : List TextMatch := [⟨4, 6, "é", "X", "é"⟩]
    m.scan "é" "éa é" "" .default = .ok found ∧
      m.SearchEnds "é" "éa é" "" .default (.ok found) ∧
      TextMatch.Proper "éa é".toList 10000 found := by
  intro m found
  have hscan : m.scan "é" "éa é" "" .default = .ok found := by decide +kernel
  obtain ⟨hends, hproper⟩ := search_ends_proper m "é" "éa é" "" .default
  exact ⟨hscan, (hends _).mpr hscan.symm, hproper found hscan⟩

end Matcher

end TextMasking
