import TextMasking.Matching.Matcher
import TextMasking.Text.Bytes

/-!
# Scanning a text

A matcher is run over a text from left to right, again and again from where the last match ended.
The text is read together with what stands before and after it in the document, but only matches
inside the text are reported. Where the expression may read a character before the match, the search
goes on one character earlier, since the character before may be the last of the match before; a
match that begins inside that one is passed over.

Inside this module positions count characters; the matches that are reported count bytes.
-/

namespace TextMasking

/-- Why a matcher was given up. -/
inductive ScanFault where
  | noBody
  | emptyMatch (byte : Nat)
  | tooMany (limit : Nat)
  deriving DecidableEq, Repr

namespace ScanFault

def reason : ScanFault → String
  | .noBody => "match without a " ++ "`" ++ bodyGroup ++ "`" ++ " group"
  | .emptyMatch byte => s!"empty match at byte {byte}"
  | .tooMany limit => s!"more than {limit} matches in a single text unit"

/-- The text of a fault of the rule with this pattern. -/
def message (pattern : String) (fault : ScanFault) : String :=
  s!"Rule '{pattern}' faulted while scanning: {fault.reason}"

end ScanFault

/-- How a pass treats texts. -/
structure Options where
  /-- A rule with more matches than this in one text is given up. -/
  maxMatches : Nat
  /-- Texts of white space only are left alone. -/
  skipBlank : Bool
  deriving DecidableEq, Repr

def Options.default : Options := ⟨10000, true⟩

/-- A match in a text: its byte offsets, the text matched, the placeholder and the pattern. -/
structure TextMatch where
  start : Nat
  stop : Nat
  matched : String
  replacement : String
  pattern : String
  deriving DecidableEq, Repr

/-- A text to be scanned, as the part of a whole from `lo` to `hi`. -/
structure ScanText where
  whole : List Char
  lo : Nat
  hi : Nat

namespace ScanText

/-- The text between two others. -/
def between (before text after : List Char) : ScanText :=
  ⟨before ++ text ++ after, before.length, before.length + text.length⟩

/-- The characters of a part of the whole. -/
def slice (t : ScanText) (s : Span) : List Char :=
  (t.whole.drop s.start).take (s.stop - s.start)

/-- The byte offset in the text of a position in the whole. -/
def byteOffset (t : ScanText) (pos : Nat) : Nat :=
  Text.byteLength (t.slice ⟨t.lo, pos⟩)

end ScanText

namespace Matcher

/-- Where the search goes on after `pos`. -/
def resume (m : Matcher) (pos : Nat) : Nat :=
  if m.readsBefore then pos - 1 else pos

/-- The matches from `start` on that begin at `lastEnd` or later; `count` were found before. -/
def scanFrom (m : Matcher) (t : ScanText) (limit : Nat) (start lastEnd count : Nat) :
    Except ScanFault (List Span) :=
  if _hstart : start ≤ t.whole.length then
    match _hfind : m.regex.find t.whole start with
    | none => .ok []
    | some whole =>
      match whole.caps.span? bodyGroup with
      | none => .error .noBody
      | some body =>
        if body.start = body.stop ∧ t.lo ≤ body.start ∧ body.start ≤ t.hi then
          .error (.emptyMatch (t.byteOffset body.start))
        else if t.hi ≤ body.start then .ok []
        else if hbody : lastEnd ≤ body.start ∧ lastEnd < body.stop ∧ body.stop ≤ t.hi then
          if limit < count + 1 then .error (.tooMany limit)
          else (scanFrom m t limit (m.resume body.stop) body.stop (count + 1)).map (body :: ·)
        else scanFrom m t limit (whole.start + 1) lastEnd count
  else .ok []
termination_by (t.hi - lastEnd) * (t.whole.length + 2) + (t.whole.length + 1 - start)
decreasing_by
  · have := Nat.mul_le_mul_right (t.whole.length + 2)
      (show t.hi - body.stop + 1 ≤ t.hi - lastEnd by omega)
    rw [Nat.add_mul] at this
    omega
  · have := Regex.le_start_of_find _hfind
    omega

/-- The parts of the whole that the matcher masks in the text. -/
def spans (m : Matcher) (t : ScanText) (limit : Nat) : Except ScanFault (List Span) :=
  m.scanFrom t limit (m.resume t.lo) t.lo 0

/-- The matches in a text between two others. -/
def scan (m : Matcher) (before text after : String) (options : Options) :
    Except ScanFault (List TextMatch) :=
  let t := ScanText.between before.toList text.toList after.toList
  (m.spans t options.maxMatches).map fun found => found.map fun s =>
    { start := t.byteOffset s.start
      stop := t.byteOffset s.stop
      matched := String.ofList (t.slice s)
      replacement := m.rule.replacement
      pattern := m.rule.pattern }

end Matcher

end TextMasking
