import TextMasking.Unicode.Case
import TextMasking.Unicode.Property

/-!
# Sets of characters

The sets that a pattern can ask a character to be in. A set is kept as it was put together; `holds`
decides membership by recursion on it, so a set is small however many characters it has.
-/

namespace TextMasking

open Unicode

/-- A set of characters. -/
inductive CharSet where
  | none
  | char (c : Char)
  | range (first last : Char)
  | property (p : Property)
  | word
  | union (a b : CharSet)
  | inter (a b : CharSet)
  | diff (a b : CharSet)
  | complement (a : CharSet)
  /-- The characters that differ from one of `a` in case at most. -/
  | folded (a : CharSet)
  /-- The same, for ASCII letters only. -/
  | foldedAscii (a : CharSet)
  deriving DecidableEq

namespace CharSet

/-- An ASCII letter in the other case, any other character as it is. -/
def swapCase (c : Char) : Char :=
  if c.isUpper then c.toLower else c.toUpper

/-- Whether `c` is in the set. -/
def holds : CharSet → Char → Bool
  | .none, _ => false
  | .char d, c => c == d
  | .range first last, c => first ≤ c && c ≤ last
  | .property p, c => p.holds c
  | .word, c => isWord c
  | .union a b, c => a.holds c || b.holds c
  | .inter a b, c => a.holds c && b.holds c
  | .diff a b, c => a.holds c && !b.holds c
  | .complement a, c => !a.holds c
  | .folded a, c => a.holds c || (caseVariants c).any fun d => a.holds d
  | .foldedAscii a, c => a.holds c || a.holds (swapCase c)

/-- The set of the characters listed. -/
def ofList (cs : List Char) : CharSet :=
  cs.foldr (fun c s => .union (.char c) s) .none

/-- The set of the characters in the ranges listed. -/
def ofRanges (rs : List (Char × Char)) : CharSet :=
  rs.foldr (fun r s => .union (.range r.1 r.2) s) .none

/-- Decimal digits of any script. -/
def digit : CharSet := .property (.categories [.nd])

/-- White space. -/
def blank : CharSet := .property .blank

/-- The ASCII digits. -/
def asciiDigit : CharSet := .range '0' '9'

/-- ASCII letters, digits and the underscore. -/
def asciiWord : CharSet :=
  ofRanges [('A', 'Z'), ('a', 'z'), ('0', '9'), ('_', '_')]

@[simp] theorem holds_char {c d : Char} : (char d).holds c = (c == d) := rfl

@[simp] theorem holds_union {a b : CharSet} {c : Char} :
    (union a b).holds c = (a.holds c || b.holds c) := rfl

@[simp] theorem holds_complement {a : CharSet} {c : Char} : (complement a).holds c = !a.holds c :=
  rfl

theorem holds_ofList {cs : List Char} {c : Char} : (ofList cs).holds c = cs.contains c := by
  induction cs with
  | nil => rfl
  | cons d cs ih => simp only [ofList, List.foldr_cons, holds, List.contains_cons] at ih ⊢; rw [ih]

/-- A character is among its own case variants. -/
theorem holds_folded_char (c : Char) : (folded (char c)).holds c = true := by
  simp [holds]

end CharSet

end TextMasking
