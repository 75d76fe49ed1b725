import TextMasking.Document.Mask
import TextMasking.Matching.Scan

/-!
# Fragments of a text

The matches in a text cut it into fragments: a mask for each match, and the text between them, if
there is any.
-/

namespace TextMasking

namespace TextMatch

/-- The mask that stands for a match. -/
def mask (m : TextMatch) : Mask := ⟨m.matched, m.replacement⟩

/-- The number of bytes of the match. -/
def size (m : TextMatch) : Nat := m.stop - m.start

/-- Whether the match holds no byte. -/
def isEmpty (m : TextMatch) : Bool := m.start == m.stop

end TextMatch

namespace Fragment

/-- The text from one byte offset to another as a fragment, if there is any. -/
def gap (text : List Char) (start stop : Nat) : List Fragment :=
  if start < stop then [.text (String.ofList (Text.sliceBytes start stop text))] else []

/-- The fragments of a text from the byte offset `last` on. -/
def ofMatchesFrom (text : List Char) (last : Nat) : List TextMatch → List Fragment
  | [] => gap text last (Text.byteLength text)
  | m :: rest => gap text last m.start ++ .mask m.mask :: ofMatchesFrom text m.stop rest

/-- The fragments of a text with its matches as masks. -/
def ofMatches (text : String) (found : List TextMatch) : List Fragment :=
  ofMatchesFrom text.toList 0 found

end Fragment

end TextMasking
