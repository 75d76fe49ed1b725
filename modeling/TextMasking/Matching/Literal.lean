import TextMasking.Matching.Number
import TextMasking.Regex.Escape

/-!
# Literal patterns

A literal pattern is a sequence of characters and numbers. It has a text, in which punctuation is
escaped, and an expression, which accepts every way to write its numbers.
-/

namespace TextMasking

/-- One piece of a literal pattern. -/
inductive Piece where
  | char (c : Char)
  | number (n : Number)
  deriving DecidableEq, Repr

namespace Piece

/-- The pieces of a pattern: each digit begins a number that is read as far as it goes. -/
def ofPattern : List Char → List Piece
  | [] => []
  | c :: rest =>
    if c.isDigit then
      let (n, length) := Number.read (c :: rest)
      .number n :: ofPattern (rest.drop (length - 1))
    else .char c :: ofPattern rest
termination_by cs => cs.length
decreasing_by
  · simp only [List.length_drop, List.length_cons]; omega
  · simp

/-- The piece as it is written in an expression. -/
def source : Piece → String
  | .char c => if Regex.isMeta c then "\\" ++ String.singleton c else String.singleton c
  | .number n => n.source

/-- The expression of a piece; letter case is ignored if `fold`. -/
def regex (fold : Bool) : Piece → Regex
  | .char c => .char fold c
  | .number n => n.regex

/-- Whether the last piece is a number. -/
def endsInNumber (pieces : List Piece) : Bool :=
  match pieces.getLast? with
  | some (.number _) => true
  | _ => false

end Piece

end TextMasking
