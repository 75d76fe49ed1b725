import TextMasking.Document.Basic
import TextMasking.Text.Lines

/-!
# Plain text as a document

A plain text is a sequence of blocks: paragraphs of lines, blank lines, and fenced blocks from one
fence line through the next one or the end of the text. Paragraphs become elements, blank lines stay
texts beside them, and fenced blocks go into excluded elements. No character is lost.
-/

namespace TextMasking

/-- A block of a plain text. -/
inductive Block where
  | paragraph (content : String)
  | blank (content : String)
  | code (content : String)
  deriving DecidableEq, Repr

namespace Block

/-- The characters of the block. -/
def content : Block → String
  | .paragraph s => s
  | .blank s => s
  | .code s => s

/-- The paragraph of lines that came one after the other, if there were any. -/
def closeParagraph (lines : String) : List Block :=
  if lines.isEmpty then [] else [.paragraph lines]

/-- The blocks of lines. Outside of a fenced block `paragraph` holds the lines of the paragraph so
far; inside, `code` holds the lines of the block so far. -/
def ofLines (paragraph : String) (code : Option String) : List (List Char) → List Block
  | [] => closeParagraph paragraph ++ (code.map Block.code).toList
  | chars :: rest =>
    let line := String.ofList chars
    match code with
    | some block =>
      if Text.isFence chars then .code (block ++ line) :: ofLines paragraph none rest
      else ofLines paragraph (some (block ++ line)) rest
    | none =>
      if Text.isFence chars then closeParagraph paragraph ++ ofLines "" (some line) rest
      else if chars.all Unicode.isBlank then
        closeParagraph paragraph ++ .blank line :: ofLines "" none rest
      else ofLines (paragraph ++ line) none rest

/-- The blocks of a text. -/
def ofText (s : String) : List Block :=
  ofLines "" none (Text.lines s.toList)

/-- The nodes of a block, numbered from `next` on, with the number after them. -/
def toForest (next : NodeId) : Block → Forest × NodeId
  | .paragraph s => (.element next "p" [] (.text (next + 1) s .nil) .nil, next + 2)
  | .blank s => (.text next s .nil, next + 1)
  | .code s =>
    (.element next "pre" [] (.element (next + 1) "code" [] (.text (next + 2) s .nil) .nil) .nil,
      next + 3)

/-- The nodes of blocks, numbered from `next` on, with the number after them. -/
def forestOf (next : NodeId) : List Block → Forest × NodeId
  | [] => (.nil, next)
  | b :: rest =>
    let (f, next) := b.toForest next
    let (g, next) := forestOf next rest
    (f ++ g, next)

end Block

namespace Document

/-- The document of a plain text. -/
def ofPlainText (s : String) : Document :=
  let (f, fresh) := Block.forestOf (root + 1) (Block.ofText s)
  ⟨[.element root "body" [] f .nil], fresh, []⟩

end Document

end TextMasking
