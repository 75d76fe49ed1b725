import TextMasking.Yaml.Cursor

/-!
# Reading scalars

A scalar without quotes ends before a colon or a comment, a quoted one at its quote. Both may run
over several lines, which are folded: a line feed stands for a blank, and of several line feeds all
but one are kept. A block scalar is the indented lines after its mark.
-/

namespace TextMasking.Yaml

/-! ### Folding -/

/-- What was read since the last character of the text: blanks within a line, or line feeds. The
first line feed is folded unless it was escaped. -/
inductive Pending where
  | blanks (cs : List Char)
  | breaks (escaped : Bool) (more : Nat)

namespace Pending

def none : Pending := blanks []

def isNone : Pending → Bool
  | blanks [] => true
  | _ => false

def hasBreak : Pending → Bool
  | blanks _ => false
  | breaks .. => true

/-- Adds a blank; blanks at the start of a line do not count. -/
def blank (c : Char) : Pending → Pending
  | blanks cs => blanks (cs ++ [c])
  | p => p

/-- Adds a line feed; blanks at the end of a line do not count. -/
def lineFeed : Pending → Pending
  | blanks _ => breaks false 0
  | breaks escaped n => breaks escaped (n + 1)

/-- What it stands for in the text. -/
def text : Pending → List Char
  | blanks cs => cs
  | breaks false 0 => [' ']
  | breaks _ n => List.replicate n '\n'

end Pending

/-! ### Scalars without quotes -/

/-- Whether a scalar without quotes ends before these characters. -/
def plainEnds (inBrackets : Bool) (p : Pending) : List Char → Bool
  | [] => true
  | '#' :: _ => !p.isNone
  | ':' :: rest => startsBlank rest
  | c :: _ => inBrackets && isBracketMark c

/-- The text of a scalar without quotes and what follows it. Its lines after the first begin at
column `indent` at least. -/
def plainFrom (inBrackets : Bool) (indent column : Nat) (p : Pending) :
    List Char → List Char × Cursor
  | [] => ([], ⟨[], column⟩)
  | c :: rest =>
    if c = '\n' then plainFrom inBrackets indent 0 p.lineFeed rest
    else if isBlank c then plainFrom inBrackets indent (column + 1) (p.blank c) rest
    else if plainEnds inBrackets p (c :: rest) || (p.hasBreak && column < indent) then
      ([], ⟨c :: rest, column⟩)
    else
      let (text, after) := plainFrom inBrackets indent (column + 1) .none rest
      (p.text ++ c :: text, after)

/-- The characters that begin something else than a scalar without quotes. -/
def indicators : List Char :=
  [',', '[', ']', '\x7b', '\x7d', '#', '&', '*', '!', '|', '>', '\'', '"', '%', '@', '\x60']

/-- Whether a scalar without quotes begins with these characters. -/
def startsPlain (inBrackets : Bool) : List Char → Bool
  | [] => false
  | '-' :: rest => !startsBlank rest
  | '?' :: rest => !inBrackets && !startsBlank rest
  | ':' :: rest => !inBrackets && !startsBlank rest
  | c :: _ => !indicators.contains c

/-- Reads a scalar without quotes. Within brackets its last character is no colon. -/
def plain? (inBrackets : Bool) (indent : Nat) (c : Cursor) : Option (String × Cursor) :=
  let (text, after) := plainFrom inBrackets indent c.column .none c.rest
  if startsPlain inBrackets c.rest && !(inBrackets && text.getLast? = some ':') then
    some (String.ofList text, after)
  else none

/-! ### Quoted scalars -/

/-- The value of a hexadecimal digit. -/
def hexValue? (c : Char) : Option Nat :=
  if c.isDigit then some (c.toNat - '0'.toNat)
  else if 'a' ≤ c ∧ c ≤ 'f' then some (c.toNat - 'a'.toNat + 10)
  else if 'A' ≤ c ∧ c ≤ 'F' then some (c.toNat - 'A'.toNat + 10)
  else none

/-- The character with a code of `n` hexadecimal digits. -/
def coded? (n : Nat) (cs : List Char) : Option Char := do
  let digits ← (cs.take n).mapM hexValue?
  let code := digits.foldl (fun v d => 16 * v + d) 0
  if digits.length = n ∧ code.isValidChar then some (Char.ofNat code) else none

/-- The character that a letter after a backslash stands for. -/
def escaped? : Char → Option Char
  | '0' => some '\x00'
  | 'a' => some '\x07'
  | 'b' => some '\x08'
  | 't' => some '\t'
  | '\t' => some '\t'
  | 'n' => some '\n'
  | 'v' => some '\x0b'
  | 'f' => some '\x0c'
  | 'r' => some '\r'
  | 'e' => some '\x1b'
  | 'N' => some '\u0085'
  | '_' => some '\u00a0'
  | 'L' => some '\u2028'
  | 'P' => some '\u2029'
  | c => if [' ', '"', '/', '\\'].contains c then some c else none

/-- The character that the characters after a backslash stand for, and their number. -/
def escape? : List Char → Option (Char × Nat)
  | [] => none
  | 'x' :: rest => (coded? 2 rest).map (·, 3)
  | 'u' :: rest => (coded? 4 rest).map (·, 5)
  | 'U' :: rest => (coded? 8 rest).map (·, 9)
  | c :: _ => (escaped? c).map (·, 1)

/-- The text up to a quote and what follows the quote. In single quotes a quote is written twice, in
double quotes it is escaped. -/
def quotedFrom (quote : Char) (column : Nat) (p : Pending) (input : List Char) :
    Option (List Char × Cursor) :=
  match input with
  | [] => none
  | c :: rest =>
    if c = '\n' then quotedFrom quote 0 p.lineFeed rest
    else if isBlank c then quotedFrom quote (column + 1) (p.blank c) rest
    else if c = quote then
      if quote = '\'' ∧ rest.head? = some quote then do
        let (text, after) ← quotedFrom quote (column + 2) .none (rest.drop 1)
        some (p.text ++ quote :: text, after)
      else some (p.text, ⟨rest, column + 1⟩)
    else if quote = '"' ∧ c = '\\' then
      if rest.head? = some '\n' then do
        let (text, after) ← quotedFrom quote 0 (.breaks true 0) (rest.drop 1)
        some (p.text ++ text, after)
      else
        match escape? rest with
        | none => none
        | some (x, n) => do
          let (text, after) ← quotedFrom quote (column + 1 + n) .none (rest.drop n)
          some (p.text ++ x :: text, after)
    else do
      let (text, after) ← quotedFrom quote (column + 1) .none rest
      some (p.text ++ c :: text, after)
termination_by input.length
decreasing_by all_goals simp_wf; try omega

/-- Reads a scalar in quotes. -/
def quoted? (c : Cursor) : Option (String × Cursor) :=
  match c.rest with
  | [] => none
  | quote :: rest =>
    if quote = '"' ∨ quote = '\'' then
      (quotedFrom quote (c.column + 1) .none rest).map fun (text, after) =>
        (String.ofList text, after)
    else none

/-! ### Block scalars -/

/-- What is done with the line feeds at the end of a block scalar: all are removed, one is kept, or
all. -/
inductive Chomping where
  | strip
  | clip
  | keep

/-- Reads the signs after the mark of a block scalar: how it ends and how far it is indented. -/
def blockSigns (chomping : Chomping) (indent : Option Nat) :
    List Char → Chomping × Option Nat × List Char
  | '-' :: rest => blockSigns .strip indent rest
  | '+' :: rest => blockSigns .keep indent rest
  | c :: rest =>
    if '1' ≤ c ∧ c ≤ '9' ∧ indent = none then blockSigns chomping (some (c.toNat - '0'.toNat)) rest
    else (chomping, indent, c :: rest)
  | [] => (chomping, indent, [])

/-- The lines of a text. -/
def splitLines : List Char → List (List Char)
  | [] => [[]]
  | c :: rest =>
    match splitLines rest with
    | [] => [[c]]
    | line :: lines => if c = '\n' then [] :: line :: lines else (c :: line) :: lines

/-- The lines as one text. -/
def joinLines (lines : List (List Char)) : List Char :=
  ['\n'].intercalate lines

/-- The number of blanks before a line. -/
def indentation (line : List Char) : Nat := (line.takeWhile (· = ' ')).length

/-- Whether a line has only blanks. -/
def isEmptyLine (line : List Char) : Bool := line.all (· = ' ')

/-- The indentation of the lines of a block scalar, `least` at least. -/
def blockIndentation (least : Nat) (lines : List (List Char)) : Nat :=
  let empty := lines.takeWhile isEmptyLine
  let first := (lines.dropWhile isEmptyLine).head?.toList
  ((empty ++ first).map indentation).foldl max least

/-- The lines of a folded block scalar as one text; lines that begin with a blank are not folded. -/
def foldLines : List (List Char) → List Char
  | [] => []
  | [line] => line
  | line :: next :: rest =>
    let isOpen := fun (l : List Char) => (l.head?.map isBlank).getD false
    if line.isEmpty || isOpen line || isOpen next then line ++ '\n' :: foldLines (next :: rest)
    else if next.isEmpty then line ++ foldLines (next :: rest)
    else line ++ ' ' :: foldLines (next :: rest)

/-- Reads a block scalar whose lines are indented by `least` at least. -/
def block? (least : Nat) (c : Cursor) : Option (String × Cursor) :=
  match c.rest with
  | [] => none
  | mark :: rest =>
    let (chomping, explicit, rest) := blockSigns .clip none rest
    if (mark ≠ '|' ∧ mark ≠ '>') ∨ !(Cursor.mk rest 0).lineIsOver then none
    else
      let lines := splitLines ((rest.dropWhile (· ≠ '\n')).drop 1)
      let n :=
        match explicit with
        | some d => least - 1 + d
        | none => blockIndentation (max least 1) lines
      let belongs := fun (l : List Char) => isEmptyLine l || n ≤ indentation l
      let body := (lines.takeWhile belongs).map (·.drop n)
      let content := (body.reverse.dropWhile List.isEmpty).reverse
      let text := if mark = '|' then joinLines content else foldLines content
      let feeds := List.replicate (body.length - content.length) '\n'
      let ending :=
        match chomping with
        | .strip => []
        | .clip => if content.isEmpty then [] else feeds.take 1
        | .keep => feeds
      some (String.ofList (text ++ ending), ⟨joinLines (lines.dropWhile belongs), 0⟩)

end TextMasking.Yaml
