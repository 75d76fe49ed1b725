/-!
# Places in a YAML text

Where a value ends is often told by the column of what comes next, so the place of a reader in a
text carries the column.
-/

namespace TextMasking.Yaml

/-- A place in a text: the characters from there on, and the column. -/
structure Cursor where
  rest : List Char
  column : Nat

/-- Whether a character is a blank within a line. -/
def isBlank (c : Char) : Bool := c = ' ' || c = '\t'

/-- Whether the characters begin with a blank or a line feed, or are none. -/
def startsBlank : List Char → Bool
  | [] => true
  | c :: _ => isBlank c || c = '\n'

/-- Whether a character ends a scalar without quotes within brackets. -/
def isBracketMark (c : Char) : Bool := [',', '[', ']', '\x7b', '\x7d'].contains c

/-- The content at or after a place. Comments are no content; tabs may come before content if `tabs`
is set, and at the start of a line only within brackets. -/
def contentFrom (inBrackets tabs inComment : Bool) (column : Nat) : List Char → Option Cursor
  | [] => some ⟨[], column⟩
  | c :: rest =>
    if c = '\n' then contentFrom inBrackets inBrackets false 0 rest
    else if inComment then contentFrom inBrackets tabs true (column + 1) rest
    else if c = '#' then contentFrom inBrackets tabs true (column + 1) rest
    else if c = ' ' || (tabs && c = '\t') then contentFrom inBrackets tabs false (column + 1) rest
    else if c = '\t' then none
    else some ⟨c :: rest, column⟩

namespace Cursor

/-- The place `n` characters on in the same line. -/
def advance (c : Cursor) (n : Nat) : Cursor := ⟨c.rest.drop n, c.column + n⟩

/-- The content at or after the place, outside brackets. -/
def content (c : Cursor) (tabs : Bool) : Option Cursor :=
  contentFrom false tabs false c.column c.rest

/-- The content at or after the place, within brackets. -/
def bracketContent (c : Cursor) : Option Cursor :=
  contentFrom true true false c.column c.rest

/-- Whether the rest of the line has no content. -/
def lineIsOver (c : Cursor) : Bool :=
  match c.rest.dropWhile isBlank with
  | [] => true
  | x :: _ => x = '\n' || x = '#'

/-- Whether the place is at a dash before an item. -/
def atDash (c : Cursor) : Bool :=
  match c.rest with
  | '-' :: rest => startsBlank rest
  | _ => false

end Cursor

end TextMasking.Yaml
