import TextMasking.Text.Split
import TextMasking.Text.Width

/-!
# Tables

A table has a header and rows of cells. Each column is as wide as its widest line, and has a blank
on both sides. A cell of several lines makes its row as high. Rows are divided by dotted lines.
-/

namespace TextMasking

/-- A table; every row has as many cells as the header. -/
structure Table where
  header : List String
  rows : List (List String)

namespace Table

/-- The characters of a line between rows. -/
structure Rule where
  left : String
  line : String
  cross : String
  right : String

def top : Rule := ⟨"┌", "─", "┬", "┐"⟩

def belowHeader : Rule := ⟨"╞", "═", "╪", "╡"⟩

def betweenRows : Rule := ⟨"├", "╌", "┼", "┤"⟩

def bottom : Rule := ⟨"└", "─", "┴", "┘"⟩

/-- The text `n` times. -/
def times (n : Nat) (s : String) : String :=
  String.join (List.replicate n s)

/-- A line between rows for columns of these widths. -/
def Rule.render (r : Rule) (widths : List Nat) : String :=
  r.left ++ r.cross.intercalate (widths.map fun w => times (w + 2) r.line) ++ r.right

/-- The lines of a cell. -/
def cellLines (cell : String) : List String :=
  Text.split '\n' cell

/-- The width of a cell. -/
def cellWidth (cell : String) : Nat :=
  ((cellLines cell).map Text.width).foldl max 0

/-- The widths of the columns. -/
def widths (t : Table) : List Nat :=
  t.rows.foldl (fun ws row => ws.zipWith max (row.map cellWidth)) (t.header.map cellWidth)

/-- A line of a cell with blanks up to the width of its column. -/
def pad (width : Nat) (line : String) : String :=
  " " ++ line ++ times (width - Text.width line) " " ++ " "

/-- One of the lines of a row. -/
def rowLine (widths : List Nat) (row : List String) (n : Nat) : String :=
  let cells := (widths.zip row).map fun (w, cell) => pad w ((cellLines cell)[n]?.getD "")
  "│" ++ "┆".intercalate cells ++ "│"

/-- The lines of a row. -/
def rowLines (widths : List Nat) (row : List String) : List String :=
  let height := (row.map fun cell => (cellLines cell).length).foldl max 0
  (List.range height).map (rowLine widths row)

/-- The lines of rows with lines between them. -/
def bodyLines (widths : List Nat) : List (List String) → List String
  | [] => []
  | [row] => rowLines widths row
  | row :: rest => rowLines widths row ++ betweenRows.render widths :: bodyLines widths rest

/-- The table as text, without a line feed at the end. -/
def render (t : Table) : String :=
  let ws := t.widths
  "\n".intercalate ([top.render ws] ++ rowLines ws t.header ++ [belowHeader.render ws]
    ++ bodyLines ws t.rows ++ [bottom.render ws])

end Table

end TextMasking
