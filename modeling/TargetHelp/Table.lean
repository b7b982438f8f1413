import TargetHelp.Sink
import TargetHelp.Text.Blank
import TargetHelp.Text.Fold

/-!
# Tables of coloured cells

A table is a list of rows, and a row a list of cells that may hold several
lines of text each. A row is printed as as many lines as its tallest cell has;
a cell that runs out of lines goes on empty and without colour, and a row that
has too few cells is moved to the right by empty ones.

Columns are as wide as the widest text in them, so nothing can be printed
before every row is known. The colour of a cell is wrapped around the whole
field, its filling included, and never counts for the width.

No column is wider than a 16-bit number can say. A text that is wider is folded
onto more lines, on which the cells beside it go on as bare filling
(`Table.foldLine`); a line without such a text stays as it is
(`Table.foldLine_of_le`).
-/

namespace TargetHelp

/-- The colours of a cell. -/
inductive Color where
  /-- the terminal's own colour -/
  | plain
  /-- green -/
  | green
  /-- light blue -/
  | blue
  deriving DecidableEq, Repr

/-- A cell of a table. -/
structure Cell where
  /-- the colour of every line of the cell -/
  color : Color
  /-- the text, of one or more lines -/
  text : Text
  deriving DecidableEq, Repr

/-- The cells of a row, from the left. -/
abbrev Row := List Cell

/-- An empty cell without colour. -/
def Cell.empty : Cell := ⟨.plain, []⟩

/-- The `k`-th line of a cell as a cell of its own, empty if the cell has
fewer lines. -/
def Cell.piece (cell : Cell) (k : Nat) : Cell :=
  match (Text.lines cell.text)[k]? with
  | some line => { cell with text := line }
  | none => .empty

namespace Row

/-- The number of printed lines that a row takes. A row without cells takes
one. -/
def height (row : Row) : Nat := (row.map fun cell => (Text.lines cell.text).length).foldl max 1

/-- The printed lines of a row, moved right to fill at least `columns`
columns. -/
def lines (columns : Nat) (row : Row) : List (List Cell) :=
  (List.range (height row)).map fun k =>
    List.replicate (columns - row.length) Cell.empty ++ row.map (·.piece k)

end Row

/-! ## Colours on a terminal -/

/-- What a terminal is sent to change colours. -/
structure Palette where
  /-- switches to green -/
  green : Text
  /-- switches to light blue -/
  blue : Text
  /-- switches back -/
  reset : Text
  deriving DecidableEq, Repr

namespace Palette

/-- A control sequence that sets how characters look. -/
def control (codes : String) : Text := '\x1b' :: '[' :: codes.toList ++ ['m']

/-- Colours 2 and 12 of the terminal's palette. -/
def colored : Palette := ⟨control "38;5;2", control "38;5;12", control "39"⟩

/-- The control sequences without their colours, for those who want none. -/
def colorless : Palette := ⟨control "", control "", control ""⟩

/-- A text in a colour. -/
def paint (p : Palette) : Color → Text → Text
  | .plain, t => t
  | .green, t => p.green ++ t ++ p.reset
  | .blue, t => p.blue ++ t ++ p.reset

end Palette

/-! ## Layout -/

namespace Table

/-- The number of spaces between two columns. -/
def gap : Nat := 4

/-- The number of columns of the terminal that a column may take. -/
def limit : Nat := 65535

/-- The number of columns of these lines. -/
def columnCount (lines : List (List Cell)) : Nat := (lines.map List.length).foldl max 0

/-- The width of column `j`: that of its widest text, but at least one and not
beyond the limit. -/
def columnWidth (lines : List (List Cell)) (j : Nat) : Nat :=
  min limit ((lines.map fun line => width (line.getD j .empty).text).foldl max 1)

/-- The width of every column, from the left. -/
def columnWidths (lines : List (List Cell)) : List Nat :=
  (List.range (columnCount lines)).map (columnWidth lines)

/-- The pieces of a cell whose text is not wider than the limit. -/
def foldCell (cell : Cell) : List Cell :=
  if width cell.text ≤ limit then [cell]
  else (Text.fold limit cell.text).map fun line => { cell with text := line }

/-- The lines that a line of a table with this many columns is folded into. A
cell that has no more pieces is missing, and so are the cells that the line
lacks on the right, which take a line like any other. -/
def foldLine (columns : Nat) (line : List Cell) : List (List (Option Cell)) :=
  let pieces := line.map foldCell
  let height := (pieces.map List.length).foldl max (if line.length < columns then 1 else 0)
  (List.range height).map fun k => pieces.map (·[k]?)

/-- A cell filled with spaces to the width of its column, and `space` more. A
cell that is missing takes no more columns than a column may. -/
def field (palette : Palette) (w space : Nat) : Option Cell → Text
  | some cell =>
    palette.paint cell.color
      (cell.text ++ List.replicate (w - width cell.text) ' ' ++ List.replicate space ' ')
  | none => List.replicate (min limit (w + space)) ' '

/-- The fields of a line, one for every column. Cells that the line lacks on
the right are missing; the last column is not followed by a gap. -/
def fields (palette : Palette) : List Nat → List (Option Cell) → Text
  | [], _ => []
  | [w], line => field palette w 0 (line.headD none)
  | w :: ws, line => field palette w gap (line.headD none) ++ fields palette ws line.tail

/-- The lines as they are printed under these column widths, without blanks at
their ends. -/
def print (palette : Palette) (widths : List Nat) (lines : List (List Cell)) : List Text :=
  (lines.flatMap (foldLine widths.length)).map fun line =>
    Text.trimEnd (fields palette widths line)

/-- What is printed for the lines of a table. Without columns, that is nothing. -/
def layOut (palette : Palette) (lines : List (List Cell)) : List Text :=
  match columnWidths lines with
  | [] => []
  | widths => print palette widths lines

/-- A line without a text beyond the limit is not folded. -/
theorem foldLine_of_le {columns : Nat} {line : List Cell} (hne : line.length < columns ∨ line ≠ [])
    (h : ∀ cell ∈ line, width cell.text ≤ limit) :
    foldLine columns line = [line.map some] := by
  have hpieces : line.map foldCell = line.map fun cell => [cell] :=
    List.map_congr_left fun cell hcell => if_pos (h cell hcell)
  have hone : ∀ ls : List Cell,
      ((ls.map fun cell => [cell]).map List.length).foldl max 1 = 1 := by
    intro ls
    induction ls with
    | nil => rfl
    | cons cell ls ih => exact ih
  have hheight : ((line.map fun cell => [cell]).map List.length).foldl max
      (if line.length < columns then 1 else 0) = 1 := by
    split
    · exact hone line
    · next hcolumns =>
      obtain ⟨cell, rest, rfl⟩ := List.exists_cons_of_ne_nil (hne.resolve_left hcolumns)
      exact hone rest
  simp only [foldLine, hpieces, hheight]
  exact congrArg ([·]) List.map_map

/-- The printed lines of these rows, in at least `columns` columns. -/
def lines (columns : Nat) (rows : List Row) : List (List Cell) := rows.flatMap (Row.lines columns)

/-- The table of these rows, in at least `columns` columns. A table without
columns prints nothing, whatever rows it has. -/
def render (palette : Palette) (columns : Nat) (rows : List Row) : Text :=
  (layOut palette (lines columns rows)).flatMap (· ++ ['\n'])

/-- Writes the lines of a table to a sink. Without any, nothing is laid out. -/
def writeBody (palette : Palette) (sink : Sink) (lines : List (List Cell)) : Except Fault Text :=
  if 0 < lines.length then sink.writeLines (layOut palette lines) else .ok []

/-- Writes the table of these rows to a sink, and asks for it to be passed on, even
if there was nothing to write. -/
def write (palette : Palette) (sink : Sink) (columns : Nat) (rows : List Row) :
    Except Fault Text := do
  let written ← writeBody palette sink (lines columns rows)
  sink.flush
  return written

/-! ## Building a table cell by cell -/

/-- One step of building a table. -/
inductive Step where
  /-- adds a cell to the row under way -/
  | cell (c : Cell)
  /-- ends the row under way -/
  | endRow
  deriving DecidableEq, Repr

/-- The rows that these steps end, where `staged` is the row under way. Cells
of a row that is never ended are dropped. -/
def rowsFrom (staged : Row) : List Step → List Row
  | [] => []
  | .cell c :: steps => rowsFrom (staged ++ [c]) steps
  | .endRow :: steps => staged :: rowsFrom [] steps

/-- The rows that these steps build. -/
def rows (steps : List Step) : List Row := rowsFrom [] steps

/-- Builds a table step by step and writes it to a sink. -/
def session (palette : Palette) (sink : Sink) (columns : Nat) (steps : List Step) :
    Except Fault Text :=
  write palette sink columns (rows steps)

end Table

end TargetHelp
