import Wiring.Text.Width

/-!
# Columns

Rows of cells laid out in columns, each cell between two spaces and as wide as the widest of its
column. A cell may have several lines; the last column is not filled up.
-/

namespace Wiring

/-- The lines of a text. A line break at the end starts no line, and a carriage return before it
is part of it. -/
def textLines (s : Text) : List Text :=
  let lines := pieces '\n' s
  let broken := lines.dropLast.map fun line =>
    if line.getLast? = some '\r' then line.dropLast else line
  match lines.getLast? with
  | some (c :: last) => broken ++ [c :: last]
  | _ => broken

def maximum (ns : List Nat) : Nat := ns.foldl max 0

/-- The lines of a cell. -/
abbrev Cell := List Text

def cellWidth (cell : Cell) : Nat := maximum (cell.map displayWidth)

/-- The width of each column. -/
def columnWidths (count : Nat) (rows : List (List Cell)) : List Nat :=
  (List.range count).map fun i => maximum (rows.map fun row => cellWidth (row[i]?.getD []))

/-- One line of a row: the line of each cell, filled up to the width of its column. -/
def rowLine (cells : List Cell) (widths : List Nat) (index : Nat) : Text :=
  (cells.zip widths).zipIdx.flatMap fun ((cell, width), column) =>
    let text := cell[index]?.getD []
    let fill := if column + 1 = cells.length then 0 else width - displayWidth text
    ' ' :: text ++ List.replicate fill ' ' ++ [' ']

def rowText (widths : List Nat) (cells : List Cell) : Text :=
  (List.range (max 1 (maximum (cells.map List.length)))).flatMap fun index =>
    rowLine cells widths index ++ ['\n']

/-- The rows, all with as many cells as the first, one below the other. -/
def columnsText (rows : List (List Text)) : Text :=
  let rows := rows.map (·.map textLines)
  rows.flatMap (rowText (columnWidths ((rows.head?.map List.length).getD 0) rows))

end Wiring
