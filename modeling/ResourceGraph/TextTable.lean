import ResourceGraph.Text.Lines
import ResourceGraph.Text.Width

/-!
A table of two columns in a frame with round corners.
-/

namespace ResourceGraph.TextTable

open Text

/-- A row: a label and a value. -/
abbrev Row := String × String

/-- The row on top of every table. -/
def header : Row := ("Metric", "Value")

/-- The lines of a cell. -/
def cellLines (text : String) : List (List Char) :=
  split '\n' text.toList

/-- The columns that some cells need. -/
def columnWidth (cells : List String) : Nat :=
  ((cells.flatMap cellLines).map textWidth).foldl max 0

/-- A line of a cell, filled up with blanks. -/
def pad (width : Nat) (line : List Char) : String :=
  String.ofList (line ++ List.replicate (width - textWidth line) ' ')

/-- A line of the frame. -/
def rule (left middle right : String) (first second : Nat) : String :=
  let bar := fun width => String.join (List.replicate (width + 2) "─")
  left ++ bar first ++ middle ++ bar second ++ right

/-- The lines of a row, as many as its highest cell has. -/
def rowLines (first second : Nat) (row : Row) : List String :=
  let left := cellLines row.1
  let right := cellLines row.2
  let height := max left.length right.length
  let filled := fun (cell : List (List Char)) => cell ++ List.replicate (height - cell.length) []
  List.zipWith (fun a b => "│ " ++ pad first a ++ " │ " ++ pad second b ++ " │")
    (filled left) (filled right)

/-- The table of some rows. Without rows there is no table. -/
def draw (rows : List Row) : String :=
  if rows.isEmpty then ""
  else
    let all := header :: rows
    let first := columnWidth (all.map (·.1))
    let second := columnWidth (all.map (·.2))
    "\n".intercalate
      ([rule "╭" "┬" "╮" first second] ++ rowLines first second header ++
        [rule "├" "┼" "┤" first second] ++ rows.flatMap (rowLines first second) ++
        [rule "╰" "┴" "╯" first second])

end ResourceGraph.TextTable
