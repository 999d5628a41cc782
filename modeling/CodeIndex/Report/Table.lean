import CodeIndex.Text.Columns
import CodeIndex.Text.Pieces
/-!
# Tables

Rows of texts under a line of headings, columns separated by `|` and the headings underlined. A
text of several lines makes its row that high. Every cell has a blank on either side and is filled
up on the right.
-/
namespace CodeIndex.Report

def cellLines (cell : String) : List (List Char) := Text.pieces '\n' cell.toList

/-- The columns of the widest line of a cell. -/
def cellWidth (cell : String) : Nat :=
  (cellLines cell).foldl (fun w line => max w (Text.columns line)) 0

def rowHeight (row : List String) : Nat :=
  row.foldl (fun h cell => max h (cellLines cell).length) 1

/-- The width of each column: that of its widest cell. -/
def columnWidths (rows : List (List String)) (columns : Nat) : List Nat :=
  (List.range columns).map fun column =>
    rows.foldl (fun w row => max w (cellWidth (row.getD column ""))) 0

def blanks (n : Nat) : List Char := List.replicate n ' '

/-- A line of a cell between its blanks. -/
def paddedLine (width : Nat) (line : List Char) : List Char :=
  ' ' :: line ++ blanks (width - Text.columns line) ++ [' ']

def rowLines (widths : List Nat) (row : List String) : List (List Char) :=
  (List.range (rowHeight row)).map fun n =>
    ['|'].intercalate ((row.zip widths).map fun (cell, width) =>
      paddedLine width ((cellLines cell).getD n []))

/-- The line under the headings. -/
def rule (widths : List Nat) : List Char :=
  ['+'].intercalate (widths.map fun width => List.replicate (width + 2) '-')

/-- A table; one without rows is replaced by a sentence. -/
def table (headings : List String) (rows : List (List String)) (none : String) : String :=
  if rows.isEmpty then none
  else
    let widths := columnWidths (headings :: rows) headings.length
    let lines := rowLines widths headings ++ rule widths :: rows.flatMap (rowLines widths)
    String.ofList (['\n'].intercalate lines)

end CodeIndex.Report
