import WordGrid.Cell
import WordGrid.Text.Blank
import WordGrid.Text.Upper

/-!
# The text form of a grid

Every row becomes a line of cells in upper case, filled up to a common width and set apart by one
blank. Blanks at the end of a line are left out.
-/

namespace WordGrid

/-- The text of a cell in upper case, filled up with blanks to a width. A text that is longer
stays as it is, and so does every text when the width is negative. -/
def Cell.justified (cell : Cell) (width : Int) : List Char :=
  let chars := (Text.upper cell.text).toList
  chars ++ List.replicate (width - chars.length).toNat ' '

namespace Grid

/-- The length of the longest cell as it is written, before it is put in upper case. -/
def cellWidth (grid : Grid) : Nat :=
  (grid.flatten.map fun cell => cell.text.length).foldl max 0

/-- The line of a row. -/
def line (width : Int) (row : Row) : List Char :=
  Text.dropTrailingBlanks ([' '].intercalate (row.map (·.justified width)))

/-- The lines of a grid. Without a given width the longest cell sets it. -/
def lines (grid : Grid) (width : Option Int) : List (List Char) :=
  grid.map (line (width.getD grid.cellWidth))

/-- The text of a grid: its lines, set apart by line ends. -/
def toText (grid : Grid) (width : Option Int) : String :=
  String.ofList (['\n'].intercalate (grid.lines width))

end Grid

end WordGrid
