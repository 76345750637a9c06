import WordGrid.Cell

/-!
# Filler rows

Rows that only fill a gap are needed between other rows and not at the end of a block.
`collapseFillers` blanks the longest run of such rows at the end and leaves the rest alone.
-/

namespace WordGrid

/-- A filler row without its filler: a single filler cell goes away, and an ellipsis in front of
other cells becomes blank. Any other row is not a filler row. -/
def Row.blanked? : Row → Option Row
  | [] => none
  | [cell] => if cell.isFiller then some [] else none
  | cell :: rest => if cell == Cell.ellipsis then some (Cell.blank :: rest) else none

/-- Blank the filler rows at the start of a list, up to the first row that is none. -/
def blankLeading : List Row → List Row
  | [] => []
  | row :: rest =>
      match row.blanked? with
      | some blank => blank :: blankLeading rest
      | none => row :: rest

/-- Blank the filler rows at the end of a grid. -/
def Grid.collapseFillers (grid : Grid) : Grid :=
  (blankLeading grid.reverse).reverse

end WordGrid
