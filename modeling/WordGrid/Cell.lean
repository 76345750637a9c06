/-!
# Cells, rows and grids

A summary is a grid of short texts. This module has the cell, the fixed words that rows are built
with, and the length of the longest row of a grid.
-/

namespace WordGrid

/-- One short text of a grid. -/
structure Cell where
  text : String
  deriving DecidableEq, Repr, Inhabited

/-- A row of cells, from left to right. -/
abbrev Row := List Cell

/-- Rows from top to bottom. They may differ in length. -/
abbrev Grid := List Row

namespace Cell

/-- Does the cell show nothing? -/
def isEmpty (cell : Cell) : Bool :=
  cell.text == ""

/-- The cell that shows nothing. -/
def blank : Cell := ⟨""⟩

/-- The cell that stands in front of a row that goes on with what an earlier row began. -/
def ellipsis : Cell := ⟨"…"⟩

/-- Joins a name to what it is. -/
def isWord : Cell := ⟨"IS"⟩

/-- Joins a type to one that it conforms to. -/
def isaWord : Cell := ⟨"ISA"⟩

/-- Opens a list of arguments. -/
def ofWord : Cell := ⟨"OF"⟩

/-- Stands between two arguments. -/
def andWord : Cell := ⟨"AND"⟩

/-- Follows `AND` when the argument before it ends in a list of its own. -/
def thenWord : Cell := ⟨"THEN"⟩

/-- Opens a list of requirements. -/
def whereWord : Cell := ⟨"WHERE"⟩

/-- Stands between the parameters and the result of a function type. -/
def toWord : Cell := ⟨"TO"⟩

/-- Opens a list of members. -/
def hasWord : Cell := ⟨"HAS"⟩

/-- A row with nothing but one of these cells only fills a gap. -/
def isFiller (cell : Cell) : Bool :=
  cell == ellipsis || cell == andWord

/-- Cells in the order of their code points. -/
def sort (cells : List Cell) : List Cell :=
  cells.mergeSort fun left right => left.text ≤ right.text

end Cell

/-- The length of the longest row; zero for a grid without rows. -/
def Grid.width (grid : Grid) : Nat :=
  (grid.map List.length).foldl max 0

end WordGrid
