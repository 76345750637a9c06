import WordGrid.Cell
import WordGrid.Picture.Colour
import WordGrid.Picture.Lettering
import WordGrid.Picture.Precision
import WordGrid.Picture.Shelf
import WordGrid.Settings.Basic
import WordGrid.Text.Upper

/-!
# Painting a grid

A picture is a list of marks: every cell that is not empty is drawn as a tile if there is one for
its text, or else as text around the middle of its square. The anchor of a text is counted in 32nds
of a pixel. A painter draws with an arithmetic; `Grid.paint` is the one that draws with doubles, so
an anchor is exact as long as it is below 2 to the 53rd power.
-/

namespace WordGrid

/-- A mark on a picture. -/
inductive Mark where
  /-- Text whose middle is at the anchor, in 32nds of a pixel. Without a font of its own it is set
  in the default one. -/
  | text (lines : List String) (anchor : Nat × Nat) (font : Option String) (fontSize : Nat)
      (fill : Colour) (spacing : Nat)
  /-- A square tile with its top left corner at a place. -/
  | tile (path : String) (size : Nat) (corner : Nat × Nat)

/-- A picture on a black ground. -/
structure Picture where
  width : Nat
  height : Nat
  marks : List Mark

/-- A cell with its row and its column. -/
structure PlacedCell where
  row : Nat
  column : Nat
  cell : Cell

namespace PlacedCell

/-- The top left corner of a cell. -/
def corner (placed : PlacedCell) (cellSize : Nat) : Nat × Nat :=
  (placed.column * cellSize, placed.row * cellSize)

/-- The text that is drawn. -/
def token (placed : PlacedCell) : String :=
  Text.upper placed.cell.text

/-- What the tile of a cell is looked for by. -/
def tileKey (settings : Settings) (placed : PlacedCell) : TileKey :=
  ⟨settings.tilesDirectory, placed.token, settings.cellSize⟩

end PlacedCell

/-- The cells that are not empty, with their places, row by row. -/
def Grid.placed (grid : Grid) : List PlacedCell :=
  (grid.zipIdx.flatMap fun (cells, row) =>
    cells.zipIdx.map fun (cell, column) => ⟨row, column, cell⟩).filter (!·.cell.isEmpty)

namespace Arithmetic

/-- The anchor of the text of a cell in 32nds of a pixel: the middle from left to right, and one
32nd of the cell above the middle from top to bottom. -/
def anchor (arithmetic : Arithmetic) (placed : PlacedCell) (cellSize : Nat) :
    Except PaintError (Nat × Nat) := do
  let halves ← arithmetic.part 2 cellSize
  let left ← arithmetic.number (placed.column * cellSize)
  let edge ← arithmetic.number cellSize
  let top ← arithmetic.number (placed.row * cellSize)
  return (16 * arithmetic.rounded (2 * left + halves),
    arithmetic.rounded (32 * top + arithmetic.rounded (15 * edge)))

variable (arithmetic : Arithmetic) (settings : Settings)

/-- The size that the text of a cell is set in: at least one pixel. -/
def fontSize (placed : PlacedCell) : Except PaintError Nat := do
  return max 1 (← arithmetic.scaled (Lettering.ofText placed.token).fontSize settings.cellSize)

/-- Draw the text of a cell in a font. -/
def textMark (placed : PlacedCell) (font : Option String) (fontSize : Nat) :
    Except PaintError Mark := do
  let lettering := Lettering.ofText placed.token
  let spacing ← arithmetic.scaled (lettering.lineHeight - lettering.fontSize) settings.cellSize
  let anchor ← arithmetic.anchor placed settings.cellSize
  return .text lettering.lines anchor font fontSize (Colour.ofText placed.token) spacing

variable (available : Available)

/-- Draw a cell. -/
def paintCell (placed : PlacedCell) (shelf : Shelf) : Except PaintError Mark × Shelf :=
  match shelf.findTile available (placed.tileKey settings) with
  | (some path, shelf) =>
      (.ok (.tile path settings.cellSize (placed.corner settings.cellSize)), shelf)
  | (none, shelf) =>
      match arithmetic.fontSize settings placed with
      | .error error => (.error error, shelf)
      | .ok fontSize =>
          let (font, shelf) := shelf.findFont available ⟨settings.fontPath, fontSize⟩
          (arithmetic.textMark settings placed font fontSize, shelf)

/-- Draw cells one after the other, up to the first one that cannot be drawn. -/
def paintCells : List PlacedCell → Shelf → Except PaintError (List Mark) × Shelf
  | [], shelf => (.ok [], shelf)
  | placed :: rest, shelf =>
      match arithmetic.paintCell settings available placed shelf with
      | (.error error, shelf) => (.error error, shelf)
      | (.ok mark, shelf) =>
          let (marks, shelf) := paintCells rest shelf
          (marks.map (mark :: ·), shelf)

/-- Draw a grid with what is on the shelf. -/
def paint (grid : Grid) (shelf : Shelf) : Except PaintError Picture × Shelf :=
  let (marks, shelf) := arithmetic.paintCells settings available grid.placed shelf
  (marks.map (⟨settings.cellSize * grid.width, settings.cellSize * grid.length, ·⟩), shelf)

end Arithmetic

/-- Draw a grid with doubles and with what is on the shelf. -/
def Grid.paint (settings : Settings) (available : Available) (grid : Grid) (shelf : Shelf) :
    Except PaintError Picture × Shelf :=
  Arithmetic.double.paint settings available grid shelf

/-- A grid to be drawn, with the settings and the files at that moment. -/
structure Sitting where
  settings : Settings
  available : Available
  grid : Grid

end WordGrid
