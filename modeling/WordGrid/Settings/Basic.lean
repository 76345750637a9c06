/-!
# Settings

What can be set about a run. The edge of a drawn cell is never zero.
-/

namespace WordGrid

/-- The settings of a run. -/
structure Settings where
  /-- Write the banner if there is room for it. -/
  banner : Bool := true
  /-- Summarise imports too. -/
  includeImports : Bool := false
  /-- The edge of a drawn cell in pixels. -/
  cellSize : Nat := 32
  /-- The font that cells are drawn in, if it loads. -/
  fontPath : Option String := none
  /-- The directory of ready-made tiles. -/
  tilesDirectory : Option String := none
  /-- The level of the journal. -/
  logLevel : String := "WARNING"
  cellSize_pos : 0 < cellSize := by decide

/-- The settings when nothing is set. -/
def Settings.default : Settings := {}

end WordGrid
