import WordGrid.Layout.Banner
import WordGrid.Layout.EntityRows

/-!
# The sheet of a file

The grid of a whole file is a blank row followed by the rows of every entity in order.
-/

namespace WordGrid

/-- The rows of all entities under a leading blank row. -/
def Grid.stacked (entities : List Entity) : Except LayoutError Grid := do
  let blocks ← entities.mapM Entity.hierarchical
  return [] :: blocks.flatten

/-- The grid of a file, with or without a banner. -/
def Grid.ofEntities (entities : List Entity) (banner : Bool) : Except LayoutError Grid := do
  let grid ← Grid.stacked entities
  return if banner then grid.withBanner else grid

end WordGrid
