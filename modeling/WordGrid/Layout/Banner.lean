import WordGrid.Cell

/-!
# The banner

The banner is three words in the last column of the first three rows. It is written only where
the top right corner is free.
-/

namespace WordGrid

/-- The words of the banner, from top to bottom. -/
def bannerWords : List Cell := [⟨"SOURCE"⟩, ⟨"IS"⟩, ⟨"VIEW"⟩]

/-- A row filled up with blank cells to a length. -/
def Row.padded (row : Row) (length : Nat) : Row :=
  row ++ List.replicate (length - row.length) Cell.blank

namespace Grid

/-- Is there room for the banner? The first four rows must leave the last two columns free, so
that a word has a blank cell to its left and the last word one below it. -/
def hasRoomForBanner (grid : Grid) : Bool :=
  3 ≤ grid.length && (grid.take 4).all fun row => row.length + 1 < grid.width

/-- Write the banner if there is room for it. -/
def withBanner (grid : Grid) : Grid :=
  if grid.hasRoomForBanner then
    List.zipWith (fun row word => row.padded (grid.width - 1) ++ [word]) grid bannerWords ++
      grid.drop 3
  else grid

end Grid

end WordGrid
