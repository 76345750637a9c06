import Mathlib.Algebra.Field.Rat
import Mathlib.Tactic.Ring
import WordGrid.Proofs.BannerOverlay
import WordGrid.Proofs.ExactPainting

/-!
# Every cell once, in its place

A picture has one mark for each cell that is not empty, row by row and from left to right. A mark is
a tile that fills the square of its cell, or text around a place inside that square, and the lines
of the text are the token, or the beginning of a long one. The picture is as large as its rows and
columns of squares, so nothing is drawn outside. Read `Grid.paint_covers` first: it says so of the
painter that does not round, and of the painter that is run as far as rounding changes nothing.
-/

namespace WordGrid

/-! ## Cells in order -/

namespace PlacedCell

/-- The cell comes first: it is in an earlier row, or further left in the same row. -/
def Before (first second : PlacedCell) : Prop :=
  first.row < second.row ∨ first.row = second.row ∧ first.column < second.column

end PlacedCell

/-- The positions in a list go up. -/
theorem pairwise_zipIdx {α : Type} (items : List α) :
    items.zipIdx.Pairwise fun first second => first.2 < second.2 := by
  have hpositions : (items.zipIdx.map Prod.snd).Pairwise (· < ·) := by
    rw [List.zipIdx_map_snd]
    exact List.pairwise_lt_range'
  exact List.pairwise_map.mp hpositions

namespace Grid

/-- A list has the cells of a grid that are not empty, each at its place and each once, row by row
and from left to right. -/
structure ListsCells (grid : Grid) (cells : List PlacedCell) : Prop where
  complete (placed : PlacedCell) : placed ∈ cells ↔
    grid.cell? placed.row placed.column = some placed.cell ∧ placed.cell.text ≠ ""
  inOrder : cells.Pairwise PlacedCell.Before

theorem mem_placed_iff {grid : Grid} {placed : PlacedCell} :
    placed ∈ grid.placed ↔
      grid.cell? placed.row placed.column = some placed.cell ∧ placed.cell.text ≠ "" := by
  obtain ⟨row, column, cell⟩ := placed
  simp only [Grid.placed, List.mem_filter, List.mem_flatMap, List.mem_map, Prod.exists,
    List.mem_zipIdx_iff_getElem?, PlacedCell.mk.injEq, Cell.isEmpty, Grid.cell?]
  constructor
  · rintro ⟨⟨cells, _, hrow, _, _, hcell, rfl, rfl, rfl⟩, htext⟩
    exact ⟨Option.bind_eq_some_iff.mpr ⟨cells, hrow, hcell⟩, by simpa using htext⟩
  · rintro ⟨hplace, htext⟩
    obtain ⟨cells, hrow, hcell⟩ := Option.bind_eq_some_iff.mp hplace
    exact ⟨⟨cells, row, hrow, cell, column, hcell, rfl, rfl, rfl⟩, by simpa using htext⟩

theorem pairwise_placed (grid : Grid) : grid.placed.Pairwise PlacedCell.Before := by
  refine List.Pairwise.filter _ (List.pairwise_flatMap.mpr ⟨?_, ?_⟩)
  · -- Within a row the columns go up.
    rintro ⟨cells, row⟩ -
    refine List.pairwise_map.mpr ((pairwise_zipIdx cells).imp fun hcolumns => ?_)
    exact .inr ⟨rfl, hcolumns⟩
  · -- From row to row the rows do.
    refine (pairwise_zipIdx grid).imp fun hrows first hfirst second hsecond => ?_
    obtain ⟨_, -, rfl⟩ := List.mem_map.mp hfirst
    obtain ⟨_, -, rfl⟩ := List.mem_map.mp hsecond
    exact .inl hrows

theorem listsCells_placed (grid : Grid) : grid.ListsCells grid.placed :=
  ⟨fun _ => mem_placed_iff, grid.pairwise_placed⟩

/-- The cells that are drawn lie within the rows and columns of the grid. -/
theorem place_lt_of_mem_placed {grid : Grid} {placed : PlacedCell} (h : placed ∈ grid.placed) :
    placed.row < grid.length ∧ placed.column < grid.width := by
  obtain ⟨cells, hrow, hcell⟩ := Option.bind_eq_some_iff.mp (mem_placed_iff.mp h).1
  obtain ⟨hlength, -⟩ := List.getElem?_eq_some_iff.mp hrow
  obtain ⟨hcolumn, -⟩ := List.getElem?_eq_some_iff.mp hcell
  exact ⟨hlength, Nat.lt_of_lt_of_le hcolumn (length_le_width (List.mem_of_getElem? hrow))⟩

/-- The squares of the cells that are drawn lie within the squares of the grid. -/
theorem square_le_of_mem_placed {grid : Grid} {placed : PlacedCell} (h : placed ∈ grid.placed)
    (cellSize : Nat) :
    placed.column * cellSize + cellSize ≤ cellSize * grid.width ∧
      placed.row * cellSize + cellSize ≤ cellSize * grid.length := by
  obtain ⟨hrow, hcolumn⟩ := place_lt_of_mem_placed h
  rw [← Nat.add_one_mul, ← Nat.add_one_mul, Nat.mul_comm cellSize, Nat.mul_comm cellSize]
  exact ⟨Nat.mul_le_mul_right cellSize hcolumn, Nat.mul_le_mul_right cellSize hrow⟩

end Grid

/-! ## Lines of text -/

namespace Lettering

/-- Lines show a text: put together they are the text, or its first eight characters and an
ellipsis; there are at most three of them, and several lines have at most three characters each. -/
structure Shows (text : String) (lines : List String) : Prop where
  joined : String.join lines =
    if text.length ≤ 9 then text else String.ofList (text.toList.take 8) ++ "…"
  few : lines.length ≤ 3
  short : 1 < lines.length → ∀ line ∈ lines, line.length ≤ 3

/-- Parts that follow each other are one part. -/
theorem part_append {chars : List Char} {start middle stop : Nat} (hstart : start ≤ middle)
    (hstop : middle ≤ stop) :
    part chars start middle ++ part chars middle stop = part chars start stop := by
  have hmiddle : chars.drop middle = (chars.drop start).drop (middle - start) := by
    rw [List.drop_drop, Nat.add_sub_cancel' hstart]
  have hlength : stop - start = (middle - start) + (stop - middle) := by omega
  simp only [part, List.drop_take, ← String.ofList_append]
  rw [hmiddle, hlength, List.take_add]

theorem length_part_le (chars : List Char) (start stop : Nat) :
    (part chars start stop).length ≤ stop - start := by
  simp only [part, String.length_ofList, List.length_drop, List.length_take]
  omega

theorem part_all {text : String} {count : Nat} (h : text.toList.length ≤ count) :
    part text.toList 0 count = text := by
  rw [part, List.drop_zero, List.take_of_length_le h, String.ofList_toList]

/-- A short text on one line. -/
theorem shows_one {text : String} (h : text.length ≤ 9) : Shows text [text] := by
  refine ⟨?_, by simp, by simp⟩
  rw [if_pos h, String.join_cons, String.join_nil, String.append_empty]

/-- A text on three lines. The first two are parts of it. -/
theorem shows_three {text third : String} {middle : Nat} (hleast : 3 ≤ middle) (hmost : middle ≤ 6)
    (hthird : third.length ≤ 3)
    (hjoined : part text.toList 0 middle ++ third =
      if text.length ≤ 9 then text else String.ofList (text.toList.take 8) ++ "…") :
    Shows text [part text.toList 0 3, part text.toList 3 middle, third] := by
  refine ⟨?_, by simp, fun _ line hline => ?_⟩
  · rw [String.join_cons, String.join_cons, String.join_cons, String.join_nil, String.append_empty,
      ← String.append_assoc, part_append (Nat.zero_le 3) hleast, hjoined]
  · have hfirst := length_part_le text.toList 0 3
    have hsecond := length_part_le text.toList 3 middle
    simp only [List.mem_cons, List.not_mem_nil, or_false] at hline
    rcases hline with rfl | rfl | rfl
    · exact hfirst
    · omega
    · exact hthird

theorem shows_lines (text : String) : Shows text (ofText text).lines := by
  have hlength : text.toList.length = text.length := String.length_toList
  unfold ofText
  dsimp only
  split
  · exact shows_one (by omega)
  split
  · exact shows_one (by omega)
  split
  · refine ⟨?_, by simp, fun _ line hline => ?_⟩
    · rw [if_pos (by omega), String.join_cons, String.join_cons, String.join_nil,
        String.append_empty, part_append (by decide) (by decide), part_all (by omega)]
    · have hfirst := length_part_le text.toList 0 2
      have hsecond := length_part_le text.toList 2 4
      simp only [List.mem_cons, List.not_mem_nil, or_false] at hline
      rcases hline with rfl | rfl <;> omega
  split
  · exact shows_one (by omega)
  split
  · refine shows_three (by decide) (by decide) ?_ ?_
    · exact Nat.le_trans (length_part_le text.toList 5 7) (by decide)
    · rw [part_append (by decide) (by decide), part_all (by omega), if_pos (by omega)]
  split
  · refine shows_three (by decide) (by decide) ?_ ?_
    · exact length_part_le text.toList 6 9
    · rw [part_append (by decide) (by decide), part_all (by omega), if_pos (by omega)]
  · refine shows_three (by decide) (by decide) ?_ ?_
    · have hthird := length_part_le text.toList 6 8
      rw [String.length_append, show ("…" : String).length = 1 from rfl]
      omega
    · rw [← String.append_assoc, part_append (by decide) (by decide), if_neg (by omega)]
      rfl

end Lettering

/-! ## Marks in their place -/

/-- The place of the text of a cell in pixels: half a cell from its left edge, and half of what the
cell is high less two 32nds from its upper edge. -/
def PlacedCell.place (placed : PlacedCell) (cellSize : Nat) : ℚ × ℚ :=
  (placed.column * cellSize + cellSize / 2,
    placed.row * cellSize + (cellSize - 2 * (cellSize / 32)) / 2)

namespace Mark

/-- A mark shows a cell: a tile fills its square, and a text has the lines of its token. -/
def Shows (cellSize : Nat) (placed : PlacedCell) : Mark → Prop
  | .tile _ size corner =>
      size = cellSize ∧ corner = (placed.column * cellSize, placed.row * cellSize)
  | .text lines _ _ _ _ _ => Lettering.Shows (Text.upper placed.cell.text) lines

/-- A text is at its place, which is a whole number of 32nds of a pixel. -/
def InPlace (cellSize : Nat) (placed : PlacedCell) : Mark → Prop
  | .tile _ _ _ => True
  | .text _ anchor _ _ _ _ =>
      anchor = (32 * placed.column * cellSize + 16 * cellSize,
        32 * placed.row * cellSize + 15 * cellSize) ∧
      ((anchor.1 : ℚ), (anchor.2 : ℚ)) =
        (32 * (placed.place cellSize).1, 32 * (placed.place cellSize).2)

/-- A tile lies inside the picture, and a text is strictly inside the square of its cell. -/
def LiesIn (picture : Picture) (cellSize : Nat) (placed : PlacedCell) : Mark → Prop
  | .tile _ size corner =>
      corner.1 + size ≤ picture.width ∧ corner.2 + size ≤ picture.height
  | .text _ anchor _ _ _ _ =>
      32 * (placed.column * cellSize) < anchor.1 ∧
        anchor.1 < 32 * ((placed.column + 1) * cellSize) ∧
        32 * (placed.row * cellSize) < anchor.2 ∧
        anchor.2 < 32 * ((placed.row + 1) * cellSize)

variable {cellSize : Nat} {placed : PlacedCell} {mark : Mark}

/-- A cell within the grid has its square within the picture, and the place of its text within its
square. -/
theorem liesIn {picture : Picture} {grid : Grid} (hmem : placed ∈ grid.placed)
    (hpos : 0 < cellSize) (hwidth : picture.width = cellSize * grid.width)
    (hheight : picture.height = cellSize * grid.length) (hshows : mark.Shows cellSize placed)
    (hplace : mark.InPlace cellSize placed) : mark.LiesIn picture cellSize placed := by
  cases mark with
  | tile path size corner =>
      obtain ⟨rfl, rfl⟩ := hshows
      obtain ⟨hright, hbottom⟩ := Grid.square_le_of_mem_placed hmem size
      exact ⟨hright.trans_eq hwidth.symm, hbottom.trans_eq hheight.symm⟩
  | text lines anchor font fontSize fill spacing =>
      obtain ⟨rfl, -⟩ := hplace
      simp only [LiesIn, Nat.add_one_mul placed.column, Nat.add_one_mul placed.row, Nat.mul_assoc]
      omega

end Mark

namespace Arithmetic

variable {arithmetic : Arithmetic} {settings : Settings} {available : Available}
variable {placed : PlacedCell} {shelf : Shelf} {mark : Mark}

/-- Whatever the arithmetic, a cell is shown by the mark that is drawn for it. -/
theorem shows_of_paintCell
    (h : (arithmetic.paintCell settings available placed shelf).1 = .ok mark) :
    mark.Shows settings.cellSize placed := by
  obtain ⟨path, rfl⟩ | ⟨anchor, font, fontSize, fill, spacing, -, rfl⟩ := mark_of_paintCell h
  · exact ⟨rfl, rfl⟩
  · exact Lettering.shows_lines placed.token

/-- Without rounding, a text is at its place. -/
theorem inPlace_of_paintCell
    (h : (exact.paintCell settings available placed shelf).1 = .ok mark) :
    mark.InPlace settings.cellSize placed := by
  obtain ⟨path, rfl⟩ | ⟨anchor, font, fontSize, fill, spacing, hanchor, rfl⟩ := mark_of_paintCell h
  · trivial
  · rw [anchor_exact] at hanchor
    obtain rfl := Except.ok.inj hanchor
    refine ⟨Prod.ext ?_ ?_, Prod.ext ?_ ?_⟩
    · simp only [Nat.mul_add, ← Nat.mul_assoc]
    · simp only [Nat.mul_assoc]
    · simp only [PlacedCell.place]
      push_cast
      ring
    · simp only [PlacedCell.place]
      push_cast
      ring

/-- A picture has the size of its grid, and the marks of its cells. -/
theorem of_paint {grid : Grid} {picture : Picture}
    (h : (arithmetic.paint settings available grid shelf).1 = .ok picture) :
    picture.width = settings.cellSize * grid.width ∧
      picture.height = settings.cellSize * grid.length ∧
      (arithmetic.paintCells settings available grid.placed shelf).1 = .ok picture.marks := by
  obtain ⟨marks, hmarks, rfl⟩ := map_eq_ok.mp h
  exact ⟨rfl, rfl, hmarks⟩

end Arithmetic

namespace Grid

open Arithmetic

variable (settings : Settings) (available : Available) (grid : Grid) (shelf : Shelf)

/-- Every picture that is drawn has the size of its grid, and shows the cells one by one. -/
theorem shows_of_paint {picture : Picture}
    (h : (grid.paint settings available shelf).1 = .ok picture) :
    picture.width = settings.cellSize * grid.width ∧
      picture.height = settings.cellSize * grid.length ∧
      List.Forall₂ (fun placed mark => Mark.Shows settings.cellSize placed mark)
        grid.placed picture.marks := by
  obtain ⟨hwidth, hheight, hmarks⟩ := of_paint h
  refine ⟨hwidth, hheight, (forall₂_of_paintCells hmarks).imp ?_⟩
  rintro placed mark ⟨_, hmark⟩
  exact shows_of_paintCell hmark

/-- Where the size of the picture, in 32nds of a pixel, has up to 53 bits, nothing is rounded. -/
theorem paint_eq_exact (h : 32 * (settings.cellSize * max grid.width grid.length) < 2 ^ 53) :
    grid.paint settings available shelf = exact.paint settings available grid shelf := by
  have hnear : ∀ placed ∈ grid.placed, IsNear settings.cellSize placed := by
    intro placed hmem
    obtain ⟨hright, hbottom⟩ := square_le_of_mem_placed hmem settings.cellSize
    have hwidth := Nat.mul_le_mul_left settings.cellSize (Nat.le_max_left grid.width grid.length)
    have hheight := Nat.mul_le_mul_left settings.cellSize (Nat.le_max_right grid.width grid.length)
    exact ⟨by omega, by omega⟩
  rw [Grid.paint, Arithmetic.paint, Arithmetic.paint, paintCells_eq_of_isNear hnear]

/-- Without rounding every grid is drawn, and the picture has the size of the grid. Its marks are
those of the cells that are not empty, one by one, row by row and from left to right: each shows its
cell, a text is at its place, and all of it is where it belongs. The picture that is drawn with
doubles is the same as long as the size of the picture, in 32nds of a pixel, has up to 53 bits; any
other picture has the same size and shows the same cells, and only places and sizes of texts are
rounded. -/
theorem paint_covers :
    ∃ picture : Picture, (exact.paint settings available grid shelf).1 = .ok picture ∧
      picture.width = settings.cellSize * grid.width ∧
      picture.height = settings.cellSize * grid.length ∧
      grid.ListsCells grid.placed ∧
      List.Forall₂ (fun placed mark => Mark.Shows settings.cellSize placed mark ∧
          Mark.InPlace settings.cellSize placed mark ∧
          Mark.LiesIn picture settings.cellSize placed mark) grid.placed picture.marks ∧
      (32 * (settings.cellSize * max grid.width grid.length) < 2 ^ 53 →
        (grid.paint settings available shelf).1 = .ok picture) ∧
      ∀ drawn, (grid.paint settings available shelf).1 = .ok drawn →
        drawn.width = picture.width ∧ drawn.height = picture.height ∧
          List.Forall₂ (fun placed mark => Mark.Shows settings.cellSize placed mark)
            grid.placed drawn.marks := by
  obtain ⟨marks, hmarks⟩ :=
    @paintCells_exact_total settings available grid.placed shelf
  let picture : Picture := ⟨settings.cellSize * grid.width, settings.cellSize * grid.length, marks⟩
  have hexact : (exact.paint settings available grid shelf).1 = .ok picture :=
    map_eq_ok.mpr ⟨marks, hmarks, rfl⟩
  refine ⟨picture, hexact, rfl, rfl, grid.listsCells_placed, ?_, ?_, ?_⟩
  · have hcells := (List.forall₂_and_left _ _).mpr
      ⟨fun placed hmem => hmem, forall₂_of_paintCells hmarks⟩
    refine hcells.imp ?_
    rintro placed mark ⟨hmem, _, hmark⟩
    have hshows := shows_of_paintCell hmark
    have hplace := inPlace_of_paintCell hmark
    exact ⟨hshows, hplace, Mark.liesIn hmem settings.cellSize_pos rfl rfl hshows hplace⟩
  · intro hsmall
    rw [paint_eq_exact settings available grid shelf hsmall, hexact]
  · intro drawn hdrawn
    exact shows_of_paint settings available grid shelf hdrawn

/-- Two rows, the first without a cell and the second with a gap. -/
def ragged : Grid :=
  [[], [⟨"A"⟩, Cell.blank, ⟨"internal"⟩]]

/-- Two cells are drawn on three columns of squares. -/
theorem paint_covers_ragged :
    ∃ picture : Picture, (ragged.paint {} ⟨[], []⟩ .empty).1 = .ok picture ∧
      picture.width = 96 ∧ picture.height = 64 ∧ picture.marks.length = 2 := by
  obtain ⟨picture, -, hwidth, hheight, -, hmarks, hrun, -⟩ :=
    paint_covers {} ⟨[], []⟩ ragged .empty
  exact ⟨picture, hrun (by decide), hwidth, hheight, hmarks.length_eq.symm⟩

end Grid

end WordGrid
