import Mathlib.Data.List.DropRight
import Mathlib.Data.List.Forall2
import WordGrid.Layout.TextForm

/-!
# The columns of the text form

A row is written as one block per cell: the cell in upper case, blanks up to the width, and one more
blank. The line of the row is that without the blanks at its end (`Grid.line_eq`), so filling the
line up again gives the blocks back, and every cell is found in its column. Blocks can be told apart
from each other if cells fit into them and hold no blanks (`Row.trimmed_eq_of_blocks_eq`), and so
can lines, since a line end is a blank. Read `Grid.toText_columns` first.
-/

namespace WordGrid

/-! ## Blanks at the end -/

namespace Text

theorem isBlank_of_mem_fill (count : Nat) : ∀ c ∈ List.replicate count ' ', isBlank c := by
  intro c hc
  rw [List.eq_of_mem_replicate hc]
  decide

/-- Dropping the blanks at the end cuts off blanks only. -/
theorem exists_cut (chars : List Char) :
    ∃ cut, chars = dropTrailingBlanks chars ++ cut ∧ ∀ c ∈ cut, isBlank c :=
  ⟨chars.rtakeWhile isBlank, List.rdropWhile_append_rtakeWhile.symm,
    fun _ => List.mem_rtakeWhile_imp⟩

theorem dropTrailingBlanks_append {chars blanks : List Char} (h : ∀ c ∈ blanks, isBlank c) :
    dropTrailingBlanks (chars ++ blanks) = dropTrailingBlanks chars := by
  have hnone : blanks.reverse.dropWhile isBlank = [] := by
    simpa using h
  unfold dropTrailingBlanks
  rw [List.reverse_append, List.dropWhile_append, hnone]
  rfl

theorem dropTrailingBlanks_of_no_blank {chars : List Char} (h : ∀ c ∈ chars, isBlank c = false) :
    dropTrailingBlanks chars = chars := by
  refine List.rdropWhile_eq_self_iff.mpr fun hne hblank => ?_
  rw [h _ (List.getLast_mem hne)] at hblank
  cases hblank

/-- A text without blanks is read back from the text with blanks behind it. -/
theorem eq_of_rightpad_eq {width : Nat} {first second : List Char}
    (hfirst : ∀ c ∈ first, isBlank c = false) (hsecond : ∀ c ∈ second, isBlank c = false)
    (h : first.rightpad width ' ' = second.rightpad width ' ') : first = second := by
  have htrim (chars : List Char) (hchars : ∀ c ∈ chars, isBlank c = false) :
      dropTrailingBlanks (chars.rightpad width ' ') = chars := by
    rw [List.rightpad, dropTrailingBlanks_append (isBlank_of_mem_fill _),
      dropTrailingBlanks_of_no_blank hchars]
  rw [← htrim first hfirst, h, htrim second hsecond]

end Text

/-! ## Blocks -/

namespace Cell

/-- A cell in upper case. -/
def upper (cell : Cell) : Cell :=
  ⟨Text.upper cell.text⟩

/-- A cell as it is written: filled up to a width and followed by a blank. -/
def block (width : Nat) (cell : Cell) : List Char :=
  cell.text.toList.rightpad width ' ' ++ [' ']

theorem justified_eq (cell : Cell) (width : Nat) :
    cell.justified width = cell.upper.text.toList.rightpad width ' ' := by
  show (Text.upper cell.text).toList ++ List.replicate
      ((width : Int) - ((Text.upper cell.text).toList.length : Nat)).toNat ' ' = _
  rw [Int.toNat_sub]
  rfl

/-- A cell can be read in a column: it is not wider, and it holds no blanks. -/
structure Fits (width : Nat) (cell : Cell) : Prop where
  short : cell.text.length ≤ width
  solid : ∀ c ∈ cell.text.toList, Text.isBlank c = false

instance (width : Nat) (cell : Cell) : Decidable (cell.Fits width) :=
  decidable_of_iff (cell.text.length ≤ width ∧ cell.text.toList.all fun c => !Text.isBlank c)
    ⟨fun h => ⟨h.1, by simpa using h.2⟩, fun h => ⟨h.short, by simpa using h.solid⟩⟩

variable {width : Nat} {cell other : Cell}

theorem length_block (h : cell.text.length ≤ width) : (cell.block width).length = width + 1 := by
  rw [block, List.length_append, List.length_rightpad, String.length_toList, List.length_singleton]
  omega

/-- The only blank in a block is the one that cells are filled up with. -/
theorem Fits.eq_of_blank (h : cell.Fits width) {c : Char} (hmem : c ∈ cell.block width)
    (hblank : Text.isBlank c) : c = ' ' := by
  rcases List.mem_append.mp hmem with hcell | hlast
  · rcases List.mem_append.mp hcell with htext | hfill
    · rw [h.solid c htext] at hblank
      cases hblank
    · exact List.eq_of_mem_replicate hfill
  · exact List.mem_singleton.mp hlast

/-- A block of nothing but blanks shows nothing. -/
theorem Fits.isEmpty_of_blank (h : cell.Fits width) (hblank : ∀ c ∈ cell.block width, c = ' ') :
    cell.isEmpty := by
  cases htext : cell.text.toList with
  | nil => exact beq_iff_eq.mpr (String.toList_eq_nil_iff.mp htext)
  | cons first rest =>
      have hmem : first ∈ cell.text.toList := by simp [htext]
      have hfirst : first = ' ' :=
        hblank first (List.mem_append_left _ (List.mem_append_left _ hmem))
      have hsolid := h.solid first hmem
      rw [hfirst] at hsolid
      exact absurd hsolid (by decide)

/-- An empty cell has a block of blanks. -/
theorem isBlank_of_isEmpty (h : cell.isEmpty) : ∀ c ∈ cell.block width, Text.isBlank c := by
  have htext : cell.text = "" := beq_iff_eq.mp h
  intro c hc
  rw [block, htext] at hc
  rcases List.mem_append.mp hc with hfill | hlast
  · exact Text.isBlank_of_mem_fill width c hfill
  · exact Text.isBlank_of_mem_fill 1 c hlast

theorem Fits.eq_of_block_eq (h : cell.Fits width) (hother : other.Fits width)
    (heq : cell.block width = other.block width) : cell = other := by
  have hpadded := List.append_cancel_right heq
  have htext := Text.eq_of_rightpad_eq h.solid hother.solid hpadded
  obtain ⟨text⟩ := cell
  obtain ⟨text'⟩ := other
  rw [show text = text' from String.toList_inj.mp htext]

end Cell

namespace Row

/-- The blocks of a row. -/
def blocks (width : Nat) (row : Row) : List Char :=
  row.flatMap (Cell.block width)

variable {width : Nat} {row other : Row}

theorem length_blocks (h : ∀ cell ∈ row, cell.text.length ≤ width) :
    (row.blocks width).length = row.length * (width + 1) := by
  induction row with
  | nil => simp [blocks]
  | cons cell rest ih =>
      obtain ⟨hcell, hrest⟩ := List.forall_mem_cons.mp h
      have hlength := ih hrest
      unfold blocks at hlength ⊢
      rw [List.flatMap_cons, List.length_append, Cell.length_block hcell, hlength,
        List.length_cons, Nat.succ_mul, Nat.add_comm]

/-- A cell stands at the start of its block, and the blocks are of one length. -/
theorem take_drop_blocks (h : ∀ cell ∈ row, cell.text.length ≤ width) {index : Nat} {cell : Cell}
    (hcell : row[index]? = some cell) (tail : List Char) :
    ((row.blocks width ++ tail).drop (index * (width + 1))).take width =
      cell.text.toList.rightpad width ' ' := by
  induction row generalizing index with
  | nil => simp at hcell
  | cons first rest ih =>
      obtain ⟨hfirst, hrest⟩ := List.forall_mem_cons.mp h
      rw [blocks, List.flatMap_cons, List.append_assoc]
      cases index with
      | zero =>
          obtain rfl : first = cell := Option.some.inj hcell
          have hwidth : (first.text.toList.rightpad width ' ').length = width := by
            rw [List.length_rightpad, String.length_toList]
            omega
          rw [Nat.zero_mul, List.drop_zero, Cell.block, List.append_assoc,
            List.take_append_of_le_length (Nat.le_of_eq hwidth.symm),
            List.take_of_length_le (Nat.le_of_eq hwidth)]
      | succ index =>
          rw [Nat.succ_mul, Nat.add_comm, ← List.drop_drop, List.drop_left'
            (Cell.length_block hfirst)]
          exact ih hrest hcell

/-- A row without empty cells at its end. -/
def trimmed (row : Row) : Row :=
  row.rdropWhile Cell.isEmpty

/-- What can be seen of a row: its cells in upper case, without empty ones at the end. -/
def shown (row : Row) : Row :=
  trimmed (row.map Cell.upper)

/-- The first cell of a row goes away only if nothing is left behind it. -/
theorem trimmed_cons (cell : Cell) (row : Row) :
    trimmed (cell :: row) =
      if row.trimmed.isEmpty then trimmed [cell] else cell :: row.trimmed := by
  unfold trimmed List.rdropWhile
  rw [List.reverse_cons, List.dropWhile_append, List.isEmpty_reverse]
  split
  · rfl
  · exact List.reverse_append

/-- Blocks of cells that fit show the cells, up to empty ones at the end. -/
theorem trimmed_eq_of_blocks_eq (hrow : ∀ cell ∈ row, cell.Fits width)
    (hother : ∀ cell ∈ other, cell.Fits width) (more fewer : Nat)
    (h : row.blocks width ++ List.replicate more ' ' =
      other.blocks width ++ List.replicate fewer ' ') :
    row.trimmed = other.trimmed := by
  -- Cells that are filled up to nothing but blanks are empty.
  have hempty {cells : Row} (hcells : ∀ cell ∈ cells, cell.Fits width) {count rest : Nat}
      (hblank : List.replicate count ' ' = cells.blocks width ++ List.replicate rest ' ') :
      cells.trimmed = [] := by
    refine List.rdropWhile_eq_nil_iff.mpr fun cell hcell => ?_
    refine (hcells cell hcell).isEmpty_of_blank fun c hc => ?_
    have hmem : c ∈ List.replicate count ' ' := by
      rw [hblank]
      exact List.mem_append_left _ (List.mem_flatMap.mpr ⟨cell, hcell, hc⟩)
    exact List.eq_of_mem_replicate hmem
  induction row generalizing other with
  | nil => exact (hempty hother h).symm
  | cons cell rest ih =>
      cases other with
      | nil => exact hempty hrow h.symm
      | cons cell' rest' =>
          obtain ⟨hcell, hrest⟩ := List.forall_mem_cons.mp hrow
          obtain ⟨hcell', hrest'⟩ := List.forall_mem_cons.mp hother
          simp only [blocks, List.flatMap_cons, List.append_assoc] at h
          have hlength : (cell.block width).length = (cell'.block width).length := by
            rw [Cell.length_block hcell.short, Cell.length_block hcell'.short]
          obtain ⟨hblock, htail⟩ := List.append_inj h hlength
          rw [hcell.eq_of_block_eq hcell' hblock, trimmed_cons, trimmed_cons cell' rest',
            ih hrest hrest' htail]

/-- The blocks of empty cells at the end are blank. -/
theorem blocks_eq_append_blanks (row : Row) (width : Nat) :
    ∃ blanks, row.blocks width = row.trimmed.blocks width ++ blanks ∧
      ∀ c ∈ blanks, Text.isBlank c := by
  refine ⟨blocks width (row.rtakeWhile Cell.isEmpty), ?_, fun c hc => ?_⟩
  · rw [blocks, blocks, blocks, ← List.flatMap_append, trimmed, List.rdropWhile_append_rtakeWhile]
  · obtain ⟨cell, hcell, hc⟩ := List.mem_flatMap.mp hc
    exact Cell.isBlank_of_isEmpty (List.mem_rtakeWhile_imp hcell) c hc

/-- A line that is filled up with blanks has the cells of the row in columns of a width, each in
upper case and filled up, with one character between two columns. -/
def InColumns (width : Nat) (row : Row) (line : List Char) : Prop :=
  ∀ length index cell, row.length * (width + 1) ≤ length → row[index]? = some cell →
    ((line.rightpad length ' ').drop (index * (width + 1))).take width =
      cell.upper.text.toList.rightpad width ' '

/-- The blocks of a row are in columns, and so is what is left when blanks are cut off. -/
theorem inColumns_of_blocks {line : List Char}
    (hshort : ∀ cell ∈ row, cell.upper.text.length ≤ width) (count : Nat)
    (h : blocks width (row.map Cell.upper) = line ++ List.replicate count ' ') :
    row.InColumns width line := by
  have hshort' : ∀ cell ∈ row.map Cell.upper, cell.text.length ≤ width := by
    simpa using hshort
  intro length index cell hlength hcell
  have hcount : line.length + count = row.length * (width + 1) := by
    have hblocks := length_blocks hshort'
    rwa [h, List.length_append, List.length_replicate, List.length_map] at hblocks
  have hfilled : line.rightpad length ' ' = blocks width (row.map Cell.upper) ++
      List.replicate (length - row.length * (width + 1)) ' ' := by
    rw [h, List.append_assoc, List.replicate_append_replicate, List.rightpad]
    congr 2
    omega
  have hupper : (row.map Cell.upper)[index]? = some cell.upper := by
    rw [List.getElem?_map, hcell]
    rfl
  rw [hfilled, take_drop_blocks hshort' hupper]

end Row

/-! ## Lines -/

namespace Grid

/-- A line is made of the blocks of its row, without the blanks at the end. -/
theorem line_eq (width : Nat) (row : Row) :
    line width row = Text.dropTrailingBlanks (Row.blocks width (row.map Cell.upper)) := by
  -- Between two cells stands the blank that ends the block of the first.
  have hjoined (first : Cell) (rest : Row) :
      [' '].intercalate ((first :: rest).map (·.justified width)) ++ [' '] =
        Row.blocks width ((first :: rest).map Cell.upper) := by
    induction rest generalizing first with
    | nil =>
        rw [List.map_singleton, List.intercalate_singleton, Cell.justified_eq]
        exact (List.append_nil _).symm
    | cons second rest ih =>
        have htail := ih second
        rw [List.map_cons] at htail
        rw [List.map_cons, List.map_cons, List.intercalate_cons_cons, List.append_assoc, htail,
          Cell.justified_eq]
        rfl
  cases row with
  | nil => rfl
  | cons first rest =>
      rw [← hjoined]
      exact (Text.dropTrailingBlanks_append (Text.isBlank_of_mem_fill 1)).symm

/-- Only blanks are missing at the end of a line. -/
theorem exists_cut_line (width : Nat) (row : Row) :
    ∃ cut, Row.blocks width (row.map Cell.upper) = line width row ++ cut ∧
      ∀ c ∈ cut, Text.isBlank c := by
  rw [line_eq]
  exact Text.exists_cut _

/-- Rows that look the same have the same line. -/
theorem line_eq_of_shown_eq {width : Nat} {row other : Row} (h : row.shown = other.shown) :
    line width row = line width other := by
  have hshown (row : Row) :
      line width row = Text.dropTrailingBlanks (Row.blocks width row.shown) := by
    obtain ⟨blanks, hblocks, hblank⟩ := Row.blocks_eq_append_blanks (row.map Cell.upper) width
    rw [line_eq, hblocks, Text.dropTrailingBlanks_append hblank]
    rfl
  rw [hshown, h, hshown]

section

variable {width : Nat} {row other : Row} (hrow : ∀ cell ∈ row, cell.upper.Fits width)
include hrow

/-- The blanks that are missing at the end of a line are those that cells are filled up with. -/
theorem exists_fill_line :
    ∃ count, Row.blocks width (row.map Cell.upper) =
      line width row ++ List.replicate count ' ' := by
  obtain ⟨cut, hcut, hblank⟩ := exists_cut_line width row
  refine ⟨cut.length, ?_⟩
  rw [hcut, List.append_cancel_left_eq, List.eq_replicate_iff]
  refine ⟨rfl, fun c hc => ?_⟩
  have hmem : c ∈ Row.blocks width (row.map Cell.upper) := by
    rw [hcut]
    exact List.mem_append_right _ hc
  obtain ⟨upper, hupper, hc'⟩ := List.mem_flatMap.mp hmem
  obtain ⟨cell, hcell, rfl⟩ := List.mem_map.mp hupper
  exact (hrow cell hcell).eq_of_blank hc' (hblank c hc)

theorem newline_notMem_line : '\n' ∉ line width row := by
  intro hline
  obtain ⟨cut, hcut, -⟩ := exists_cut_line width row
  have hmem : '\n' ∈ Row.blocks width (row.map Cell.upper) := by
    rw [hcut]
    exact List.mem_append_left _ hline
  obtain ⟨upper, hupper, hblock⟩ := List.mem_flatMap.mp hmem
  obtain ⟨cell, hcell, rfl⟩ := List.mem_map.mp hupper
  exact absurd ((hrow cell hcell).eq_of_blank hblock (by decide)) (by decide)

/-- The line of a row tells what can be seen of the row. -/
theorem line_eq_iff (hother : ∀ cell ∈ other, cell.upper.Fits width) :
    line width row = line width other ↔ row.shown = other.shown := by
  refine ⟨fun h => ?_, line_eq_of_shown_eq⟩
  obtain ⟨count, hcount⟩ := exists_fill_line hrow
  obtain ⟨count', hcount'⟩ := exists_fill_line hother
  have hfits : ∀ cell ∈ row.map Cell.upper, cell.Fits width := by simpa using hrow
  have hfits' : ∀ cell ∈ other.map Cell.upper, cell.Fits width := by simpa using hother
  refine Row.trimmed_eq_of_blocks_eq hfits hfits' count' count ?_
  rw [hcount, hcount', h, List.append_assoc, List.append_assoc, List.replicate_append_replicate,
    List.replicate_append_replicate, Nat.add_comm]

end

/-! ## Texts -/

/-- The cells of a grid, in upper case, can be read in columns of a width. -/
structure FitsColumns (grid : Grid) (width : Nat) : Prop where
  rows : grid ≠ []
  cells : ∀ row ∈ grid, ∀ cell ∈ row, cell.upper.Fits width

instance (grid : Grid) (width : Nat) : Decidable (grid.FitsColumns width) :=
  decidable_of_iff (!grid.isEmpty ∧ grid.all fun row => row.all fun cell => cell.upper.Fits width)
    ⟨fun h => ⟨by simpa using h.1, by simpa using h.2⟩,
      fun h => ⟨by simpa using h.rows, by simpa using h.cells⟩⟩

variable {grid other : Grid} {width : Nat}

/-- The text of a grid falls into one line per row. -/
theorem splitOn_toText (h : grid.FitsColumns width) :
    (grid.toText (some width)).toList.splitOn '\n' = grid.map (line width) := by
  rw [toText, String.toList_ofList]
  refine List.splitOn_intercalate '\n' (fun text htext => ?_) ?_
  · obtain ⟨row, hrow, rfl⟩ := List.mem_map.mp htext
    exact newline_notMem_line (h.cells row hrow)
  · exact fun hnil => h.rows (List.map_eq_nil_iff.mp hnil)

/-- Rows are compared one by one. -/
theorem map_eq_map_iff {α β : Type} {f : Row → α} {g : Row → β}
    (h : ∀ row ∈ grid, ∀ row' ∈ other, f row = f row' ↔ g row = g row') :
    grid.map f = other.map f ↔ grid.map g = other.map g := by
  induction grid generalizing other with
  | nil => simp
  | cons row rest ih =>
      cases other with
      | nil => simp
      | cons row' rest' =>
          simp only [List.map_cons, List.cons.injEq]
          refine and_congr (h row (by simp) row' (by simp))
            (ih fun first hfirst second hsecond => ?_)
          exact h first (List.mem_cons_of_mem _ hfirst) second (List.mem_cons_of_mem _ hsecond)

/-- The text tells what can be seen of the rows. -/
theorem toText_eq_iff (h : grid.FitsColumns width) (hother : other.FitsColumns width) :
    grid.toText (some width) = other.toText (some width) ↔
      grid.map Row.shown = other.map Row.shown := by
  have hlines : grid.toText (some width) = other.toText (some width) ↔
      grid.map (line width) = other.map (line width) := by
    constructor
    · intro htext
      rw [← splitOn_toText h, htext, splitOn_toText hother]
    · intro hmap
      exact congrArg (fun lines => String.ofList (['\n'].intercalate lines)) hmap
  rw [hlines]
  exact map_eq_map_iff fun row hrow row' hrow' =>
    line_eq_iff (h.cells row hrow) (hother.cells row' hrow')

/-- Every line is in columns. -/
theorem forall₂_inColumns (h : grid.FitsColumns width) :
    List.Forall₂ (Row.InColumns width) grid ((grid.toText (some width)).toList.splitOn '\n') := by
  rw [splitOn_toText h, List.forall₂_map_right_iff, List.forall₂_same]
  intro row hrow
  obtain ⟨count, hcount⟩ := exists_fill_line (h.cells row hrow)
  exact Row.inColumns_of_blocks (fun cell hcell => (h.cells row hrow cell hcell).short) count hcount

/-- The text of a grid whose cells fit into a width has one line per row, and every line is in
columns of that width. Such a text is that of another grid just when the rows look the same. Without
a given width the longest cell sets it; whether or not the cells hold blanks, the lines are then in
columns once the blanks that were cut off their ends are back, if no cell grows in upper case. -/
theorem toText_columns (grid : Grid) :
    (∀ width : Nat, grid.FitsColumns width →
      List.Forall₂ (Row.InColumns width) grid ((grid.toText (some width)).toList.splitOn '\n') ∧
      ∀ other : Grid, other.FitsColumns width →
        (grid.toText (some width) = other.toText (some width) ↔
          grid.map Row.shown = other.map Row.shown)) ∧
    (grid.FitsColumns grid.cellWidth →
      List.Forall₂ (Row.InColumns grid.cellWidth) grid
        ((grid.toText none).toList.splitOn '\n')) ∧
    ((∀ row ∈ grid, ∀ cell ∈ row, cell.upper.text.length ≤ grid.cellWidth) →
      List.Forall₂ (fun row line => ∃ cut, (∀ c ∈ cut, Text.isBlank c) ∧
        row.InColumns grid.cellWidth (line ++ cut)) grid (grid.lines none)) := by
  refine ⟨fun width h => ⟨forall₂_inColumns h, fun other => toText_eq_iff h⟩,
    fun h => forall₂_inColumns h, fun hshort => ?_⟩
  refine List.forall₂_map_right_iff.mpr (List.forall₂_same.mpr fun row hrow => ?_)
  obtain ⟨cut, hcut, hblank⟩ := exists_cut_line grid.cellWidth row
  refine ⟨cut, hblank, Row.inColumns_of_blocks (hshort row hrow) 0 ?_⟩
  rw [hcut]
  exact (List.append_nil _).symm

/-- Three rows, with empty cells inside, in front and at the end. -/
def stairs : Grid :=
  [[⟨"a"⟩, ⟨""⟩, ⟨"is"⟩, ⟨""⟩], [], [⟨""⟩, ⟨"of"⟩]]

/-- The same rows in upper case, with empty cells at other ends. -/
def stairsInCapitals : Grid :=
  [[⟨"A"⟩, ⟨""⟩, ⟨"IS"⟩], [⟨""⟩], [⟨""⟩, ⟨"OF"⟩, ⟨""⟩]]

theorem toText_columns_stairs :
    stairs.toText (some (2 : Nat)) = "A     IS\n\n   OF" ∧
      List.Forall₂ (Row.InColumns 2) stairs
        ((stairs.toText (some (2 : Nat))).toList.splitOn '\n') ∧
      stairs.toText (some (2 : Nat)) = stairsInCapitals.toText (some (2 : Nat)) ∧
      List.Forall₂ (Row.InColumns 2) stairs ((stairs.toText none).toList.splitOn '\n') := by
  have hstairs : stairs.FitsColumns 2 := by decide
  have hcapitals : stairsInCapitals.FitsColumns 2 := by decide
  have hwidest : stairs.cellWidth = 2 := rfl
  obtain ⟨hwidth, hdefault, -⟩ := toText_columns stairs
  rw [hwidest] at hdefault
  obtain ⟨hcolumns, hsame⟩ := hwidth 2 hstairs
  have hshown : stairs.map Row.shown = stairsInCapitals.map Row.shown := by decide
  exact ⟨by decide +kernel, hcolumns, (hsame stairsInCapitals hcapitals).mpr hshown,
    hdefault hstairs⟩

end Grid

end WordGrid
