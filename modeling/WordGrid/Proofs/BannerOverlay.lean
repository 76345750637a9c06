import WordGrid.Layout.Banner

/-!
# The banner as an overlay

Writing the banner changes three rows, and those only behind their last cell. What a row becomes is
said once, in `Grid.getElem?_withBanner`; that no cell is lost or moved, and that the grid grows in
neither direction, follows from it. There is room for a banner only below a row that is longer than
the first four, so a grid that gets one has five rows (`Grid.five_le_length_of_room`), and the
banner itself takes up the room for a second one. Read `Grid.withBanner_overlays` first.
-/

namespace WordGrid

/-! ## Widths -/

/-- The largest of some numbers is bounded when each of them is. -/
theorem foldl_max_le_iff (numbers : List Nat) (start bound : Nat) :
    numbers.foldl max start ≤ bound ↔ start ≤ bound ∧ ∀ number ∈ numbers, number ≤ bound := by
  induction numbers generalizing start with
  | nil => simp
  | cons first rest ih =>
      rw [List.foldl_cons, ih, List.forall_mem_cons, ← and_assoc, Nat.max_le]

namespace Grid

/-- The width is the least number that no row is longer than. -/
theorem width_le_iff {grid : Grid} {bound : Nat} :
    grid.width ≤ bound ↔ ∀ row ∈ grid, row.length ≤ bound := by
  rw [width, foldl_max_le_iff]
  simp

theorem length_le_width {grid : Grid} {row : Row} (h : row ∈ grid) : row.length ≤ grid.width :=
  width_le_iff.mp (Nat.le_refl _) row h

/-- The cell of a grid in a row and a column. -/
def cell? (grid : Grid) (row column : Nat) : Option Cell := do
  (← grid[row]?)[column]?

end Grid

/-! ## What becomes of a row -/

namespace Row

theorem length_padded (row : Row) (length : Nat) :
    (row.padded length).length = max row.length length := by
  simp only [padded, List.length_append, List.length_replicate]
  omega

/-- A row that is filled up keeps its cells. -/
theorem getElem?_padded_left {row : Row} {length index : Nat} (h : index < row.length) :
    (row.padded length)[index]? = row[index]? :=
  List.getElem?_append_left h

/-- Behind its cells it is blank. -/
theorem getElem?_padded_right {row : Row} {length index : Nat} (hrow : row.length ≤ index)
    (hlength : index < length) : (row.padded length)[index]? = some Cell.blank := by
  rw [padded, List.getElem?_append_right hrow, List.getElem?_replicate_of_lt (by omega)]

/-- A row with a word of the banner in the last column. -/
def bannered (row : Row) (width : Nat) (word : Cell) : Row :=
  row.padded (width - 1) ++ [word]

theorem length_bannered {row : Row} {width : Nat} (word : Cell) (h : row.length + 1 < width) :
    (row.bannered width word).length = width := by
  rw [bannered, List.length_append, length_padded, List.length_singleton]
  omega

/-- The cells of a row keep their columns. -/
theorem getElem?_bannered_left {row : Row} {width index : Nat} (word : Cell)
    (h : index < row.length) : (row.bannered width word)[index]? = row[index]? := by
  have hindex : index < (row.padded (width - 1)).length := by
    rw [length_padded]
    omega
  rw [bannered, List.getElem?_append_left hindex, getElem?_padded_left h]

/-- The word stands in the last column. -/
theorem getElem?_bannered_last {row : Row} {width : Nat} (word : Cell)
    (h : row.length + 1 < width) : (row.bannered width word)[width - 1]? = some word := by
  have hlength : (row.padded (width - 1)).length = width - 1 := by
    rw [length_padded]
    omega
  rw [bannered, List.getElem?_append_right (Nat.le_of_eq hlength), hlength, Nat.sub_self]
  rfl

/-- The column before the word is blank. -/
theorem getElem?_bannered_gap {row : Row} {width : Nat} (word : Cell)
    (h : row.length + 1 < width) :
    (row.bannered width word)[width - 2]? = some Cell.blank := by
  have hindex : width - 2 < (row.padded (width - 1)).length := by
    rw [length_padded]
    omega
  rw [bannered, List.getElem?_append_left hindex,
    getElem?_padded_right (by omega) (by omega)]

end Row

namespace Grid

/-! ## Room for the banner -/

variable {grid : Grid}

theorem hasRoomForBanner_iff :
    grid.hasRoomForBanner ↔ 3 ≤ grid.length ∧ ∀ row ∈ grid.take 4, row.length + 1 < grid.width := by
  simp [hasRoomForBanner]

/-- The first four rows leave two columns to a longer row, so there is a fifth one. -/
theorem five_le_length_of_room (h : grid.hasRoomForBanner) : 5 ≤ grid.length := by
  obtain ⟨hthree, hshort⟩ := hasRoomForBanner_iff.mp h
  rcases Nat.lt_or_ge grid.length 5 with hfew | hmany
  · -- All rows are among the first four, so the longest is shorter than itself.
    rw [List.take_of_length_le (by omega)] at hshort
    have hwidth : grid.width ≤ grid.width - 2 := by
      refine width_le_iff.mpr fun row hrow => ?_
      have hlength := hshort row hrow
      omega
    obtain ⟨row, hrow⟩ := List.exists_mem_of_length_pos (show 0 < grid.length by omega)
    have hlength := hshort row hrow
    omega
  · exact hmany

/-- Each of the first four rows ends before the last two columns. -/
theorem length_of_room {index : Nat} {row : Row} (h : grid.hasRoomForBanner) (hindex : index < 4)
    (hrow : grid[index]? = some row) : row.length + 1 < grid.width := by
  refine (hasRoomForBanner_iff.mp h).2 row (List.mem_iff_getElem?.mpr ⟨index, ?_⟩)
  rw [List.getElem?_take_of_lt hindex, hrow]

/-! ## The banner in the grid -/

theorem withBanner_of_room (h : grid.hasRoomForBanner) :
    grid.withBanner =
      List.zipWith (fun row word => row.bannered grid.width word) grid bannerWords ++
        grid.drop 3 := by
  rw [withBanner, if_pos h]
  rfl

theorem withBanner_of_no_room (h : ¬ grid.hasRoomForBanner) : grid.withBanner = grid :=
  if_neg h

/-- What a row becomes: the first three get a word each, and the other rows stay. -/
def rowWithBanner (grid : Grid) (index : Nat) (row : Row) : Row :=
  match bannerWords[index]? with
  | some word => row.bannered grid.width word
  | none => row

theorem rowWithBanner_of_word {index : Nat} {word : Cell} (h : bannerWords[index]? = some word)
    (row : Row) : grid.rowWithBanner index row = row.bannered grid.width word := by
  rw [rowWithBanner, h]

theorem rowWithBanner_of_no_word {index : Nat} (h : 3 ≤ index) (row : Row) :
    grid.rowWithBanner index row = row := by
  rw [rowWithBanner, List.getElem?_eq_none (show bannerWords.length ≤ index from h)]

theorem getElem?_withBanner (h : grid.hasRoomForBanner) (index : Nat) :
    grid.withBanner[index]? = grid[index]?.map (grid.rowWithBanner index) := by
  have hlength : (List.zipWith (fun row word => row.bannered grid.width word) grid
      bannerWords).length = 3 := by
    have hthree := (hasRoomForBanner_iff.mp h).1
    rw [List.length_zipWith, show bannerWords.length = 3 from rfl]
    omega
  rw [withBanner_of_room h]
  by_cases hindex : index < 3
  · obtain ⟨word, hword⟩ : ∃ word, bannerWords[index]? = some word :=
      ⟨_, List.getElem?_eq_getElem (show index < bannerWords.length from hindex)⟩
    rw [List.getElem?_append_left (by omega), List.getElem?_zipWith, hword]
    cases grid[index]? with
    | none => rfl
    | some row => exact congrArg some (rowWithBanner_of_word hword row).symm
  · rw [List.getElem?_append_right (by omega), hlength, List.getElem?_drop,
      Nat.add_sub_cancel' (by omega)]
    cases grid[index]? with
    | none => rfl
    | some row => exact congrArg some (rowWithBanner_of_no_word (by omega) row).symm

/-- A row stays, or it ends before the last two columns and gets a word in the last one. -/
theorem rowWithBanner_cases {index : Nat} {row : Row} (h : grid.hasRoomForBanner)
    (hrow : grid[index]? = some row) :
    grid.rowWithBanner index row = row ∨
      ∃ word, row.length + 1 < grid.width ∧
        grid.rowWithBanner index row = row.bannered grid.width word := by
  cases hword : bannerWords[index]? with
  | none =>
      have hindex : bannerWords.length ≤ index := List.getElem?_eq_none_iff.mp hword
      exact .inl (rowWithBanner_of_no_word hindex row)
  | some word =>
      have hindex : index < bannerWords.length := (List.getElem?_eq_some_iff.mp hword).1
      have hshort := length_of_room h (Nat.lt_succ_of_lt hindex) hrow
      exact .inr ⟨word, hshort, rowWithBanner_of_word hword row⟩

/-- The rows below the banner stay. -/
theorem drop_withBanner (h : grid.hasRoomForBanner) : grid.withBanner.drop 3 = grid.drop 3 := by
  refine List.ext_getElem? fun index => ?_
  rw [List.getElem?_drop, List.getElem?_drop, getElem?_withBanner h]
  cases grid[3 + index]? with
  | none => rfl
  | some row => exact congrArg some (rowWithBanner_of_no_word (by omega) row)

theorem length_withBanner (h : grid.hasRoomForBanner) : grid.withBanner.length = grid.length := by
  have hthree := (hasRoomForBanner_iff.mp h).1
  rw [withBanner_of_room h, List.length_append, List.length_zipWith, List.length_drop,
    show bannerWords.length = 3 from rfl]
  omega

/-- The longest row of the grid is still the longest, and a row with a word is just as long. -/
theorem width_withBanner (h : grid.hasRoomForBanner) : grid.withBanner.width = grid.width := by
  refine Nat.le_antisymm (width_le_iff.mpr fun after hafter => ?_)
    (width_le_iff.mpr fun row hrow => ?_)
  · obtain ⟨index, hindex⟩ := List.mem_iff_getElem?.mp hafter
    rw [getElem?_withBanner h] at hindex
    obtain ⟨row, hrow, rfl⟩ := Option.map_eq_some_iff.mp hindex
    rcases rowWithBanner_cases h hrow with hsame | ⟨word, hshort, hword⟩
    · rw [hsame]
      exact length_le_width (List.mem_of_getElem? hrow)
    · rw [hword]
      exact Nat.le_of_eq (Row.length_bannered word hshort)
  · obtain ⟨index, hindex⟩ := List.mem_iff_getElem?.mp hrow
    have hafter : grid.withBanner[index]? = some (grid.rowWithBanner index row) := by
      rw [getElem?_withBanner h, hindex]
      rfl
    have hle := length_le_width (List.mem_of_getElem? hafter)
    rcases rowWithBanner_cases h hindex with hsame | ⟨word, hshort, hword⟩
    · rwa [hsame] at hle
    · rw [hword, Row.length_bannered word hshort] at hle
      omega

/-- Every cell keeps its row and its column. -/
theorem cell?_withBanner {index column : Nat} {cell : Cell} (h : grid.hasRoomForBanner)
    (hcell : grid.cell? index column = some cell) :
    grid.withBanner.cell? index column = some cell := by
  obtain ⟨row, hrow, hcolumn⟩ := Option.bind_eq_some_iff.mp hcell
  refine Option.bind_eq_some_iff.mpr ⟨grid.rowWithBanner index row, ?_, ?_⟩
  · rw [getElem?_withBanner h, hrow]
    rfl
  · rcases rowWithBanner_cases h hrow with hsame | ⟨word, _, hword⟩
    · rw [hsame, hcolumn]
    · have hinside : column < row.length := (List.getElem?_eq_some_iff.mp hcolumn).1
      rw [hword, Row.getElem?_bannered_left word hinside, hcolumn]

/-- A word of the banner stands in the last column, with a blank cell before it. -/
theorem cell?_of_word {index : Nat} {word : Cell} (h : grid.hasRoomForBanner)
    (hword : bannerWords[index]? = some word) :
    grid.withBanner.cell? index (grid.width - 1) = some word ∧
      grid.withBanner.cell? index (grid.width - 2) = some Cell.blank := by
  have hindex : index < bannerWords.length := (List.getElem?_eq_some_iff.mp hword).1
  have hthree : bannerWords.length ≤ grid.length := (hasRoomForBanner_iff.mp h).1
  obtain ⟨row, hrow⟩ : ∃ row, grid[index]? = some row :=
    ⟨_, List.getElem?_eq_getElem (Nat.lt_of_lt_of_le hindex hthree)⟩
  have hshort := length_of_room h (Nat.lt_succ_of_lt hindex) hrow
  have hafter : grid.withBanner[index]? = some (row.bannered grid.width word) := by
    rw [getElem?_withBanner h, hrow]
    exact congrArg some (rowWithBanner_of_word hword row)
  exact ⟨Option.bind_eq_some_iff.mpr ⟨_, hafter, Row.getElem?_bannered_last word hshort⟩,
    Option.bind_eq_some_iff.mpr ⟨_, hafter, Row.getElem?_bannered_gap word hshort⟩⟩

/-- There is no room for a second banner. -/
theorem not_hasRoomForBanner_withBanner (h : grid.hasRoomForBanner) :
    ¬ grid.withBanner.hasRoomForBanner := by
  intro hroom
  have hcell := (cell?_of_word h (show bannerWords[0]? = some ⟨"SOURCE"⟩ from rfl)).1
  obtain ⟨row, hrow, hcolumn⟩ := Option.bind_eq_some_iff.mp hcell
  have hshort := length_of_room hroom (by decide) hrow
  have hinside := (List.getElem?_eq_some_iff.mp hcolumn).1
  rw [width_withBanner h] at hshort
  omega

/-- The banner stands in the top right corner of a grid, and what is around it is blank. -/
structure ShowsBanner (grid : Grid) : Prop where
  rows : 5 ≤ grid.length
  columns : 2 ≤ grid.width
  first : grid.cell? 0 (grid.width - 1) = some ⟨"SOURCE"⟩
  second : grid.cell? 1 (grid.width - 1) = some ⟨"IS"⟩
  third : grid.cell? 2 (grid.width - 1) = some ⟨"VIEW"⟩
  before : ∀ index < 3, grid.cell? index (grid.width - 2) = some Cell.blank
  below : ∀ column, grid.width - 2 ≤ column → grid.cell? 3 column = none

theorem showsBanner_of_room (h : grid.hasRoomForBanner) : grid.withBanner.ShowsBanner := by
  have hrows := five_le_length_of_room h
  obtain ⟨row, hrow⟩ : ∃ row, grid[3]? = some row :=
    ⟨_, List.getElem?_eq_getElem (show 3 < grid.length by omega)⟩
  have hshort := length_of_room h (by decide) hrow
  have hafter : grid.withBanner[3]? = some row := by
    rw [getElem?_withBanner h, hrow]
    exact congrArg some (rowWithBanner_of_no_word (Nat.le_refl 3) row)
  have hwidth := width_withBanner h
  refine ⟨?_, ?_, ?_, ?_, ?_, ?_, ?_⟩
  · rwa [length_withBanner h]
  · omega
  · rw [hwidth]
    exact (cell?_of_word h rfl).1
  · rw [hwidth]
    exact (cell?_of_word h rfl).1
  · rw [hwidth]
    exact (cell?_of_word h rfl).1
  · intro index hindex
    rw [hwidth]
    have hword := List.getElem?_eq_getElem (show index < bannerWords.length from hindex)
    exact (cell?_of_word h hword).2
  · intro column hcolumn
    rw [hwidth] at hcolumn
    rw [cell?, hafter]
    exact List.getElem?_eq_none (by omega)

/-- The banner lies over a grid without harm: no cell is lost or moved, no row or column is added,
the rows below it stay, and it is not written twice. It changes a grid exactly when there are five
rows and the first four end before the last two columns, and it then stands in the top right corner
with blanks around it. -/
theorem withBanner_overlays (grid : Grid) :
    grid.withBanner.length = grid.length ∧
      grid.withBanner.width = grid.width ∧
      (∀ row column cell, grid.cell? row column = some cell →
        grid.withBanner.cell? row column = some cell) ∧
      grid.withBanner.drop 3 = grid.drop 3 ∧
      grid.withBanner.withBanner = grid.withBanner ∧
      (grid.withBanner ≠ grid ↔
        5 ≤ grid.length ∧ ∀ row ∈ grid.take 4, row.length + 2 ≤ grid.width) ∧
      (grid.withBanner ≠ grid → grid.withBanner.ShowsBanner) := by
  by_cases hroom : grid.hasRoomForBanner
  · have hagain := not_hasRoomForBanner_withBanner hroom
    refine ⟨length_withBanner hroom, width_withBanner hroom,
      fun row column cell => cell?_withBanner hroom, drop_withBanner hroom,
      withBanner_of_no_room hagain, ?_, fun _ => showsBanner_of_room hroom⟩
    refine iff_of_true (fun hsame => ?_)
      ⟨five_le_length_of_room hroom, (hasRoomForBanner_iff.mp hroom).2⟩
    rw [hsame] at hagain
    exact hagain hroom
  · have hsame := withBanner_of_no_room hroom
    refine ⟨by rw [hsame], by rw [hsame], fun row column cell hcell => by rwa [hsame],
      by rw [hsame], by rw [hsame, hsame], ?_, fun hchanged => absurd hsame hchanged⟩
    refine iff_of_false (fun hchanged => hchanged hsame) fun hfree => hroom ?_
    exact hasRoomForBanner_iff.mpr ⟨by omega, hfree.2⟩

/-- Five rows of which only the last one reaches the last two columns. -/
def tallAndNarrow : Grid :=
  [[], [⟨"A"⟩], [⟨"B"⟩], [], [⟨"C"⟩, ⟨"IS"⟩, ⟨"STRUCT"⟩]]

theorem withBanner_overlays_tallAndNarrow :
    tallAndNarrow.withBanner =
        [[⟨""⟩, ⟨""⟩, ⟨"SOURCE"⟩], [⟨"A"⟩, ⟨""⟩, ⟨"IS"⟩], [⟨"B"⟩, ⟨""⟩, ⟨"VIEW"⟩], [],
          [⟨"C"⟩, ⟨"IS"⟩, ⟨"STRUCT"⟩]] ∧
      tallAndNarrow.withBanner.withBanner = tallAndNarrow.withBanner ∧
      tallAndNarrow.withBanner.ShowsBanner := by
  obtain ⟨-, -, -, -, hagain, hchanges, hshows⟩ := withBanner_overlays tallAndNarrow
  exact ⟨rfl, hagain, hshows (hchanges.mpr (by decide))⟩

end Grid

end WordGrid
