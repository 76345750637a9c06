import Mathlib.Algebra.Group.Nat.Defs
import WordGrid.Picture.Painting
import WordGrid.Proofs.Results

/-!
# Painting without rounding

Places and sizes are computed with doubles, which are rounded and have a bound. With
`Arithmetic.exact` nothing is rounded, every number has room, and all cells can be drawn
(`Arithmetic.paintCells_exact_total`). Both painters draw the same as long as all places, counted in
32nds of a pixel, are below 2 to the 53rd power (`Arithmetic.paintCells_eq_of_isNear`).
-/

namespace WordGrid

namespace Arithmetic

/-- The arithmetic in which nothing is rounded. -/
def exact : Arithmetic :=
  ⟨id, none⟩

variable {settings : Settings} {available : Available}

/-! ## What a painter draws -/

section Marks

variable {arithmetic other : Arithmetic}

/-- A cell is drawn as a tile in its place, or as its lettering at its anchor. -/
theorem mark_of_paintCell {placed : PlacedCell} {shelf : Shelf} {mark : Mark}
    (h : (arithmetic.paintCell settings available placed shelf).1 = .ok mark) :
    (∃ path, mark = .tile path settings.cellSize (placed.corner settings.cellSize)) ∨
      ∃ anchor font fontSize fill spacing,
        arithmetic.anchor placed settings.cellSize = .ok anchor ∧
          mark = .text (Lettering.ofText placed.token).lines anchor font fontSize fill spacing := by
  unfold paintCell at h
  cases hfind : shelf.findTile available (placed.tileKey settings) with
  | mk found next =>
      rw [hfind] at h
      cases found with
      | some path => exact .inl ⟨path, (Except.ok.inj h).symm⟩
      | none =>
          cases hsize : arithmetic.fontSize settings placed with
          | error error =>
              simp only [hsize] at h
              cases h
          | ok fontSize =>
              simp only [hsize] at h
              obtain ⟨spacing, -, h⟩ := bind_eq_ok.mp h
              obtain ⟨anchor, hanchor, h⟩ := bind_eq_ok.mp h
              exact .inr ⟨anchor, _, fontSize, _, spacing, hanchor, (Except.ok.inj h).symm⟩

/-- Cells in a row are drawn one by one, each with the shelf as it then is. -/
theorem forall₂_of_paintCells {cells : List PlacedCell} {shelf : Shelf} {marks : List Mark}
    (h : (arithmetic.paintCells settings available cells shelf).1 = .ok marks) :
    List.Forall₂ (fun placed mark =>
        ∃ shelf, (arithmetic.paintCell settings available placed shelf).1 = .ok mark)
      cells marks := by
  induction cells generalizing shelf marks with
  | nil =>
      obtain rfl := Except.ok.inj h
      exact .nil
  | cons placed rest ih =>
      unfold paintCells at h
      cases hpaint : arithmetic.paintCell settings available placed shelf with
      | mk drawn next =>
          rw [hpaint] at h
          cases drawn with
          | error error => cases h
          | ok mark =>
              obtain ⟨others, hothers, rfl⟩ := map_eq_ok.mp h
              exact .cons ⟨shelf, congrArg Prod.fst hpaint⟩ (ih hothers)

/-- Cells in a row are all drawn if each is, whatever is on the shelf. -/
theorem paintCells_total {cells : List PlacedCell}
    (h : ∀ placed ∈ cells, ∀ shelf, ∃ mark,
      (arithmetic.paintCell settings available placed shelf).1 = .ok mark) (shelf : Shelf) :
    ∃ marks, (arithmetic.paintCells settings available cells shelf).1 = .ok marks := by
  induction cells generalizing shelf with
  | nil => exact ⟨[], rfl⟩
  | cons placed rest ih =>
      obtain ⟨mark, hmark⟩ := h placed List.mem_cons_self shelf
      unfold paintCells
      cases hpaint : arithmetic.paintCell settings available placed shelf with
      | mk drawn next =>
          rw [hpaint] at hmark
          obtain rfl : drawn = .ok mark := hmark
          have hrest := ih fun other hmem => h other (List.mem_cons_of_mem _ hmem)
          obtain ⟨marks, hmarks⟩ := hrest next
          exact ⟨mark :: marks, map_eq_ok.mpr ⟨marks, hmarks, rfl⟩⟩

/-- Two painters draw cells alike if they draw each alike. -/
theorem paintCells_congr {cells : List PlacedCell}
    (h : ∀ placed ∈ cells, arithmetic.paintCell settings available placed =
      other.paintCell settings available placed) (shelf : Shelf) :
    arithmetic.paintCells settings available cells shelf =
      other.paintCells settings available cells shelf := by
  induction cells generalizing shelf with
  | nil => rfl
  | cons placed rest ih =>
      have hrest := ih fun next hmem => h next (List.mem_cons_of_mem _ hmem)
      unfold paintCells
      rw [h placed List.mem_cons_self, funext hrest]

/-- Two painters draw a cell alike if they set texts alike. -/
theorem paintCell_congr {placed : PlacedCell}
    (hsize : arithmetic.fontSize settings placed = other.fontSize settings placed)
    (htext : arithmetic.textMark settings placed = other.textMark settings placed) :
    arithmetic.paintCell settings available placed =
      other.paintCell settings available placed := by
  funext shelf
  unfold paintCell
  rw [hsize, htext]

end Marks

/-! ## Nothing rounded -/

theorem scaled_exact (size cellSize : Nat) :
    exact.scaled size cellSize = .ok (roundQuotient (size * cellSize) 32) := rfl

theorem anchor_exact (placed : PlacedCell) (cellSize : Nat) :
    exact.anchor placed cellSize =
      .ok (16 * (2 * (placed.column * cellSize) + cellSize),
        32 * (placed.row * cellSize) + 15 * cellSize) := rfl

/-- Without rounding every cell can be drawn. -/
theorem paintCell_exact_total (placed : PlacedCell) (shelf : Shelf) :
    ∃ mark, (exact.paintCell settings available placed shelf).1 = .ok mark := by
  unfold paintCell
  cases shelf.findTile available (placed.tileKey settings) with
  | mk found next =>
      cases found with
      | some path => exact ⟨_, rfl⟩
      | none => exact ⟨_, rfl⟩

theorem paintCells_exact_total (cells : List PlacedCell) (shelf : Shelf) :
    ∃ marks, (exact.paintCells settings available cells shelf).1 = .ok marks :=
  paintCells_total (fun placed _ shelf => paintCell_exact_total placed shelf) shelf

/-! ## Where nothing would be rounded anyway -/

theorem hasRoom_iff {arithmetic : Arithmetic} {limit : Nat} (h : arithmetic.limit? = some limit)
    (parts value : Nat) : arithmetic.hasRoom parts value ↔ value < parts * limit := by
  simp [hasRoom, h]

theorem hasRoom_double (parts value : Nat) :
    double.hasRoom parts value ↔ value < parts * Precision.limit :=
  hasRoom_iff rfl parts value

/-- A number with up to 53 bits is not rounded. -/
theorem rounded_double_of_lt {value : Nat} (h : value < 2 ^ 53) : double.rounded value = value := by
  have hlog : value.log2 - 52 = 0 := by
    by_cases hzero : value = 0
    · rw [hzero]
      rfl
    · have hbits := (Nat.log2_lt hzero).mpr h
      omega
  change Precision.rounded value = value
  unfold Precision.rounded roundQuotient
  rw [hlog]
  simp [Nat.mod_one]

/-- A number with up to 53 bits has room. -/
theorem hasRoom_double_of_lt {parts value : Nat} (hparts : 0 < parts) (h : value < 2 ^ 53) :
    double.hasRoom parts value := by
  have hlimit : 2 ^ 53 ≤ Precision.limit := by
    unfold Precision.limit
    generalize hbits : 1024 = bits
    exact Nat.pow_le_pow_right (by decide) (by omega)
  rw [hasRoom_double]
  calc value < 2 ^ 53 := h
    _ ≤ Precision.limit := hlimit
    _ ≤ parts * Precision.limit := Nat.le_mul_of_pos_left _ hparts

theorem number_double_of_lt {value : Nat} (h : value < 2 ^ 53) :
    double.number value = .ok value := by
  rw [number, rounded_double_of_lt h, if_pos (hasRoom_double_of_lt Nat.one_pos h)]

theorem part_double_of_lt {parts cellSize : Nat} (hparts : 0 < parts) (h : cellSize < 2 ^ 53) :
    double.part parts cellSize = .ok cellSize := by
  rw [part, rounded_double_of_lt h, if_pos (hasRoom_double_of_lt hparts h)]

theorem scaled_eq_of_lt {size cellSize : Nat} (hsize : size ≤ 32) (h : 32 * cellSize < 2 ^ 53) :
    double.scaled size cellSize = exact.scaled size cellSize := by
  have hscale : double.part 32 cellSize = .ok cellSize := part_double_of_lt (by decide) (by omega)
  have hproduct : size * cellSize < 2 ^ 53 :=
    Nat.lt_of_le_of_lt (Nat.mul_le_mul_right cellSize hsize) h
  have hroom : double.hasRoom 32 (size * cellSize) := hasRoom_double_of_lt (by decide) hproduct
  rw [scaled_exact]
  refine bind_eq_ok.mpr ⟨cellSize, hscale, ?_⟩
  simp only [rounded_double_of_lt hproduct, if_pos hroom]
  rfl

/-- The cell is so near that no place in it, counted in 32nds of a pixel, is rounded. -/
def IsNear (cellSize : Nat) (placed : PlacedCell) : Prop :=
  32 * (placed.column * cellSize + cellSize) < 2 ^ 53 ∧
    32 * (placed.row * cellSize + cellSize) < 2 ^ 53

theorem anchor_eq_of_isNear {cellSize : Nat} {placed : PlacedCell} (h : IsNear cellSize placed) :
    double.anchor placed cellSize = exact.anchor placed cellSize := by
  obtain ⟨hcolumn, hrow⟩ := h
  have hpart : double.part 2 cellSize = .ok cellSize := part_double_of_lt (by decide) (by omega)
  have hleft : double.number (placed.column * cellSize) = .ok (placed.column * cellSize) :=
    number_double_of_lt (by omega)
  have hedge : double.number cellSize = .ok cellSize := number_double_of_lt (by omega)
  have htop : double.number (placed.row * cellSize) = .ok (placed.row * cellSize) :=
    number_double_of_lt (by omega)
  have hmiddle : double.rounded (2 * (placed.column * cellSize) + cellSize) =
    2 * (placed.column * cellSize) + cellSize := rounded_double_of_lt (by omega)
  have hdepth : double.rounded (15 * cellSize) = 15 * cellSize := rounded_double_of_lt (by omega)
  have hplace : double.rounded (32 * (placed.row * cellSize) + 15 * cellSize) =
    32 * (placed.row * cellSize) + 15 * cellSize := rounded_double_of_lt (by omega)
  rw [anchor_exact]
  refine bind_eq_ok.mpr ⟨_, hpart, bind_eq_ok.mpr ⟨_, hleft, bind_eq_ok.mpr ⟨_, hedge,
    bind_eq_ok.mpr ⟨_, htop, ?_⟩⟩⟩⟩
  simp only [hmiddle, hdepth, hplace]
  rfl

/-- The sizes of a lettering are those of a cell 32 pixels wide. -/
theorem sizes_le (text : String) :
    (Lettering.ofText text).fontSize ≤ 32 ∧ (Lettering.ofText text).lineHeight ≤ 32 := by
  unfold Lettering.ofText
  dsimp only
  repeat' split
  all_goals simp

theorem paintCell_eq_of_isNear {placed : PlacedCell} (h : IsNear settings.cellSize placed) :
    double.paintCell settings available placed = exact.paintCell settings available placed := by
  obtain ⟨hfont, hline⟩ := sizes_le placed.token
  have hnear := h.1
  have hscaled {size : Nat} (hsize : size ≤ 32) :
      double.scaled size settings.cellSize = exact.scaled size settings.cellSize :=
    scaled_eq_of_lt hsize (by omega)
  refine paintCell_congr ?_ ?_
  · rw [fontSize, fontSize, hscaled hfont]
  · funext font fontSize
    rw [textMark, textMark, hscaled (Nat.le_trans (Nat.sub_le _ _) hline), anchor_eq_of_isNear h]

theorem paintCells_eq_of_isNear {cells : List PlacedCell}
    (h : ∀ placed ∈ cells, IsNear settings.cellSize placed) (shelf : Shelf) :
    double.paintCells settings available cells shelf =
      exact.paintCells settings available cells shelf :=
  paintCells_congr (fun placed hmem => paintCell_eq_of_isNear (h placed hmem)) shelf

end Arithmetic

end WordGrid
