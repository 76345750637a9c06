import Mathlib.Data.List.DropRight
import WordGrid.Proofs.Blocks

/-!
# The fillers at the end of a grid

The longest run of filler rows at the end of a grid loses its fillers, and the rows above it stay.
What counts as a filler row, and what becomes of it, is said here without the function that does it:
`Row.IsFiller` and `Row.withoutFiller`. The loop that goes through a grid by position, from the last
row up, does the same (`Grid.sweep_length`). Read `Grid.collapseFillers_longest_suffix` first.
-/

namespace WordGrid

/-! ## Filler rows -/

namespace Row

/-- The row has nothing but one filler. -/
def IsLoneFiller (row : Row) : Prop :=
  row = [Cell.ellipsis] ∨ row = [Cell.andWord]

instance (row : Row) : Decidable row.IsLoneFiller :=
  inferInstanceAs (Decidable (_ ∨ _))

/-- The row only fills a gap: it has nothing but one filler, or it starts with an ellipsis. -/
def IsFiller (row : Row) : Prop :=
  row.IsLoneFiller ∨ row.head? = some Cell.ellipsis

instance (row : Row) : Decidable row.IsFiller :=
  inferInstanceAs (Decidable (_ ∨ _))

/-- A filler row without its filler: a lone filler leaves nothing, and an ellipsis in front of
other cells leaves a blank. -/
def withoutFiller (row : Row) : Row :=
  if row.IsLoneFiller then [] else Cell.blank :: row.tail

/-- Filler rows lose their filler, and other rows are no fillers. -/
theorem blanked?_eq (row : Row) :
    row.blanked? = if row.IsFiller then some row.withoutFiller else none := by
  match row with
  | [] => rfl
  | [cell] =>
      by_cases hellipsis : cell = Cell.ellipsis
      · subst hellipsis
        rfl
      · by_cases hand : cell = Cell.andWord
        · subst hand
          rfl
        · simp [blanked?, IsFiller, IsLoneFiller, Cell.isFiller, hellipsis, hand]
  | cell :: next :: rest =>
      by_cases hellipsis : cell = Cell.ellipsis
      · simp [blanked?, IsFiller, withoutFiller, IsLoneFiller, hellipsis]
      · simp [blanked?, IsFiller, IsLoneFiller, hellipsis]

theorem blanked?_eq_none_iff {row : Row} : row.blanked? = none ↔ ¬ row.IsFiller := by
  rw [blanked?_eq]
  split <;> simp_all

theorem IsFiller.blanksTo {row : Row} (h : row.IsFiller) : row.BlanksTo row.withoutFiller := by
  rw [BlanksTo, blanked?_eq, if_pos h]

/-- What becomes of a filler row is no filler row. -/
theorem not_isFiller_withoutFiller (row : Row) : ¬ row.withoutFiller.IsFiller := by
  have hellipsis : Cell.blank ≠ Cell.ellipsis := by decide
  have hand : Cell.blank ≠ Cell.andWord := by decide
  unfold withoutFiller
  split
  · simp [IsFiller, IsLoneFiller]
  · simp [IsFiller, IsLoneFiller, hellipsis, hand]

/-- Only a lone filler makes a row shorter. -/
theorem IsFiller.length_withoutFiller {row : Row} (h : row.IsFiller) (hlone : ¬ row.IsLoneFiller) :
    row.withoutFiller.length = row.length := by
  obtain ⟨rest, rfl⟩ : ∃ rest, row = Cell.ellipsis :: rest :=
    List.head?_eq_some_iff.mp (h.resolve_left hlone)
  rw [withoutFiller, if_neg hlone]
  rfl

end Row

namespace Grid

/-! ## Two parts of a grid -/

/-- The last row, if there is one, is no filler row. -/
def EndsInContent (grid : Grid) : Prop :=
  ∀ row ∈ grid.getLast?, ¬ row.IsFiller

variable {keep tail : Grid}

/-- Every grid ends in filler rows below a part that does not end in one. -/
theorem exists_fillers (grid : Grid) :
    ∃ keep tail : Grid, grid = keep ++ tail ∧ keep.EndsInContent ∧ ∀ row ∈ tail, row.IsFiller := by
  refine ⟨grid.rdropWhile (fun row => decide row.IsFiller),
    grid.rtakeWhile (fun row => decide row.IsFiller), ?_, ?_, ?_⟩
  · exact List.rdropWhile_append_rtakeWhile.symm
  · intro row hrow
    obtain ⟨hne, rfl⟩ := List.mem_getLast?_eq_getLast hrow
    simpa using List.rdropWhile_last_not _ _ hne
  · intro row hrow
    simpa using List.mem_rtakeWhile_imp hrow

/-- The filler rows below such a part are the longest run at the end. -/
theorem EndsInContent.suffix_of_isFiller (h : keep.EndsInContent) {suffix : Grid}
    (hsuffix : suffix <:+ keep ++ tail) (hfillers : ∀ row ∈ suffix, row.IsFiller) :
    suffix <:+ tail := by
  rcases List.suffix_or_suffix_of_suffix hsuffix (List.suffix_append keep tail) with
    hshort | ⟨front, rfl⟩
  · exact hshort
  · -- Whatever the run has beyond the tail ends with the last row of the part above.
    obtain ⟨above, hsplit⟩ := hsuffix
    have hkeep : keep = above ++ front := by
      rw [← List.append_assoc] at hsplit
      exact (List.append_cancel_right hsplit).symm
    rcases List.eq_nil_or_concat front with rfl | ⟨others, row, rfl⟩
    · exact List.suffix_refl tail
    · have hlast : row ∈ keep.getLast? := by simp [hkeep]
      exact absurd (hfillers row (by simp)) (h row hlast)

/-! ## Blanking -/

theorem forall₂_blanksTo (h : ∀ row ∈ tail, row.IsFiller) :
    List.Forall₂ Row.BlanksTo tail (tail.map Row.withoutFiller) := by
  rw [List.forall₂_map_right_iff, List.forall₂_same]
  exact fun row hrow => (h row hrow).blanksTo

/-- A grid that does not end in a filler row stays as it is. -/
theorem EndsInContent.collapseFillers_eq (h : keep.EndsInContent) :
    keep.collapseFillers = keep := by
  rcases List.eq_nil_or_concat keep with rfl | ⟨front, row, rfl⟩
  · rfl
  · rw [List.concat_eq_append]
    exact collapseFillers_of_blanked?_none (Row.blanked?_eq_none_iff.mpr (h row (by simp))) front

/-- The filler rows at the end lose their fillers. -/
theorem EndsInContent.collapseFillers_append (h : keep.EndsInContent)
    (hfillers : ∀ row ∈ tail, row.IsFiller) :
    collapseFillers (keep ++ tail) = keep ++ tail.map Row.withoutFiller := by
  rw [Grid.collapseFillers_append (forall₂_blanksTo hfillers), h.collapseFillers_eq]

/-- When the fillers at the end are blanked, the last row is no filler row. -/
theorem EndsInContent.append_withoutFiller (h : keep.EndsInContent) (tail : Grid) :
    EndsInContent (keep ++ tail.map Row.withoutFiller) := by
  rcases List.eq_nil_or_concat tail with rfl | ⟨others, last, rfl⟩
  · simpa using h
  · intro row hrow
    obtain rfl : last.withoutFiller = row := by simpa using hrow
    exact last.not_isFiller_withoutFiller

/-- Row by row, only lone fillers become shorter. -/
theorem forall₂_length_collapseFillers (grid : Grid) :
    List.Forall₂ (fun row after => ¬ row.IsLoneFiller → after.length = row.length)
      grid grid.collapseFillers := by
  obtain ⟨keep, tail, rfl, hkeep, hfillers⟩ := grid.exists_fillers
  rw [hkeep.collapseFillers_append hfillers]
  refine List.rel_append ?_ ?_
  · exact List.forall₂_same.mpr fun _ _ _ => rfl
  · rw [List.forall₂_map_right_iff, List.forall₂_same]
    exact fun row hrow hlone => (hfillers row hrow).length_withoutFiller hlone

/-! ## The loop by position -/

/-- Go through a grid from a position up to the first row, and take the filler out of every filler
row. The first row that is none ends the loop. The number counts the rows that are still to come. -/
def sweep : Nat → Grid → Grid
  | 0, grid => grid
  | position + 1, grid =>
      match grid[position]? with
      | some row =>
          if row.IsFiller then sweep position (grid.set position row.withoutFiller) else grid
      | none => grid

/-- What the loop has left behind stays, and the rows still to come are blanked as a grid of their
own. -/
theorem sweep_append (front done : Grid) :
    sweep front.length (front ++ done) = front.collapseFillers ++ done := by
  induction front using List.reverseRecOn generalizing done with
  | nil => rfl
  | append_singleton front row ih =>
      have hrow : (front ++ [row] ++ done)[front.length]? = some row := by simp
      rw [List.length_append, List.length_singleton, sweep, hrow]
      by_cases hfiller : row.IsFiller
      · have hset : (front ++ [row] ++ done).set front.length row.withoutFiller =
            front ++ row.withoutFiller :: done := by simp
        have hblanks := Grid.collapseFillers_append
          (forall₂_blanksTo (List.forall_mem_singleton.mpr hfiller)) front
        simp only [if_pos hfiller, hset, ih]
        rw [hblanks, List.append_assoc]
        rfl
      · simp only [if_neg hfiller]
        rw [collapseFillers_of_blanked?_none (Row.blanked?_eq_none_iff.mpr hfiller)]

theorem sweep_length (grid : Grid) : sweep grid.length grid = grid.collapseFillers := by
  simpa using sweep_append grid []

/-- A grid is cut in two: below, the longest run of filler rows at its end, and above, the rest. The
rest stays and the filler rows lose their fillers. So no row is added or removed, only lone fillers
become shorter, and doing it again changes nothing. The loop by position gives the same grid. -/
theorem collapseFillers_longest_suffix (grid : Grid) :
    ∃ keep tail : Grid, grid = keep ++ tail ∧
      (∀ row ∈ tail, row.IsFiller) ∧
      (∀ suffix, suffix <:+ grid → (∀ row ∈ suffix, row.IsFiller) → suffix <:+ tail) ∧
      grid.collapseFillers = keep ++ tail.map Row.withoutFiller ∧
      grid.collapseFillers.length = grid.length ∧
      List.Forall₂ (fun row after => ¬ row.IsLoneFiller → after.length = row.length)
        grid grid.collapseFillers ∧
      grid.collapseFillers.collapseFillers = grid.collapseFillers ∧
      sweep grid.length grid = grid.collapseFillers := by
  obtain ⟨keep, tail, rfl, hkeep, hfillers⟩ := grid.exists_fillers
  have hblanked := hkeep.collapseFillers_append hfillers
  refine ⟨keep, tail, rfl, hfillers, ?_, hblanked, length_collapseFillers _,
    forall₂_length_collapseFillers _, ?_, sweep_length _⟩
  · exact fun suffix hsuffix => hkeep.suffix_of_isFiller hsuffix
  · rw [hblanked]
    exact (hkeep.append_withoutFiller tail).collapseFillers_eq

-- The first filler stands above a row with content, so it stays.
example : Grid.collapseFillers [[⟨"AND"⟩], [⟨"A"⟩], [⟨"…"⟩, ⟨"B"⟩], [⟨"…"⟩], [⟨"AND"⟩]] =
    [[⟨"AND"⟩], [⟨"A"⟩], [⟨""⟩, ⟨"B"⟩], [], []] := by
  decide

end Grid

end WordGrid
