import WordGrid.Proofs.Joining

/-!
# Lists outside of closures

The parameters of a function type stand between `CLOSUR` and `TO`, so these two words pair up like
brackets. The closure depth of a row is the number of closures that are open at its end.
`Row.Nested` describes the rows in which closures are paired up, and tells whether `OF` occurs
outside of all of them. The cells of a type are such a row, and the flag is the one that says
whether a type ends in a list of arguments (`TypeExpr.cells_nested`). Read
`TypeExpr.trailing_iff_opensList` first.
-/

namespace WordGrid

/-- Opens the parameters of a function type. -/
def Cell.closureWord : Cell := ⟨"CLOSUR"⟩

namespace Row

/-- The number of closures that a row opens less the number of those that it closes. -/
def closureDepth (row : Row) : Int :=
  row.count Cell.closureWord - row.count Cell.toWord

/-- A row opens a list where no closure is open. -/
def OpensList (row : Row) : Prop :=
  ∃ position : Nat, row[position]? = some Cell.ofWord ∧ closureDepth (row.take position) = 0

/-- No closure is closed before it is opened, and every closure is closed in the end. -/
structure IsBalanced (row : Row) : Prop where
  nonneg (position : Nat) : 0 ≤ closureDepth (row.take position)
  closed : closureDepth row = 0

/-- The rows in which closures are paired up. The flag tells whether `OF` occurs outside of them. -/
inductive Nested : Bool → Row → Prop where
  | nil : Nested false []
  | cell {opens : Bool} {cell : Cell} {rest : Row} :
      cell ≠ Cell.closureWord → cell ≠ Cell.toWord → Nested opens rest →
      Nested (cell == Cell.ofWord || opens) (cell :: rest)
  | closure {inner opens : Bool} {parameters rest : Row} :
      Nested inner parameters → Nested opens rest →
      Nested opens (Cell.closureWord :: (parameters ++ Cell.toWord :: rest))

/-! ## Depths -/

theorem closureDepth_nil : closureDepth [] = 0 := rfl

theorem closureDepth_cons {cell : Cell} (rest : Row) (hclosure : cell ≠ Cell.closureWord)
    (hto : cell ≠ Cell.toWord) : closureDepth (cell :: rest) = closureDepth rest := by
  simp [closureDepth, List.count_cons_of_ne hclosure, List.count_cons_of_ne hto]

theorem closureDepth_closure (rest : Row) :
    closureDepth (Cell.closureWord :: rest) = closureDepth rest + 1 := by
  have hto : Cell.closureWord ≠ Cell.toWord := by decide
  simp only [closureDepth, List.count_cons_self, List.count_cons_of_ne hto]
  omega

theorem closureDepth_to (rest : Row) :
    closureDepth (Cell.toWord :: rest) = closureDepth rest - 1 := by
  have hclosure : Cell.toWord ≠ Cell.closureWord := by decide
  simp only [closureDepth, List.count_cons_self, List.count_cons_of_ne hclosure]
  omega

theorem closureDepth_append (first second : Row) :
    closureDepth (first ++ second) = closureDepth first + closureDepth second := by
  simp only [closureDepth, List.count_append]
  omega

/-- A place in a closure is a place in its parameters, one deeper, or a place behind it. -/
theorem closureDepth_take_closure {parameters : Row} (h : parameters.IsBalanced) (rest : Row)
    (position : Nat) :
    closureDepth ((Cell.closureWord :: (parameters ++ Cell.toWord :: rest)).take (position + 1)) =
      if position ≤ parameters.length then closureDepth (parameters.take position) + 1
      else closureDepth (rest.take (position - parameters.length - 1)) := by
  rw [List.take_succ_cons, closureDepth_closure, List.take_append, closureDepth_append]
  split
  · next hle =>
    rw [Nat.sub_eq_zero_of_le hle, List.take_zero, closureDepth_nil]
    omega
  · next hlt =>
    obtain ⟨behind, hbehind⟩ : ∃ behind, position - parameters.length = behind + 1 :=
      ⟨position - parameters.length - 1, by omega⟩
    rw [hbehind, List.take_succ_cons, closureDepth_to, List.take_of_length_le (by omega), h.closed,
      Nat.add_sub_cancel]
    omega

/-- A cell outside of closures opens a list if it is `OF`, and otherwise the rest may open one. -/
theorem opensList_cons {cell : Cell} (rest : Row) (hclosure : cell ≠ Cell.closureWord)
    (hto : cell ≠ Cell.toWord) :
    OpensList (cell :: rest) ↔ cell = Cell.ofWord ∨ OpensList rest := by
  constructor
  · rintro ⟨position, hcell, hdepth⟩
    cases position with
    | zero => exact .inl (Option.some.inj hcell)
    | succ position =>
        rw [List.take_succ_cons, closureDepth_cons _ hclosure hto] at hdepth
        exact .inr ⟨position, hcell, hdepth⟩
  · rintro (rfl | ⟨position, hcell, hdepth⟩)
    · exact ⟨0, rfl, rfl⟩
    · refine ⟨position + 1, hcell, ?_⟩
      rwa [List.take_succ_cons, closureDepth_cons _ hclosure hto]

/-- A list inside a closure is not opened outside of it. -/
theorem opensList_closure {parameters : Row} (h : parameters.IsBalanced) (rest : Row) :
    OpensList (Cell.closureWord :: (parameters ++ Cell.toWord :: rest)) ↔ OpensList rest := by
  have hbehind (position : Nat) :
      (parameters ++ Cell.toWord :: rest)[parameters.length + (position + 1)]? =
        rest[position]? := by
    rw [List.getElem?_append_right (by omega), Nat.add_sub_cancel_left, List.getElem?_cons_succ]
  constructor
  · rintro ⟨position, hcell, hdepth⟩
    cases position with
    | zero => exact absurd (Option.some.inj hcell) (by decide)
    | succ position =>
        rw [closureDepth_take_closure h] at hdepth
        split at hdepth
        · have hinner := h.nonneg position
          omega
        · obtain ⟨behind, rfl⟩ : ∃ behind, position = parameters.length + (behind + 1) :=
            ⟨position - parameters.length - 1, by omega⟩
          rw [List.getElem?_cons_succ, hbehind] at hcell
          rw [Nat.add_sub_cancel_left, Nat.add_sub_cancel] at hdepth
          exact ⟨behind, hcell, hdepth⟩
  · rintro ⟨position, hcell, hdepth⟩
    refine ⟨parameters.length + (position + 1) + 1, ?_, ?_⟩
    · rwa [List.getElem?_cons_succ, hbehind]
    · rwa [closureDepth_take_closure h, if_neg (by omega), Nat.add_sub_cancel_left,
        Nat.add_sub_cancel]

namespace Nested

/-- Closures that are paired up are balanced. -/
theorem isBalanced {opens : Bool} {row : Row} (h : Nested opens row) : row.IsBalanced := by
  induction h with
  | nil => exact ⟨fun position => by simp [closureDepth], rfl⟩
  | cell hclosure hto _ ih =>
      refine ⟨fun position => ?_, (closureDepth_cons _ hclosure hto).trans ih.closed⟩
      cases position with
      | zero => exact Int.le_refl 0
      | succ position =>
          rw [List.take_succ_cons, closureDepth_cons _ hclosure hto]
          exact ih.nonneg position
  | closure _ _ hparameters hrest =>
      refine ⟨fun position => ?_, ?_⟩
      · cases position with
        | zero => exact Int.le_refl 0
        | succ position =>
            rw [closureDepth_take_closure hparameters]
            split
            · have hinner := hparameters.nonneg position
              omega
            · exact hrest.nonneg _
      · rw [closureDepth_closure, closureDepth_append, closureDepth_to, hparameters.closed,
          hrest.closed]
        rfl

/-- The flag tells whether a list is opened outside of all closures. -/
theorem opensList_iff {opens : Bool} {row : Row} (h : Nested opens row) :
    opens = true ↔ OpensList row := by
  induction h with
  | nil => simp [OpensList]
  | cell hclosure hto _ ih =>
      rw [opensList_cons _ hclosure hto, ← ih, Bool.or_eq_true, beq_iff_eq]
  | closure hparameters _ _ ih => rw [opensList_closure hparameters.isBalanced, ih]

/-- A row may be followed by another one. -/
theorem append {first second : Bool} {row next : Row} (h : Nested first row)
    (hnext : Nested second next) : Nested (first || second) (row ++ next) := by
  induction h with
  | nil => exact hnext
  | cell hclosure hto _ ih =>
      rw [Bool.or_assoc]
      exact .cell hclosure hto ih
  | closure hparameters _ _ ih =>
      rw [List.cons_append, List.append_assoc]
      exact .closure hparameters ih

/-- `OF` in front of a row opens a list. -/
theorem list {opens : Bool} {rest : Row} (h : Nested opens rest) :
    Nested true (Cell.ofWord :: rest) := by
  have hclosure : Cell.ofWord ≠ Cell.closureWord := by decide
  have hto : Cell.ofWord ≠ Cell.toWord := by decide
  exact .cell hclosure hto h

/-- A word without a meaning of its own may stand in front of a row. -/
theorem word {opens : Bool} {cell : Cell} {rest : Row}
    (hcell : cell ∉ [Cell.ofWord, Cell.toWord, Cell.closureWord]) (h : Nested opens rest) :
    Nested opens (cell :: rest) := by
  simp only [List.mem_cons, List.not_mem_nil, or_false, not_or] at hcell
  obtain ⟨hof, hto, hclosure⟩ := hcell
  have hflag : (cell == Cell.ofWord || opens) = opens := by simp [hof]
  exact hflag ▸ .cell hclosure hto h

end Nested

end Row

/-! ## Types -/

/-- What stands between two phrases opens no list. -/
theorem Phrase.separator_nested (phrase : Phrase) : Row.Nested false phrase.separator := by
  unfold Phrase.separator
  split
  · exact .word (by decide) (.word (by decide) .nil)
  · exact .word (by decide) .nil

namespace TypeExpr

mutual

/-- Is no name in a type one of these words, and no type in it `any`? -/
def isFreeOf (words : List String) : TypeExpr → Bool
  | .named name arguments => !words.contains name && areFreeOf words arguments
  | .any _ => false
  | .compound _ arguments => areFreeOf words arguments
  | .inout wrapped => wrapped.isFreeOf words
  | .function parameters result => areFreeOf words parameters && result.isFreeOf words

/-- Are all types of a list free of these words? -/
def areFreeOf (words : List String) : List TypeExpr → Bool
  | [] => true
  | type :: rest => type.isFreeOf words && areFreeOf words rest

end

/-- The words that lists and closures are told by. -/
def nestingWords : List String :=
  ["OF", "TO", "CLOSUR"]

/-- A list of arguments is opened by `OF` unless it is empty. -/
theorem arguments_nested {opens : Bool} {arguments : List TypeExpr}
    (h : Row.Nested opens (Phrase.join (phrases arguments))) :
    Row.Nested (!arguments.isEmpty) (Phrase.arguments (phrases arguments)) := by
  cases arguments with
  | nil => exact .nil
  | cons first rest => exact h.list

mutual

/-- The cells of a type have their closures paired up, and open a list outside of them exactly if
the type is marked as ending in one. -/
theorem cells_nested : (type : TypeExpr) → type.isFreeOf nestingWords →
    Row.Nested type.trailing type.cells
  | .named name arguments, h => by
      rw [isFreeOf, Bool.and_eq_true] at h
      obtain ⟨opens, hjoin⟩ := join_nested arguments h.2
      have hname : (⟨name⟩ : Cell) ∉ [Cell.ofWord, Cell.toWord, Cell.closureWord] := by
        simpa [nestingWords, Cell.ofWord, Cell.toWord, Cell.closureWord] using h.1
      exact .word hname (arguments_nested hjoin)
  | .any _, h => by simp [isFreeOf] at h
  | .compound head arguments, h => by
      obtain ⟨opens, hjoin⟩ := join_nested arguments h
      have hhead (bare : Bool) :
          head.cell bare ∉ [Cell.ofWord, Cell.toWord, Cell.closureWord] := by
        cases head <;> cases bare <;> decide
      exact .word (hhead _) (arguments_nested hjoin)
  | .inout wrapped, h => .word (by decide) (cells_nested wrapped h)
  | .function parameters result, h => by
      rw [isFreeOf, Bool.and_eq_true] at h
      obtain ⟨opens, hjoin⟩ := join_nested parameters h.1
      exact .closure hjoin.list (cells_nested result h.2)

/-- The joined cells of several types have their closures paired up. -/
theorem join_nested : (types : List TypeExpr) → areFreeOf nestingWords types →
    ∃ opens, Row.Nested opens (Phrase.join (phrases types))
  | [], _ => ⟨false, .nil⟩
  | [last], h => by
      rw [areFreeOf, Bool.and_eq_true] at h
      exact ⟨_, cells_nested last h.1⟩
  | first :: next :: rest, h => by
      rw [areFreeOf, Bool.and_eq_true] at h
      obtain ⟨opens, hrest⟩ := join_nested (next :: rest) h.2
      rw [join_cons_cons, afterFirst]
      exact ⟨_, (cells_nested first h.1).append (first.phrase.separator_nested.append hrest)⟩

end

/-- A type without `any` and without misleading names is marked as ending in a list exactly if its
cells have an `OF` outside of all closures. In these cells no closure is closed before it is opened,
and every closure is closed in the end. -/
theorem trailing_iff_opensList (type : TypeExpr) (h : type.isFreeOf nestingWords) :
    (type.trailing = true ↔ ∃ position : Nat, type.cells[position]? = some Cell.ofWord ∧
      Row.closureDepth (type.cells.take position) = 0) ∧
    (∀ position : Nat, 0 ≤ Row.closureDepth (type.cells.take position)) ∧
    Row.closureDepth type.cells = 0 :=
  have hnested := type.cells_nested h
  ⟨hnested.opensList_iff, hnested.isBalanced.nonneg, hnested.isBalanced.closed⟩

/-- `([A]) -> (inout B<C>) -> D`: every list stands in a closure. -/
def curried : TypeExpr :=
  .function [.compound .array [.named "A" []]]
    (.function [.inout (.named "B" [.named "C" []])] (.named "D" []))

/-- The lists in the parameters of a curried function are not lists that its type ends in. -/
theorem trailing_iff_opensList_curried :
    curried.isFreeOf nestingWords ∧ Cell.ofWord ∈ curried.cells ∧
      ¬ Row.OpensList curried.cells := by
  have h : curried.isFreeOf nestingWords := by decide
  refine ⟨h, by decide, fun hopens => ?_⟩
  exact absurd ((trailing_iff_opensList curried h).1.mpr hopens) (by decide)

end TypeExpr

end WordGrid
