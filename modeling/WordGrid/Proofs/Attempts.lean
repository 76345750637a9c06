import WordGrid.Proofs.Notices

/-!
# Things tried one by one

The bindings of a property and the elements of a case are tried one after the other. A drop costs
the thing that is tried and is told in a notice; every other failure escapes and ends the whole
declaration. While nothing escapes, the neighbours of what is dropped are as if it had not been
there (`Progress.reading_attempts`); what escapes first is the failure of the declaration
(`Progress.result_attempts_eq_error`).
-/

namespace WordGrid

/-- The failure of a result, unless it is a drop. -/
def escape? {α : Type} : Except Failure α → Option Failure
  | .error (.drop _) => none
  | .error failure => some failure
  | .ok _ => none

/-- The notice that tells of a drop, if the result is one. -/
def dropNotice? {α : Type} (subject : Attempt) : Except Failure α → Option Notice
  | .error (.drop cause) => some (.dropped subject cause)
  | .error _ => none
  | .ok _ => none

theorem escape?_map {α β : Type} (change : α → β) (result : Except Failure α) :
    escape? (result.map change) = escape? result := by
  rcases result with (cause | error | error) | value <;> rfl

theorem dropNotice?_map {α β : Type} (subject : Attempt) (change : α → β)
    (result : Except Failure α) :
    dropNotice? subject (result.map change) = dropNotice? subject result := by
  rcases result with (cause | error | error) | value <;> rfl

namespace Progress

/-- To try a result is to keep its entities, to tell of a drop, or to end. -/
theorem attempt_ofResult (subject : Attempt) (result : Except Failure (List Entity)) :
    attempt subject (.ofResult result) =
      ⟨result.toOption.getD [], (dropNotice? subject result).toList, escape? result⟩ := by
  rcases result with (cause | error | error) | entities <;> rfl

variable {α : Type} {items : List α} {subject : α → Attempt}
  {result : α → Except Failure (List Entity)}

/-- What is tried in a row while nothing escapes. -/
theorem concat_attempts (h : ∀ item ∈ items, escape? (result item) = none) :
    concat (items.map fun item => attempt (subject item) (.ofResult (result item))) =
      ⟨items.flatMap fun item => (result item).toOption.getD [],
        items.filterMap fun item => dropNotice? (subject item) (result item), none⟩ := by
  induction items with
  | nil => rfl
  | cons first rest ih =>
      obtain ⟨hfirst, hrest⟩ := List.forall_mem_cons.mp h
      rw [List.map_cons, concat, ih hrest, attempt_ofResult, hfirst, append, List.flatMap_cons,
        List.filterMap_cons]
      cases dropNotice? (subject first) (result first) <;> rfl

/-- What is tried in a row is ended by what escapes first. -/
theorem abort_concat_attempts :
    (concat (items.map fun item => attempt (subject item) (.ofResult (result item)))).abort =
      items.findSome? fun item => escape? (result item) := by
  induction items with
  | nil => rfl
  | cons first rest ih =>
      rw [List.map_cons, concat, attempt_ofResult, List.findSome?_cons, append]
      cases escape? (result first) with
      | none => exact ih
      | some failure => rfl

/-- While nothing escapes, every thing gives its own entities, or a notice that it is dropped. -/
theorem reading_attempts (h : ∀ item ∈ items, escape? (result item) = none) :
    (concat (items.map fun item => attempt (subject item) (.ofResult (result item)))).reading =
      ⟨items.filterMap fun item => dropNotice? (subject item) (result item),
        .ok (items.flatMap fun item => (result item).toOption.getD [])⟩ := by
  rw [concat_attempts h]
  rfl

/-- A failure is that of the first thing from which one escapes. -/
theorem result_attempts_eq_error {failure : Failure} :
    (concat (items.map fun item =>
        attempt (subject item) (.ofResult (result item)))).reading.result = .error failure ↔
      items.findSome? (fun item => escape? (result item)) = some failure := by
  rw [reading_eq_error, abort_concat_attempts]

end Progress

end WordGrid
