import WordGrid.Entity
import WordGrid.Journal.Notice

/-!
# Readings and progress

A reading is a computation on a syntax tree that may fail and that gives notices on the way.
Progress is what a walk over a tree has collected: entities, notices, and the failure that ended
the walk, if one did. `Progress.append` goes on after a walk that was not ended, and
`Progress.attempt` turns a drop into a notice.
-/

namespace WordGrid

/-- The result of a computation with the notices that it gave. -/
structure Reading (α : Type) where
  notices : List Notice
  result : Except Failure α

namespace Reading

/-- A reading that gives a value and no notice. -/
protected def pure {α : Type} (value : α) : Reading α :=
  ⟨[], .ok value⟩

/-- Go on with the value of a reading. A failed reading stays as it is. -/
protected def bind {α β : Type} (reading : Reading α) (next : α → Reading β) : Reading β :=
  match reading.result with
  | .ok value =>
      let rest := next value
      ⟨reading.notices ++ rest.notices, rest.result⟩
  | .error failure => ⟨reading.notices, .error failure⟩

instance : Monad Reading where
  pure := Reading.pure
  bind := Reading.bind

/-- A result that gives no notice. -/
def ofResult {α : Type} (result : Except Failure α) : Reading α :=
  ⟨[], result⟩

instance : MonadLift (Except Failure) Reading where
  monadLift := ofResult

end Reading

/-- What a walk has collected. -/
structure Progress where
  entities : List Entity
  notices : List Notice
  abort : Option Failure

namespace Progress

/-- Nothing collected yet. -/
def empty : Progress :=
  ⟨[], [], none⟩

/-- What two walks collect one after the other. If the first was ended, the second does not
happen. -/
def append (first second : Progress) : Progress :=
  match first.abort with
  | none =>
      ⟨first.entities ++ second.entities, first.notices ++ second.notices, second.abort⟩
  | some _ => first

/-- What several walks collect one after the other. -/
def concat : List Progress → Progress
  | [] => empty
  | first :: rest => first.append (concat rest)

/-- All that a walk has collected, or the failure that ended it. -/
def reading (progress : Progress) : Reading (List Entity) :=
  match progress.abort with
  | none => ⟨progress.notices, .ok progress.entities⟩
  | some failure => ⟨progress.notices, .error failure⟩

/-- Try to summarise something. A drop leaves nothing but a notice; any other failure ends the
walk. -/
def attempt (subject : Attempt) (reading : Reading (List Entity)) : Progress :=
  match reading.result with
  | .ok entities => ⟨entities, reading.notices, none⟩
  | .error (.drop cause) => ⟨[], reading.notices ++ [.dropped subject cause], none⟩
  | .error failure => ⟨[], reading.notices, some failure⟩

end Progress

end WordGrid
