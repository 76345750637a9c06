import WordGrid.Journal.Event
import WordGrid.Text.Quoted

/-!
# Journal levels

The level of a journal decides which events it records. Level zero sets none of its own, so the
level of warnings applies.
-/

namespace WordGrid

/-- The least level that a journal records. -/
structure Level where
  value : Int
  deriving DecidableEq, Repr

namespace Level

/-- The level that a journal starts with: that of warnings. -/
def initial : Level := ⟨30⟩

/-- The level of a name. -/
def ofName? : String → Option Level
  | "CRITICAL" => some ⟨50⟩
  | "FATAL" => some ⟨50⟩
  | "ERROR" => some ⟨40⟩
  | "WARN" => some ⟨30⟩
  | "WARNING" => some ⟨30⟩
  | "INFO" => some ⟨20⟩
  | "DEBUG" => some ⟨10⟩
  | "NOTSET" => some ⟨0⟩
  | _ => none

/-- The level that applies. -/
def effective (level : Level) : Int :=
  if level.value == 0 then initial.value else level.value

/-- Is an event of this severity recorded? -/
def records (level : Level) (severity : Severity) : Bool :=
  level.effective ≤ severity.level

/-- What a journal of this level records of some events. -/
def record (level : Level) (events : List Event) : List Record :=
  (events.filter (level.records ·.severity)).map fun event =>
    ⟨event.severity.name, event.message⟩

end Level

/-- What a journal is told: to change its level, by name or by number, or to take an event. -/
inductive JournalStep where
  | setName (name : String)
  | setValue (value : Int)
  | tell (event : Event)

/-- Why a journal refuses a step: the name is no level, or the data of an event uses a name that
is taken. -/
inductive JournalError where
  | unknownLevel (name : String)
  | takenName (severity : Severity) (name : String)
  deriving DecidableEq, Repr

/-- The wording of why a step is refused. -/
def JournalError.message : JournalError → String
  | .unknownLevel name => "Unknown level: " ++ Text.quoted name
  | .takenName severity name =>
      "SivLogger." ++ severity.word ++ "() got multiple values for argument " ++ Text.quoted name

/-- The first name in the data of an event that is taken: by the journal itself or by the name of
the event. -/
def Event.takenName? (event : Event) : Option String :=
  (event.data.map Prod.fst).find? ["cls", "event_type"].contains

namespace Level

/-- What a step does to a journal: its level afterwards and what it records. A step that is refused
leaves the level as it is, and an event can be refused at every level. -/
def step (level : Level) : JournalStep → Level × Except JournalError (List Record)
  | .setName name =>
      match ofName? name with
      | some next => (next, .ok [])
      | none => (level, .error (.unknownLevel name))
  | .setValue value => (⟨value⟩, .ok [])
  | .tell event =>
      match event.takenName? with
      | some name => (level, .error (.takenName event.severity name))
      | none => (level, .ok (level.record [event]))

/-- What steps do one after the other. -/
def steps (level : Level) : List JournalStep → List (Level × Except JournalError (List Record))
  | [] => []
  | first :: rest =>
      let outcome := level.step first
      outcome :: outcome.1.steps rest

end Level

end WordGrid
