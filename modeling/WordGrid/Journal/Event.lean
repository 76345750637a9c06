import WordGrid.Json.Writer

/-!
# Events

An event has a severity, a name and data. It is recorded as one line of JSON if its severity
reaches the level of the journal.
-/

namespace WordGrid

/-- How serious an event is. -/
inductive Severity where
  | debug
  | info
  | warning
  deriving DecidableEq, Repr

namespace Severity

/-- The name that a severity is recorded under. -/
def name : Severity → String
  | .debug => "DEBUG"
  | .info => "INFO"
  | .warning => "WARNING"

/-- The word that asks for an event of a severity. -/
def word : Severity → String
  | .debug => "debug"
  | .info => "info"
  | .warning => "warning"

/-- The level that a severity reaches. -/
def level : Severity → Int
  | .debug => 10
  | .info => 20
  | .warning => 30

end Severity

/-- Something that happened, with data in the order in which it is written. -/
structure Event where
  severity : Severity
  name : String
  data : List (String × Json) := []

/-- The line that records an event. An event without data has no field for it. -/
def Event.message (event : Event) : String :=
  let data := if event.data.isEmpty then [] else [("data", Json.object event.data)]
  Json.write (.object (("event", .string event.name) :: data))

/-- A recorded event: the name of its severity and its line. -/
structure Record where
  severity : String
  message : String
  deriving DecidableEq, Repr

end WordGrid
