/-!
# JSON values

The values that events carry and that documents are exchanged in. The fields of an object keep
the order in which they were written, and a number is an integer of any size or a double.
-/

namespace WordGrid

/-- A JSON value. -/
inductive Json where
  | null
  | bool (value : Bool)
  | integer (value : Int)
  | real (value : Float)
  | string (value : String)
  | array (items : List Json)
  | object (fields : List (String × Json))

namespace Json

/-- Write a field of an object. A field that is there already keeps its place. -/
def setField (fields : List (String × Json)) (name : String) (value : Json) :
    List (String × Json) :=
  if fields.any (·.1 == name) then
    fields.map fun field => if field.1 == name then (name, value) else field
  else fields ++ [(name, value)]

/-- The value of a field, if the value is an object that has it. -/
def field? (json : Json) (name : String) : Option Json :=
  match json with
  | .object fields => fields.lookup name
  | _ => none

/-- The fields of an object; any other value has none. -/
def fields : Json → List (String × Json)
  | .object fields => fields
  | _ => []

/-- The items of an array; any other value has none. -/
def items : Json → List Json
  | .array items => items
  | _ => []

/-- The text of a string. -/
def string? : Json → Option String
  | .string value => some value
  | _ => none

/-- The value of an integer. -/
def integer? : Json → Option Int
  | .integer value => some value
  | _ => none

/-- The value of an integer that is not negative. -/
def natural? : Json → Option Nat
  | .integer (.ofNat value) => some value
  | _ => none

/-- Is the value `true`, or a number other than zero? Anything else counts as unset. -/
def isSet : Json → Bool
  | .bool value => value
  | .integer value => value != 0
  | _ => false

/-- A text, or `null`. -/
def ofString? : Option String → Json
  | some text => .string text
  | none => .null

/-- A natural number, or `null`. -/
def ofNat? : Option Nat → Json
  | some value => .integer value
  | none => .null

end Json

end WordGrid
