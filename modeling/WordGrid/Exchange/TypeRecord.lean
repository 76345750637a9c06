import WordGrid.Exchange.Field
import WordGrid.Layout.EntityRows

/-!
# Type records

A type expression is exchanged as a record with a kind, a name, a result and arguments. The name
is read of named types only and the result of function types only; a record of another kind may
carry them without effect. A record is checked from the inside out: its result, its arguments,
and then the record itself.
-/

namespace WordGrid

/-- The kinds of type records. -/
inductive TypeKind where
  | named
  | any
  | head (head : Head)
  | inout
  | function
  deriving DecidableEq, Repr

namespace TypeKind

/-- The word of a kind. -/
def word : TypeKind → String
  | .named => "named"
  | .any => "any"
  | .head .existential => "existential"
  | .head .optional => "optional"
  | .head .unwrapped => "iuo"
  | .head .array => "array"
  | .head .dictionary => "dictionary"
  | .head .tuple => "tuple"
  | .inout => "inout"
  | .function => "function"

/-- All kinds, in the order in which they are listed. -/
def all : List TypeKind :=
  [.named, .any, .head .existential, .head .optional, .head .unwrapped, .head .array,
    .head .dictionary, .head .tuple, .inout, .function]

end TypeKind

namespace TypeExpr

/-- Put a type expression together from the parts of a record. -/
def ofParts (kind : TypeKind) (name : Option String) (result : Option TypeExpr)
    (arguments : List TypeExpr) : Except ShapeError TypeExpr :=
  match kind, result, arguments with
  | .named, _, arguments => named? (name.getD "") arguments
  | .any, _, arguments => .ok (.any arguments)
  | .head head, _, arguments => .ok (.compound head arguments)
  | .inout, _, [wrapped] => .ok (.inout wrapped)
  | .inout, _, _ => .error .inoutCount
  | .function, some result, parameters => .ok (.function parameters result)
  | .function, none, _ => .error .noResult

mutual

/-- Read a type record. -/
def ofJson : Json → Except Invalid TypeExpr
  | .object fields => do
      let result ← resultOfFields fields
      let arguments ← argumentsOfFields fields
      let record := Json.object fields
      let (kind, name) ← Exchange.both
        (Exchange.choice record "kind" TypeKind.all TypeKind.word)
        (Exchange.optionalText record "name")
      (ofParts kind name result arguments).mapError fun error => Invalid.whole error.message
  | _ => .error (Invalid.field "" "Input should be a valid dictionary")

/-- Read the result of a type record; a missing or null one is no result. -/
def resultOfFields : List (String × Json) → Except Invalid (Option TypeExpr)
  | [] => .ok none
  | (field, value) :: rest =>
      if field == "returning" then
        match value with
        | .null => .ok none
        | value => (ofJson value).map some
      else resultOfFields rest

/-- Read the arguments of a type record. -/
def argumentsOfFields : List (String × Json) → Except Invalid (List TypeExpr)
  | [] => .ok []
  | (field, value) :: rest =>
      if field == "arguments" then
        match value with
        | .array items => ofItems items
        | _ => .ok []
      else argumentsOfFields rest

/-- Read type records from left to right. -/
def ofItems : List Json → Except Invalid (List TypeExpr)
  | [] => .ok []
  | item :: rest => do
      let type ← ofJson item
      let types ← ofItems rest
      return type :: types

end

/-- Read a type record of which only the kind and the arguments count, without checking its
shape. A type that is passed in and out must still wrap exactly one type to be laid out. -/
def ofUncheckedJson (record : Json) : Except Invalid (Except LayoutError TypeExpr) := do
  let arguments ← argumentsOfFields record.fields
  let (kind, _) ← Exchange.both
    (Exchange.choice record "kind" TypeKind.all TypeKind.word) (.ok ())
  return (ofParts kind none none arguments).mapError fun _ => .inoutCount

mutual

/-- Write a type record. -/
def toJson : TypeExpr → Json
  | .named name arguments =>
      .object ([("kind", .string "named"), ("name", .string name)] ++
        Exchange.nonEmpty "arguments" (toItems arguments))
  | .any arguments =>
      .object (("kind", .string "any") :: Exchange.nonEmpty "arguments" (toItems arguments))
  | .compound head arguments =>
      .object (("kind", .string (TypeKind.head head).word) ::
        Exchange.nonEmpty "arguments" (toItems arguments))
  | .inout wrapped => .object [("kind", .string "inout"), ("arguments", .array [wrapped.toJson])]
  | .function parameters result =>
      .object ([("kind", .string "function"), ("returning", result.toJson)] ++
        Exchange.nonEmpty "arguments" (toItems parameters))

/-- Write type records from left to right. -/
def toItems : List TypeExpr → List Json
  | [] => []
  | type :: rest => type.toJson :: toItems rest

end

end TypeExpr

namespace Exchange

mutual

/-- A type record with only the fields that are set: no null name or result, no empty list. -/
def tidyType : Json → Json
  | .object fields => .object (tidyFields fields)
  | json => json

/-- The fields of a type record that are set. -/
def tidyFields : List (String × Json) → List (String × Json)
  | [] => []
  | (field, value) :: rest =>
      if field == "returning" then
        match value with
        | .null => tidyFields rest
        | value => (field, tidyType value) :: tidyFields rest
      else if field == "arguments" then
        match value with
        | .array [] => tidyFields rest
        | .array items => (field, .array (tidyItems items)) :: tidyFields rest
        | _ => tidyFields rest
      else
        match value with
        | .null => tidyFields rest
        | value =>
            if field == "kind" || field == "name" then (field, value) :: tidyFields rest
            else tidyFields rest

/-- Type records with only the fields that are set. -/
def tidyItems : List Json → List Json
  | [] => []
  | item :: rest => tidyType item :: tidyItems rest

end

end Exchange

end WordGrid
