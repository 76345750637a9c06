import WordGrid.Entity
import WordGrid.Exchange.TypeRecord

/-!
# Entity records

Requirements, predicates and entities as records. The parts of a record are read before the
record itself: of a requirement its two sides, of an entity its children, its requirements and its
predicates.
-/

namespace WordGrid

/-- The word of a relation. -/
def Relation.word : Relation → String
  | .equals => "equals"
  | .conforms => "isa"

namespace Requirement

/-- Read a requirement record. -/
def ofJson (record : Json) : Except Invalid Requirement := do
  let left ← TypeExpr.ofJson ((record.field? "type_a").getD .null)
  let right ← TypeExpr.ofJson ((record.field? "type_b").getD .null)
  let (relation, _) ← Exchange.both
    (Exchange.choice record "kind" [.equals, .conforms] Relation.word) (.ok ())
  return ⟨left, relation, right⟩

/-- Write a requirement record. -/
def toJson (requirement : Requirement) : Json :=
  .object [("type_a", requirement.left.toJson), ("kind", .string requirement.relation.word),
    ("type_b", requirement.right.toJson)]

end Requirement

/-- Read the name of a descriptor. -/
def Descriptor.ofJson (json : Json) : Except Invalid Descriptor :=
  match json with
  | .string name => .ok ⟨name⟩
  | _ => .error (Invalid.field "name" "Input should be a valid string")

namespace Argument

/-- Read an argument: a record with the one field that says what it is. -/
def ofJson (record : Json) : Except Invalid Argument :=
  match record.field? "type", record.field? "requirement", record.field? "descriptor" with
  | some json, _, _ => (TypeExpr.ofJson json).map .type
  | none, some json, _ => (Requirement.ofJson json).map .requirement
  | none, none, json => (Descriptor.ofJson (json.getD .null)).map .descriptor

/-- Write an argument. -/
def toJson : Argument → Json
  | .type value => .object [("type", value.toJson)]
  | .requirement value => .object [("requirement", value.toJson)]
  | .descriptor value => .object [("descriptor", .string value.name)]

end Argument

namespace Predicate

/-- Read a predicate record. -/
def ofJson (record : Json) : Except Invalid Predicate := do
  let arguments ← ((record.field? "arguments").getD .null).items.mapM Argument.ofJson
  let (name, _) ← Exchange.both (Exchange.requiredText record "name") (.ok ())
  return ⟨name, arguments⟩

/-- Write a predicate record. -/
def toJson (predicate : Predicate) : Json :=
  .object [("name", .string predicate.name),
    ("arguments", .array (predicate.arguments.map Argument.toJson))]

end Predicate

/-- All kinds of entities, in the order in which they are listed. -/
def EntityKind.all : List EntityKind :=
  [.struct, .classType, .enum, .protocol, .associatedType, .typeAlias, .importing, .function,
    .initializer, .constant, .mutable, .enumCase, .subscript, .deinitializer, .extension]

namespace Entity

mutual

/-- Read an entity record. -/
def ofJson : Json → Except Invalid Entity
  | .object fields => do
      let record := Json.object fields
      let list := fun field => ((record.field? field).getD .null).items
      let children ← childrenOfFields fields
      let requirements ← (list "generic_requirements").mapM Requirement.ofJson
      let predicates ← (list "predicates").mapM Predicate.ofJson
      let descriptors ← (list "descriptors").mapM Descriptor.ofJson
      let (name, kind) ← Exchange.both
        (Exchange.requiredText record "name")
        (Exchange.choice record "kind" EntityKind.all EntityKind.keyword)
      let genericArguments := (list "generic_arguments").filterMap Json.string?
      return ⟨name, kind, genericArguments, children, descriptors, requirements, predicates⟩
  | _ => .error (Invalid.field "" "Input should be a valid dictionary")

/-- Read the children of an entity record. -/
def childrenOfFields : List (String × Json) → Except Invalid (List Entity)
  | [] => .ok []
  | (field, value) :: rest =>
      if field == "children" then
        match value with
        | .array items => ofItems items
        | _ => .ok []
      else childrenOfFields rest

/-- Read entity records from left to right. -/
def ofItems : List Json → Except Invalid (List Entity)
  | [] => .ok []
  | item :: rest => do
      let entity ← ofJson item
      let entities ← ofItems rest
      return entity :: entities

end

mutual

/-- Write an entity record. -/
def toJson : Entity → Json
  | ⟨name, kind, genericArguments, children, descriptors, requirements, predicates⟩ =>
      .object ([("name", .string name), ("kind", .string kind.keyword)] ++
        Exchange.nonEmpty "generic_arguments" (genericArguments.map Json.string) ++
        Exchange.nonEmpty "children" (toItems children) ++
        Exchange.nonEmpty "descriptors"
          (descriptors.map fun descriptor => Json.string descriptor.name) ++
        Exchange.nonEmpty "generic_requirements" (requirements.map Requirement.toJson) ++
        Exchange.nonEmpty "predicates" (predicates.map Predicate.toJson))

/-- Write entity records from left to right. -/
def toItems : List Entity → List Json
  | [] => []
  | entity :: rest => entity.toJson :: toItems rest

end

end Entity

namespace Grid

/-- Read a grid: an array of rows, each an array of texts. -/
def ofJson (json : Json) : Grid :=
  json.items.map fun row => row.items.filterMap fun cell => cell.string?.map Cell.mk

/-- Write a row. -/
def rowToJson (row : Row) : Json :=
  .array (row.map fun cell => .string cell.text)

/-- Write a grid. -/
def toJson (grid : Grid) : Json :=
  .array (grid.map rowToJson)

end Grid

end WordGrid
