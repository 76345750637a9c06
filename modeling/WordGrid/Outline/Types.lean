import WordGrid.Failure
import WordGrid.Grammar.Slot

/-!
# Reading types

`Node.typeExpr` reads the type expression off a type node. Its one step, `typeStep`, is given the
reader for the types inside; the reader is that step repeated as often as the tree is high. A slot
adds its marks to the type it holds, and an inherited type may also be the word `class`.
-/

namespace WordGrid

/-- A reader of type expressions. -/
abbrev TypeReader := Node → Except Failure TypeExpr

namespace TypeSlot

/-- Add the marks of a slot to the type it holds: first `!`, then `inout`. -/
def mark (slot : TypeSlot) (type : TypeExpr) : TypeExpr :=
  let type := if slot.unwrapped then .compound .unwrapped [type] else type
  if slot.inout then .inout type else type

/-- Read the type of a slot. If there is no slot, its owner is incomplete. -/
def read (reader : TypeReader) (owner : Option Node) : Option TypeSlot → Except Failure TypeExpr
  | none => .error (.incompleteSource owner)
  | some slot => do
      let type ← reader slot.node
      return slot.mark type

end TypeSlot

/-- Read a component of a type name as a named type. -/
def Component.read (reader : TypeReader) (component : Component) : Except Failure TypeExpr := do
  let arguments ← component.arguments.mapM reader
  (TypeExpr.named? component.name arguments).mapError .shape

/-- Read a type node, given a reader for the types inside it. -/
def typeStep (reader : TypeReader) (node : Node) : Except Failure TypeExpr :=
  match node.typeForm? with
  | some .user =>
      match node.components with
      | [component] => component.read reader
      | _ => .error (.unsupportedType node)
  | some .array =>
      match node.wrappedTypes with
      | [element] => do
          let element ← reader element
          return .compound .array [element]
      | _ => .error (.unsupportedType node)
  | some .dictionary =>
      match node.wrappedTypes with
      | [key, value] => do
          let key ← reader key
          let value ← reader value
          return .compound .dictionary [key, value]
      | _ => .error (.unsupportedType node)
  | some .optional =>
      match node.wrappedTypes with
      | [wrapped] => do
          let wrapped ← reader wrapped
          return wrapped.optionalTimes node.optionalDepth
      | _ => .error (.unsupportedType node)
  | some .tuple => do
      let elements ← node.elementSlots.mapM (TypeSlot.read reader none)
      return .compound .tuple elements
  | some .function =>
      match node.functionSlots?, node.functionResult? with
      | some slots, some result => do
          let parameters ← slots.mapM (TypeSlot.read reader none)
          let result ← reader result
          return .function (if parameters.isEmpty then [.compound .tuple []] else parameters) result
      | _, _ => .error (.unsupportedType node)
  | some .existential => do
      let members ← node.wrappedTypes.mapM reader
      return .compound .existential members
  | some .unsupported => .error (.unsupportedType node)
  | none => .error (.unsupportedType node)

/-- Read a type node down to a depth. What lies deeper is not supported. -/
def typeToDepth : Nat → TypeReader
  | 0 => fun node => .error (.unsupportedType node)
  | depth + 1 => typeStep (typeToDepth depth)

namespace Node

/-- The type expression of a type node. The height of the tree is depth enough for every type
inside it. -/
def typeExpr (node : Node) : Except Failure TypeExpr :=
  typeToDepth node.height node

/-- The type expression of an entry of an inheritance clause. The word `class` there means any
class type. -/
def inheritedType (node : Node) : Except Failure TypeExpr :=
  if Text.trim node.text == "class" then .ok (.named "AnyObject" [])
  else if node.isType then node.typeExpr
  else TypeSlot.read typeExpr (some node) node.slot?

end Node

/-- The type expression of a slot that belongs to an owner. -/
def TypeSlot.typeExpr (owner : Option Node) (slot : Option TypeSlot) : Except Failure TypeExpr :=
  TypeSlot.read Node.typeExpr owner slot

end WordGrid
