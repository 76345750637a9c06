import WordGrid.Node

/-!
# Forms of types

The grammar of Swift has a kind of node for every way to write a type. `TypeForm` sorts them by
what is read off them. The parts of a type node are its components, the types it wraps, or the
marks of an optional.
-/

namespace WordGrid

/-- The ways to write a type. -/
inductive TypeForm where
  | user
  | array
  | dictionary
  | optional
  | tuple
  | function
  /-- A composition of protocols, or a type after `any`. -/
  | existential
  /-- A type that has no summary, such as a metatype or an opaque type. -/
  | unsupported
  deriving DecidableEq, Repr

/-- The form of a kind of node, if nodes of the kind are types. -/
def TypeForm.ofKind? : String → Option TypeForm
  | "user_type" => some .user
  | "array_type" => some .array
  | "dictionary_type" => some .dictionary
  | "optional_type" => some .optional
  | "tuple_type" => some .tuple
  | "function_type" => some .function
  | "protocol_composition_type" => some .existential
  | "existential_type" => some .existential
  | "opaque_type" => some .unsupported
  | "metatype" => some .unsupported
  | "type_pack_expansion" => some .unsupported
  | "type_parameter_pack" => some .unsupported
  | "suppressed_constraint" => some .unsupported
  | _ => none

namespace Node

/-- The form of a node that is a type. -/
def typeForm? (node : Node) : Option TypeForm :=
  TypeForm.ofKind? node.kind

/-- Is the node a type? -/
def isType (node : Node) : Bool :=
  node.typeForm?.isSome

/-- Is the node an identifier? -/
def isIdentifier (node : Node) : Bool :=
  node.isOneOf ["simple_identifier", "type_identifier"]

/-- The only node of a list, if there is no other and it is a simple identifier. -/
def soleName? : List Node → Option Node
  | [name] => if name.kind == "simple_identifier" then some name else none
  | _ => none

/-- The named children that are types: the element of an array, the key and value of a
dictionary, the members of a composition. -/
def wrappedTypes (node : Node) : List Node :=
  node.namedChildren.filter isType

/-- The first named child that is a type. -/
def firstType? (node : Node) : Option Node :=
  node.namedChildren.find? isType

/-- The number of question marks on an optional type, at least one. Several marks may be one
token. -/
def optionalDepth (node : Node) : Nat :=
  let tokens := node.children.filter (!·.isNamed)
  max 1 ((tokens.flatMap fun token => token.kind.toList).count '?')

end Node

/-- A part of a dotted type name with its generic arguments. -/
structure Component where
  name : String
  arguments : List Node

/-- Read components off a list of nodes: each identifier starts one, and the argument lists up to
the next identifier belong to it. -/
def Component.ofNodes : List Node → List Component
  | [] => []
  | node :: rest =>
      if node.isIdentifier then
        let own := rest.takeWhile (!·.isIdentifier)
        let lists := own.filter (Node.isOneOf ["type_arguments"])
        ⟨node.text, lists.flatMap Node.wrappedTypes⟩ :: Component.ofNodes rest
      else Component.ofNodes rest

/-- The parts of a dotted type name. -/
def Node.components (node : Node) : List Component :=
  Component.ofNodes node.namedChildren

end WordGrid
