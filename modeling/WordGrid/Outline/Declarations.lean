import WordGrid.Outline.Modifiers
import WordGrid.Outline.Reading
import WordGrid.Outline.Requirements

/-!
# Reading declarations

One function per form of declaration, each giving the entities of a declaration or the failure
that drops it. The parts of a declaration are read in a fixed order, so the first part that cannot
be read decides the failure. The members of a type are read elsewhere and handed in.
-/

namespace WordGrid

/-- Where a declaration stands: whether imports are summarised, and whether it is a member. -/
structure Scope where
  imports : Bool
  nested : Bool
  deriving DecidableEq, Repr

/-- The form of a kind of node in a scope. Imports are declarations only if they are wanted. -/
def Scope.declForm? (scope : Scope) (kind : String) : Option DeclForm :=
  match DeclForm.ofKind? kind with
  | some .importing => if scope.imports then some .importing else none
  | form => form

/-- A predicate that is left out when it has no arguments. -/
def Predicate.unlessEmpty (predicate : Predicate) : List Predicate :=
  if predicate.arguments.isEmpty then [] else [predicate]

/-- The kind of a type declaration with a keyword. -/
def EntityKind.ofNominalKeyword? : String → Option EntityKind
  | "struct" => some .struct
  | "class" => some .classType
  | "enum" => some .enum
  | "protocol" => some .protocol
  | _ => none

/-- The kind of a property declaration with a keyword. -/
def EntityKind.ofBindingKeyword? : String → Option EntityKind
  | "var" => some .mutable
  | "let" => some .constant
  | _ => none

namespace Node

/-- The name of a declaration that must have one. -/
def declaredName (node : Node) : Except Failure String :=
  match node.identifier? with
  | some name => .ok name
  | none => .error (.incompleteSource (some node))

/-- The predicate that says what a declaration inherits, if it has an inheritance clause. -/
def inheritance (node : Node) : Except Failure (List Predicate) :=
  match node.inheritedTypes? with
  | none => .ok []
  | some entries => do
      let types ← entries.mapM inheritedType
      return [.ofTypes "ISA" types]

/-- The types of the parameters of a declaration. -/
def parameterTypes (node : Node) : Except Failure (List TypeExpr) :=
  node.parameters.mapM fun parameter => TypeSlot.typeExpr (some parameter) parameter.slot?

/-- The labels of the parameters, each with a colon after it. -/
def parameterLabels (node : Node) : String :=
  String.join (node.parameters.map fun parameter => parameter.parameterLabel ++ ":")

/-- An extension. It may only stand outside of other declarations, and only a type with a name
can be shown as extended. -/
def extensionEntities (scope : Scope) (members : Reading (List Entity)) (node : Node) :
    Reading (List Entity) := do
  if scope.nested then Reading.ofResult (.error (.unexpectedValue node))
  else
    let predicates ← Reading.ofResult node.inheritance
    let children ← members
    match node.extendedType? with
    | none => Reading.ofResult (.error (.incompleteSource (some node)))
    | some extended =>
        match ← Reading.ofResult extended.typeExpr with
        | .named name _ => return [⟨name, .extension, [], children, [], [], predicates⟩]
        | _ => return []

/-- A type with members. -/
def nominalEntity (kind : EntityKind) (members : Reading (List Entity)) (node : Node) :
    Reading (List Entity) := do
  let name ← Reading.ofResult node.declaredName
  let requirements ← Reading.ofResult node.requirements
  let predicates ← Reading.ofResult node.inheritance
  let children ← members
  return [⟨name, kind, node.genericArguments, children, node.descriptors, requirements, predicates⟩]

/-- A type declaration or an extension, by its keyword. -/
def nominalEntities (scope : Scope) (members : Reading (List Entity)) (node : Node) :
    Reading (List Entity) :=
  match node.nominalKeyword? with
  | some "extension" => node.extensionEntities scope members
  | some keyword =>
      match EntityKind.ofNominalKeyword? keyword with
      | some kind => node.nominalEntity kind members
      | none => .ofResult (.error (.unexpectedValue node))
  | none => .ofResult (.error (.unexpectedValue node))

/-- A function. -/
def functionEntity (node : Node) : Except Failure Entity := do
  let name ← node.declaredName
  let requirements ← node.requirements
  let parameters ← node.parameterTypes
  let result ← node.returnSlot?.toList.mapM fun slot => TypeSlot.typeExpr (some node) (some slot)
  let abilities :=
    (if node.isMutating then [⟨"MUTATE"⟩] else []) ++ node.throwing?.toList.map Throwing.descriptor
  return {
    name, kind := .function, genericArguments := node.genericArguments
    descriptors := node.descriptors, requirements
    predicates := (Predicate.ofTypes "TAKES" parameters).unlessEmpty ++
      (Predicate.ofTypes "RETURN" result).unlessEmpty ++
      (Predicate.ofDescriptors "CAN" abilities).unlessEmpty }

/-- An initializer. -/
def initializerEntity (node : Node) : Except Failure Entity := do
  let requirements ← node.requirements
  let parameters ← node.parameterTypes
  let abilities := node.throwing?.toList.map Throwing.descriptor ++
    node.failability?.toList.map Failability.descriptor
  return {
    name := "init(" ++ node.parameterLabels ++ ")", kind := .initializer
    genericArguments := node.genericArguments, descriptors := node.descriptors, requirements
    predicates := (Predicate.ofTypes "TAKES" parameters).unlessEmpty ++
      (Predicate.ofDescriptors "CAN" abilities).unlessEmpty }

/-- A subscript. It must have a result. -/
def subscriptEntity (node : Node) : Except Failure Entity := do
  let requirements ← node.requirements
  let parameters ← node.parameterTypes
  let result ← TypeSlot.typeExpr (some node) node.returnSlot?
  return {
    name := "subs(" ++ node.parameterLabels ++ ")", kind := .subscript
    genericArguments := node.genericArguments, descriptors := node.descriptors, requirements
    predicates := (Predicate.ofTypes "TAKES" parameters).unlessEmpty ++
      [.ofTypes "HAS" [result]] }

/-- A deinitializer. -/
def deinitializerEntity (node : Node) : Entity :=
  { name := "deinit", kind := .deinitializer, descriptors := node.descriptors }

/-- An associated type. Its bounds become requirements on it. -/
def associatedTypeEntity (node : Node) : Except Failure Entity := do
  let name ← node.declaredName
  let bounds ← (node.inheritedTypes?.getD []).mapM fun bound =>
    Requirement.bound name bound.inheritedType
  let constraints ← node.whereRequirements
  return {
    name, kind := .associatedType, descriptors := node.descriptors
    requirements := bounds ++ constraints }

/-- A type alias. -/
def typeAliasEntity (node : Node) : Except Failure Entity := do
  let name ← node.declaredName
  let requirements ← node.requirements
  let aliased ← TypeSlot.typeExpr (some node) node.aliasedSlot?
  return {
    name, kind := .typeAlias, genericArguments := node.genericArguments
    descriptors := node.descriptors, requirements, predicates := [.ofTypes "HAS" [aliased]] }

/-- An import. -/
def importEntity (node : Node) : Except Failure Entity :=
  match node.importPath? with
  | some path => .ok { name := path, kind := .importing, descriptors := node.descriptors }
  | none => .error (.incompleteSource (some node))

end Node

/-- The entity of a binding. A pattern that is no single name, or that has no annotation, gives
none. -/
def Binding.entities (kind : EntityKind) (descriptors : List Descriptor) (binding : Binding) :
    Except Failure (List Entity) :=
  match binding.pattern.boundName?, binding.slot with
  | some name, some slot => do
      let type ← TypeSlot.typeExpr (some binding.pattern) (some slot)
      return [{ name, kind, descriptors, predicates := [.ofTypes "HAS" [type]] }]
  | _, _ => .ok []

/-- The entity of a case element. -/
def CaseElement.entities (descriptors : List Descriptor) (element : CaseElement) :
    Except Failure (List Entity) :=
  match element.values with
  | none => .ok [{ name := element.name, kind := .enumCase, descriptors }]
  | some values => do
      let types ← values.elementSlots.mapM (TypeSlot.typeExpr (some values))
      return [{
        name := element.name, kind := .enumCase, descriptors
        predicates := [.ofTypes "HAS" types] }]

namespace Node

/-- The bindings of a property declaration, each tried on its own. -/
def propertyEntities (node : Node) : Reading (List Entity) :=
  match node.bindingKeyword?.bind EntityKind.ofBindingKeyword? with
  | some kind =>
      (Progress.concat (node.bindings.map fun binding =>
        .attempt (.binding binding) (.ofResult (binding.entities kind node.descriptors)))).reading
  | none => .ofResult (.error (.unexpectedValue node))

/-- The elements of an enum case, each tried on its own. -/
def enumCaseEntities (node : Node) : Reading (List Entity) :=
  (Progress.concat (node.caseElements.map fun element =>
    .attempt (.element element) (.ofResult (element.entities node.descriptors)))).reading

/-- The entities of a declaration of a form, given the entities of its members. -/
def declarationEntities (scope : Scope) (form : DeclForm) (members : Reading (List Entity))
    (node : Node) : Reading (List Entity) :=
  match form with
  | .nominal => node.nominalEntities scope members
  | .function => .ofResult (node.functionEntity.map ([·]))
  | .initializer => .ofResult (node.initializerEntity.map ([·]))
  | .deinitializer => .ofResult (.ok [node.deinitializerEntity])
  | .subscript => .ofResult (node.subscriptEntity.map ([·]))
  | .enumCase => node.enumCaseEntities
  | .associatedType => .ofResult (node.associatedTypeEntity.map ([·]))
  | .typeAlias => .ofResult (node.typeAliasEntity.map ([·]))
  | .property => node.propertyEntities
  | .importing => .ofResult (node.importEntity.map ([·]))

end Node

end WordGrid
