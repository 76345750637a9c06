import WordGrid.Outline.Walk
import WordGrid.Proofs.Relabelling

/-!
# Walks over trees with other labels

All that a summary asks of the place of a node is whether two nodes cover the same bytes, which is
how the names of a property declaration are told among its children. A change of labels that keeps
this too (`Label.Moves`) is not seen by any reader of a declaration. So a walk over a tree with
changed labels collects the same entities, and its notices and its failure are about the same nodes
with changed labels (`Label.Moves.walk`).
-/

namespace WordGrid

/-! ## Changing the labels in what a walk gives -/

/-- A binding with other labels in its nodes. -/
def Binding.relabel (change : Label → Label) (binding : Binding) : Binding :=
  ⟨binding.pattern.relabel change, binding.slot.map (TypeSlot.relabel change)⟩

/-- A case element with other labels in its values. -/
def CaseElement.relabel (change : Label → Label) (element : CaseElement) : CaseElement :=
  { element with values := element.values.map (Node.relabel change) }

/-- An attempt with other labels in its nodes. -/
def Attempt.relabel (change : Label → Label) : Attempt → Attempt
  | .declaration node => .declaration (node.relabel change)
  | .binding given => .binding (given.relabel change)
  | .element given => .element (given.relabel change)

/-- A notice with other labels in its nodes. -/
def Notice.relabel (change : Label → Label) : Notice → Notice
  | .syntaxErrors path line => .syntaxErrors path line
  | .dropped attempt cause => .dropped (attempt.relabel change) (cause.relabel change)
  | .imageWritten path rows width height => .imageWritten path rows width height

/-- A reading with other labels in its notices and its failure. -/
def Reading.relabel {α : Type} (change : Label → Label) (reading : Reading α) : Reading α :=
  ⟨reading.notices.map (Notice.relabel change), reading.result.mapError (Failure.relabel change)⟩

/-- Progress with other labels in its notices and in the failure that ended it. -/
def Progress.relabel (change : Label → Label) (progress : Progress) : Progress :=
  ⟨progress.entities, progress.notices.map (Notice.relabel change),
    progress.abort.map (Failure.relabel change)⟩

section

variable (change : Label → Label)

theorem Reading.relabel_ofResult {α : Type} (result : Except Failure α) :
    (Reading.ofResult result).relabel change =
      Reading.ofResult (result.mapError (Failure.relabel change)) :=
  rfl

theorem Reading.relabel_bind {α β : Type} (reading : Reading α) (next : α → Reading β) :
    (reading >>= next).relabel change =
      reading.relabel change >>= fun value => (next value).relabel change := by
  obtain ⟨notices, failure | value⟩ := reading
  · rfl
  · simp [bind, Reading.bind, Reading.relabel, Except.mapError]

namespace Progress

theorem relabel_append (first second : Progress) :
    (first.append second).relabel change =
      (first.relabel change).append (second.relabel change) := by
  obtain ⟨entities, notices, _ | failure⟩ := first
  · simp [append, relabel]
  · rfl

theorem relabel_concat (walks : List Progress) :
    (concat walks).relabel change = concat (walks.map (relabel change)) := by
  induction walks with
  | nil => rfl
  | cons first rest ih => rw [concat, relabel_append, ih, List.map_cons, concat]

theorem relabel_reading (progress : Progress) :
    progress.reading.relabel change = (progress.relabel change).reading := by
  obtain ⟨entities, notices, _ | failure⟩ := progress <;> rfl

theorem relabel_attempt (subject : Attempt) (reading : Reading (List Entity)) :
    (attempt subject reading).relabel change =
      attempt (subject.relabel change) (reading.relabel change) := by
  obtain ⟨notices, (cause | error | error) | entities⟩ := reading
  · simp [attempt, relabel, Reading.relabel, Except.mapError, Failure.relabel, Notice.relabel]
  · rfl
  · rfl
  · rfl

end Progress

end

/-! ## Declarations -/

/-- A change of labels that also keeps apart what covers different bytes. -/
structure Label.Moves (change : Label → Label) : Prop extends Label.Keeps change where
  missing (label : Label) : (change label).missing = label.missing
  hasError (label : Label) : (change label).hasError = label.hasError
  span (first second : Label) :
    (change first).span = (change second).span ↔ first.span = second.span

namespace Label.Keeps

open Node

variable {change : Label → Label} (keeps : Label.Keeps change)
include keeps

theorem slot_typeExpr (owner : Option Node) (slot : Option TypeSlot) :
    TypeSlot.typeExpr (owner.map (relabel change)) (slot.map (TypeSlot.relabel change)) =
      (TypeSlot.typeExpr owner slot).mapError (Failure.relabel change) :=
  read_slot keeps.typeExpr owner slot

theorem inheritedType (node : Node) :
    (node.relabel change).inheritedType =
      node.inheritedType.mapError (Failure.relabel change) := by
  rw [Node.inheritedType, Node.inheritedType, keeps.node_text, keeps.isType, keeps.typeExpr,
    keeps.slot?]
  split
  · rfl
  · split
    · rfl
    · exact keeps.slot_typeExpr (some node) node.slot?

theorem genericParameters (node : Node) :
    (node.relabel change).genericParameters =
      node.genericParameters.map fun parameter =>
        ⟨parameter.name, parameter.bound.map (relabel change)⟩ := by
  rw [Node.genericParameters, keeps.firstNamedOf?, Node.genericParameters]
  cases node.firstNamedOf? ["type_parameters"] with
  | none => rfl
  | some list =>
      simp only [Option.map_some, keeps.namedOf, List.filterMap_map, List.map_filterMap]
      congr 1
      funext parameter
      rw [Function.comp_apply, keeps.firstNamedOf?, keeps.firstType?]
      cases parameter.firstNamedOf? ["type_identifier", "simple_identifier"] with
      | none => rfl
      | some name => simp [keeps]

theorem clauseConstraints (clause : Node) :
    (clause.relabel change).clauseConstraints =
      clause.clauseConstraints.map (relabel change) := by
  rw [Node.clauseConstraints, keeps.namedChildren, List.flatMap_map, Node.clauseConstraints,
    List.map_flatMap]
  congr 1
  funext child
  have hconstraint (node : Node) : (node.relabel change).isConstraint = node.isConstraint := by
    simp [isConstraint, keeps]
  rw [keeps.node_kind, keeps.namedChildren, List.filter_map, hconstraint]
  simp only [Function.comp_def, hconstraint]
  split
  · rfl
  · split <;> rfl

theorem whereConstraints (node : Node) :
    (node.relabel change).whereConstraints = node.whereConstraints.map (relabel change) := by
  simp only [Node.whereConstraints, keeps.firstNamedOf?, keeps.namedOf]
  cases node.firstNamedOf? ["type_parameters"] with
  | none =>
      simp [List.flatMap_map, List.map_flatMap, keeps.clauseConstraints]
  | some list =>
      simp [List.flatMap_map, List.map_flatMap, keeps.clauseConstraints, keeps.namedOf]

theorem operator? (node : Node) : (node.relabel change).operator? = node.operator? := by
  simp [Node.operator?, keeps]

theorem constraintSide (nodes : List Node) :
    Node.constraintSide (nodes.map (relabel change)) =
      (Node.constraintSide nodes).map (relabel change) := by
  simp [Node.constraintSide, List.filter_map, Function.comp_def, keeps]

theorem constraintParts (node : Node) :
    (node.relabel change).constraintParts =
      ⟨node.constraintParts.relation, node.constraintParts.left.map (relabel change),
        node.constraintParts.right.map (relabel change)⟩ := by
  have hconstraint : (node.relabel change).isConstraint = node.isConstraint := by
    simp [isConstraint, keeps]
  have hoperator : (fun child : Node => (child.relabel change).operator?.isNone) =
      fun child => child.operator?.isNone := by
    funext child
    rw [keeps.operator?]
  rw [Node.constraintParts, Node.constraintParts, hconstraint]
  split
  · simp only [children_relabel, List.takeWhile_map, List.dropWhile_map, Function.comp_def,
      hoperator, List.head?_map, ← List.map_drop, keeps.constraintSide]
    congr 1
    cases (node.children.dropWhile (·.operator?.isNone)).head? with
    | none => rfl
    | some operator => exact keeps.operator? operator
  · rfl

/-- The text of a node that is found is the same. -/
theorem map_text (found : Option Node) :
    (found.map (relabel change)).map Node.text = found.map Node.text := by
  rw [Option.map_map]
  exact congrArg (Option.map · found) (funext keeps.node_text)

theorem constrainedName? (nodes : List Node) :
    Node.constrainedName? (nodes.map (relabel change)) = Node.constrainedName? nodes := by
  have hnode : constrainedNode? (nodes.map (relabel change)) =
      (constrainedNode? nodes).map (relabel change) := by
    rcases nodes with _ | ⟨node, _ | ⟨next, rest⟩⟩
    · rfl
    · rw [List.map_cons, List.map_nil, constrainedNode?, constrainedNode?, keeps.isIdentifier,
        keeps.node_kind, keeps.namedChildren, keeps.soleName?]
      split
      · rfl
      · split <;> rfl
    · rfl
  rw [Node.constrainedName?, hnode, keeps.map_text, Node.constrainedName?]

theorem constrainedType (constraint : Node) (left : List Node) :
    (constraint.relabel change).constrainedType (left.map (relabel change)) =
      (constraint.constrainedType left).mapError (Failure.relabel change) := by
  unfold Node.constrainedType
  rw [keeps.constrainedName?]
  cases Node.constrainedName? left with
  | some name => exact named_shape name []
  | none =>
      rcases left with _ | ⟨node, _ | ⟨next, rest⟩⟩
      · rfl
      · simp only [List.map_cons, List.map_nil, keeps.isType, keeps.typeExpr]
        split <;> rfl
      · rfl

theorem requirement (node : Node) :
    (node.relabel change).requirement =
      node.requirement.mapError (Failure.relabel change) := by
  rw [Node.requirement, Node.requirement, keeps.constraintParts]
  rcases node.constraintParts with ⟨_ | relation, _ | ⟨first, rest⟩, _ | ⟨right, _ | ⟨next, more⟩⟩⟩
  all_goals try rfl
  simp only [List.map_cons, List.map_nil]
  rw [← List.map_cons, keeps.constrainedType, keeps.typeExpr, mapError_bind]
  simp only [mapError_bind]
  rfl

omit keeps in
theorem bound_requirement (name : String) (right : Except Failure TypeExpr) :
    Requirement.bound name (right.mapError (Failure.relabel change)) =
      (Requirement.bound name right).mapError (Failure.relabel change) := by
  rw [Requirement.bound, Requirement.bound, mapError_bind, ← named_shape]
  simp only [mapError_bind]
  rfl

theorem boundRequirements (node : Node) :
    (node.relabel change).boundRequirements =
      node.boundRequirements.mapError (Failure.relabel change) := by
  -- A parameter has a bound in one tree exactly if it has one in the other.
  have hbounds : (node.relabel change).genericParameters.filterMap
        (fun parameter => parameter.bound.map fun bound => (parameter.name, bound)) =
      (node.genericParameters.filterMap
        fun parameter => parameter.bound.map fun bound => (parameter.name, bound)).map
          fun pair => (pair.1, pair.2.relabel change) := by
    rw [keeps.genericParameters, List.filterMap_map, List.map_filterMap]
    simp only [Function.comp_def, Option.map_map]
  rw [Node.boundRequirements, hbounds, List.mapM_map, Node.boundRequirements, mapError_mapM]
  simp only [Function.comp_def, keeps.typeExpr, bound_requirement]

theorem whereRequirements (node : Node) :
    (node.relabel change).whereRequirements =
      node.whereRequirements.mapError (Failure.relabel change) := by
  rw [Node.whereRequirements, keeps.whereConstraints, List.mapM_map, Node.whereRequirements,
    mapError_mapM]
  exact congrArg (List.mapM · _) (funext keeps.requirement)

theorem requirements (node : Node) :
    (node.relabel change).requirements =
      node.requirements.mapError (Failure.relabel change) := by
  simp only [Node.requirements, keeps.boundRequirements, keeps.whereRequirements, mapError_bind]
  rfl

theorem genericArguments (node : Node) :
    (node.relabel change).genericArguments = node.genericArguments := by
  simp [Node.genericArguments, keeps.genericParameters, Function.comp_def]

theorem nominalKeyword? (node : Node) :
    (node.relabel change).nominalKeyword? = node.nominalKeyword? := by
  rw [Node.nominalKeyword?, Node.nominalKeyword?, keeps.node_kind, keeps.fieldChild?]
  split
  · rfl
  · cases node.fieldChild? "declaration_kind" with
    | some keyword => exact congrArg some (keeps.node_text keyword)
    | none => simp [List.find?_map, Function.comp_def, keeps]

theorem identifier? (node : Node) : (node.relabel change).identifier? = node.identifier? := by
  have hname : (node.relabel change).nameNode? = node.nameNode?.map (relabel change) := by
    rw [nameNode?, nameNode?, keeps.firstNamedOf?, keeps.fieldChild?]
    cases node.fieldChild? "name" with
    | none => rfl
    | some name =>
        simp only [Option.map_some, keeps.isIdentifier, keeps.isNamed]
        split <;> rfl
  rw [Node.identifier?, hname, keeps.map_text, Node.identifier?]

theorem extendedType? (node : Node) :
    (node.relabel change).extendedType? = node.extendedType?.map (relabel change) := by
  rw [Node.extendedType?, Node.extendedType?, keeps.firstType?, keeps.fieldChild?]
  cases node.fieldChild? "name" with
  | none => rfl
  | some name =>
      simp only [Option.map_some, keeps.isType]
      split <;> rfl

theorem modifierKeywords (node : Node) :
    (node.relabel change).modifierKeywords = node.modifierKeywords := by
  have hkeyword (modifier : Node) :
      (modifier.relabel change).modifierKeyword? = modifier.modifierKeyword? := by
    simp [modifierKeyword?, keeps]
  simp [Node.modifierKeywords, keeps.namedOf, keeps.namedChildren, List.flatMap_map,
    List.filterMap_map, List.filter_map, Function.comp_def, hkeyword, keeps]

theorem descriptors (node : Node) : (node.relabel change).descriptors = node.descriptors := by
  rw [Node.descriptors, keeps.modifierKeywords, Node.descriptors]

theorem isMutating (node : Node) : (node.relabel change).isMutating = node.isMutating := by
  rw [Node.isMutating, keeps.modifierKeywords, Node.isMutating]

theorem inheritedTypes? (node : Node) :
    (node.relabel change).inheritedTypes? =
      node.inheritedTypes?.map (List.map (relabel change)) := by
  simp only [Node.inheritedTypes?, keeps.namedOf, keeps.node_kind, children_relabel,
    List.takeWhile_map, List.filter_map, Function.comp_def, keeps.isToken, keeps.isType,
    List.isEmpty_map]
  split
  · rfl
  · split
    · split <;> rfl
    · rfl

theorem parameters (node : Node) :
    (node.relabel change).parameters = node.parameters.map (relabel change) :=
  keeps.namedOf ["parameter"] node

theorem parameterLabels (node : Node) :
    (node.relabel change).parameterLabels = node.parameterLabels := by
  have hlabel (parameter : Node) :
      (parameter.relabel change).parameterLabel = parameter.parameterLabel := by
    simp only [parameterLabel, children_relabel, List.find?_map, Function.comp_def, keeps.isOneOf,
      keeps.node_text]
    cases parameter.children.find? fun child =>
        child.isOneOf ["simple_identifier", "wildcard_pattern"] || child.text == "_" with
    | none => rfl
    | some label => exact keeps.node_text label
  simp only [Node.parameterLabels, keeps.parameters, List.map_map, Function.comp_def, hlabel]

theorem throwing? (node : Node) : (node.relabel change).throwing? = node.throwing? := by
  simp only [Node.throwing?, children_relabel, List.find?_map, Option.map_map, Function.comp_def,
    keeps.isOneOf, keeps.node_text]

theorem failability? (node : Node) :
    (node.relabel change).failability? = node.failability? := by
  have hmark (child : Node) :
      (child.relabel change).failabilityMark? = child.failabilityMark? := by
    simp [failabilityMark?, keeps]
  simp [Node.failability?, List.takeWhile_map, List.findSome?_map, Function.comp_def, hmark, keeps]

theorem importPath? (node : Node) : (node.relabel change).importPath? = node.importPath? := by
  simp [Node.importPath?, keeps.firstNamedOf?, Function.comp_def, keeps]

/-! ## Reading declarations -/

theorem declaredName (node : Node) :
    (node.relabel change).declaredName =
      node.declaredName.mapError (Failure.relabel change) := by
  rw [Node.declaredName, Node.declaredName, keeps.identifier?]
  cases node.identifier? <;> rfl

theorem inheritance (node : Node) :
    (node.relabel change).inheritance = node.inheritance.mapError (Failure.relabel change) := by
  rw [Node.inheritance, Node.inheritance, keeps.inheritedTypes?]
  cases node.inheritedTypes? with
  | none => rfl
  | some entries =>
      simp only [Option.map_some, List.mapM_map, Function.comp_def, keeps.inheritedType,
        mapError_bind, mapError_mapM]
      rfl

theorem parameterTypes (node : Node) :
    (node.relabel change).parameterTypes =
      node.parameterTypes.mapError (Failure.relabel change) := by
  rw [Node.parameterTypes, keeps.parameters, List.mapM_map, Node.parameterTypes, mapError_mapM]
  congr 1
  funext parameter
  rw [Function.comp_apply, keeps.slot?]
  exact keeps.slot_typeExpr (some parameter) parameter.slot?

theorem functionEntity (node : Node) :
    (node.relabel change).functionEntity =
      node.functionEntity.mapError (Failure.relabel change) := by
  have hresult : ((node.relabel change).returnSlot?.toList.mapM fun slot =>
        TypeSlot.typeExpr (some (node.relabel change)) (some slot)) =
      (node.returnSlot?.toList.mapM fun slot =>
        TypeSlot.typeExpr (some node) (some slot)).mapError (Failure.relabel change) := by
    rw [returnSlot?, keeps.slotAfter?, mapError_mapM, returnSlot?, Option.toList_map,
      List.mapM_map]
    congr 1
    funext slot
    exact keeps.slot_typeExpr (some node) (some slot)
  simp only [Node.functionEntity, keeps.declaredName, keeps.requirements, keeps.parameterTypes,
    hresult, keeps.isMutating, keeps.throwing?, keeps.genericArguments, keeps.descriptors,
    mapError_bind]
  rfl

theorem initializerEntity (node : Node) :
    (node.relabel change).initializerEntity =
      node.initializerEntity.mapError (Failure.relabel change) := by
  simp only [Node.initializerEntity, keeps.requirements, keeps.parameterTypes, keeps.throwing?,
    keeps.failability?, keeps.parameterLabels, keeps.genericArguments, keeps.descriptors,
    mapError_bind]
  rfl

theorem subscriptEntity (node : Node) :
    (node.relabel change).subscriptEntity =
      node.subscriptEntity.mapError (Failure.relabel change) := by
  have hresult : TypeSlot.typeExpr (some (node.relabel change)) (node.relabel change).returnSlot? =
      (TypeSlot.typeExpr (some node) node.returnSlot?).mapError (Failure.relabel change) := by
    rw [returnSlot?, keeps.slotAfter?]
    exact keeps.slot_typeExpr (some node) node.returnSlot?
  simp only [Node.subscriptEntity, keeps.requirements, keeps.parameterTypes, hresult,
    keeps.parameterLabels, keeps.genericArguments, keeps.descriptors, mapError_bind]
  rfl

theorem deinitializerEntity (node : Node) :
    (node.relabel change).deinitializerEntity = node.deinitializerEntity := by
  rw [Node.deinitializerEntity, keeps.descriptors, Node.deinitializerEntity]

theorem associatedTypeEntity (node : Node) :
    (node.relabel change).associatedTypeEntity =
      node.associatedTypeEntity.mapError (Failure.relabel change) := by
  have hbounds : (node.relabel change).inheritedTypes?.getD [] =
      (node.inheritedTypes?.getD []).map (relabel change) := by
    rw [keeps.inheritedTypes?]
    cases node.inheritedTypes? <;> rfl
  simp only [Node.associatedTypeEntity, keeps.declaredName, hbounds, List.mapM_map,
    Function.comp_def, keeps.inheritedType, bound_requirement, keeps.whereRequirements,
    keeps.descriptors, mapError_bind, mapError_mapM]
  rfl

theorem typeAliasEntity (node : Node) :
    (node.relabel change).typeAliasEntity =
      node.typeAliasEntity.mapError (Failure.relabel change) := by
  have haliased :
      TypeSlot.typeExpr (some (node.relabel change)) (node.relabel change).aliasedSlot? =
        (TypeSlot.typeExpr (some node) node.aliasedSlot?).mapError (Failure.relabel change) := by
    rw [aliasedSlot?, keeps.slotAfter?]
    exact keeps.slot_typeExpr (some node) node.aliasedSlot?
  simp only [Node.typeAliasEntity, keeps.declaredName, keeps.requirements, haliased,
    keeps.genericArguments, keeps.descriptors, mapError_bind]
  rfl

theorem importEntity (node : Node) :
    (node.relabel change).importEntity =
      node.importEntity.mapError (Failure.relabel change) := by
  rw [Node.importEntity, Node.importEntity, keeps.importPath?, keeps.descriptors]
  cases node.importPath? <;> rfl

/-- Members that are read alike, up to labels, make the same extension. -/
theorem extensionEntities (scope : Scope) (members : Reading (List Entity)) (node : Node) :
    (node.relabel change).extensionEntities scope (members.relabel change) =
      (node.extensionEntities scope members).relabel change := by
  unfold Node.extensionEntities
  split
  · rfl
  · simp only [Reading.relabel_bind, Reading.relabel_ofResult, keeps.inheritance,
      keeps.extendedType?]
    congr 1
    funext predicates
    congr 1
    funext children
    cases node.extendedType? with
    | none => rfl
    | some extended =>
        simp only [Option.map_some, keeps.typeExpr, Reading.relabel_bind, Reading.relabel_ofResult]
        congr 1
        funext type
        split <;> rfl

theorem nominalEntity (kind : EntityKind) (members : Reading (List Entity)) (node : Node) :
    (node.relabel change).nominalEntity kind (members.relabel change) =
      (node.nominalEntity kind members).relabel change := by
  simp only [Node.nominalEntity, Reading.relabel_bind, Reading.relabel_ofResult,
    keeps.declaredName, keeps.requirements, keeps.inheritance, keeps.genericArguments,
    keeps.descriptors]
  rfl

theorem nominalEntities (scope : Scope) (members : Reading (List Entity)) (node : Node) :
    (node.relabel change).nominalEntities scope (members.relabel change) =
      (node.nominalEntities scope members).relabel change := by
  unfold Node.nominalEntities
  rw [keeps.nominalKeyword?]
  split
  · exact keeps.extensionEntities scope members node
  · split
    · exact keeps.nominalEntity _ members node
    · rfl
  · rfl

theorem boundName? (pattern : Node) :
    (pattern.relabel change).boundName? = pattern.boundName? := by
  have hparts : (pattern.relabel change).namedChildren.filter (·.kind != "value_binding_pattern") =
      (pattern.namedChildren.filter (·.kind != "value_binding_pattern")).map (relabel change) := by
    simp [keeps.namedChildren, List.filter_map, Function.comp_def, keeps]
  have hname : (pattern.relabel change).boundNode? = pattern.boundNode?.map (relabel change) := by
    rw [boundNode?, boundNode?, hparts, keeps.node_kind, keeps.soleName?]
    split <;> rfl
  rw [Node.boundName?, hname, keeps.map_text, Node.boundName?]

theorem binding_entities (kind : EntityKind) (descriptors : List Descriptor) (binding : Binding) :
    (binding.relabel change).entities kind descriptors =
      (binding.entities kind descriptors).mapError (Failure.relabel change) := by
  obtain ⟨pattern, slot⟩ := binding
  simp only [Binding.entities, Binding.relabel, keeps.boundName?]
  rcases pattern.boundName? with _ | name
  · rfl
  · rcases slot with _ | slot
    · rfl
    · simp only [Option.map_some, mapError_bind]
      rw [← keeps.slot_typeExpr]
      rfl

theorem element_entities (descriptors : List Descriptor) (element : CaseElement) :
    (element.relabel change).entities descriptors =
      (element.entities descriptors).mapError (Failure.relabel change) := by
  obtain ⟨name, _ | values⟩ := element
  · rfl
  · simp only [CaseElement.entities, CaseElement.relabel, Option.map_some, keeps.elementSlots,
      List.mapM_map, Function.comp_def, mapError_bind, mapError_mapM, ← keeps.slot_typeExpr]
    rfl

theorem bindingNames (node : Node) :
    (node.relabel change).bindingNames = node.bindingNames.map (relabel change) := by
  simp only [Node.bindingNames, keeps.fieldChildren, keeps.namedOf, List.isEmpty_map]
  split <;> rfl

theorem bindingKeyword? (node : Node) :
    (node.relabel change).bindingKeyword? = node.bindingKeyword? := by
  have hpattern : (node.relabel change).keywordPattern? =
      node.keywordPattern?.map (relabel change) := by
    simp only [keywordPattern?, keeps.firstNamedOf?, keeps.bindingNames, List.findSome?_map,
      Function.comp_def, Option.map_or, List.map_findSome?]
  rw [Node.bindingKeyword?, hpattern, Node.bindingKeyword?]
  cases node.keywordPattern? with
  | none => rfl
  | some pattern =>
      simp only [Option.map_some, Option.bind_eq_bind, Option.bind_some, keeps.fieldChild?]
      cases pattern.fieldChild? "mutability" <;> simp [keeps]

theorem annotation? {isName other : Node → Bool}
    (hname : ∀ node : Node, other (node.relabel change) = isName node) (nodes : List Node) :
    Node.annotation? other (nodes.map (relabel change)) =
      (Node.annotation? isName nodes).map (TypeSlot.relabel change) := by
  induction nodes with
  | nil => rfl
  | cons first rest ih =>
      rw [List.map_cons, Node.annotation?, Node.annotation?, hname, keeps.node_kind, keeps.slot?,
        ih]
      split
      · rfl
      · split
        · cases first.slot? <;> rfl
        · rfl

theorem bindingsAmong {isName other : Node → Bool}
    (hname : ∀ node : Node, other (node.relabel change) = isName node) (nodes : List Node) :
    Node.bindingsAmong other (nodes.map (relabel change)) =
      (Node.bindingsAmong isName nodes).map (Binding.relabel change) := by
  induction nodes with
  | nil => rfl
  | cons first rest ih =>
      rw [List.map_cons, Node.bindingsAmong, Node.bindingsAmong, hname,
        keeps.annotation? hname, ih]
      split <;> rfl

theorem caseElementsAmong (nodes : List Node) :
    Node.caseElementsAmong (nodes.map (relabel change)) =
      (Node.caseElementsAmong nodes).map (CaseElement.relabel change) := by
  induction nodes with
  | nil => rfl
  | cons first rest ih =>
      rw [List.map_cons, Node.caseElementsAmong, Node.caseElementsAmong, keeps.node_kind, ih]
      split
      · simp [CaseElement.relabel, List.takeWhile_map, List.filter_map, Function.comp_def, keeps]
      · rfl

theorem enumCaseEntities (node : Node) :
    (node.relabel change).enumCaseEntities = node.enumCaseEntities.relabel change := by
  have helements : (node.relabel change).caseElements =
      node.caseElements.map (CaseElement.relabel change) := by
    rw [caseElements, caseElements, children_relabel, keeps.entryNodes, keeps.caseElementsAmong]
  rw [Node.enumCaseEntities, helements, Node.enumCaseEntities, Progress.relabel_reading,
    Progress.relabel_concat, keeps.descriptors]
  simp only [List.map_map, Function.comp_def, Progress.relabel_attempt, Reading.relabel_ofResult,
    keeps.element_entities]
  rfl

end Label.Keeps

namespace Label.Moves

open Node

variable {change : Label → Label} (moves : Label.Moves change)
include moves

/-- A child is bound by a name where it was before. -/
theorem isBoundBy (names : List Node) (child : Node) :
    (child.relabel change).isBoundBy (names.map (relabel change)) = child.isBoundBy names := by
  have hkeeps := moves.toKeeps
  have hspan : ((names.map (relabel change)).map Node.span).contains (child.relabel change).span =
      (names.map Node.span).contains child.span := by
    rw [Bool.eq_iff_iff]
    simp [Node.span, moves.span]
  unfold Node.isBoundBy
  rw [hspan, List.head?_map, hkeeps.node_kind]
  cases names.head? with
  | none => rfl
  | some name => simp [hkeeps]

theorem bindings (node : Node) :
    (node.relabel change).bindings = node.bindings.map (Binding.relabel change) := by
  rw [Node.bindings, children_relabel, moves.toKeeps.bindingNames, Node.bindings]
  exact moves.toKeeps.bindingsAmong (moves.isBoundBy node.bindingNames) node.children

theorem propertyEntities (node : Node) :
    (node.relabel change).propertyEntities = node.propertyEntities.relabel change := by
  have hkeeps := moves.toKeeps
  rw [Node.propertyEntities, Node.propertyEntities, hkeeps.bindingKeyword?, moves.bindings,
    hkeeps.descriptors]
  split
  · rw [Progress.relabel_reading, Progress.relabel_concat]
    simp only [List.map_map, Function.comp_def, Progress.relabel_attempt, Reading.relabel_ofResult,
      hkeeps.binding_entities]
    rfl
  · rfl

/-- A declaration with other labels gives the same entities, if its members do. -/
theorem declarationEntities (scope : Scope) (form : DeclForm) (members : Reading (List Entity))
    (node : Node) :
    (node.relabel change).declarationEntities scope form (members.relabel change) =
      (node.declarationEntities scope form members).relabel change := by
  have hkeeps := moves.toKeeps
  have hsingle {left right : Except Failure Entity}
      (h : left = right.mapError (Failure.relabel change)) :
      Reading.ofResult (left.map ([·])) = (Reading.ofResult (right.map ([·]))).relabel change := by
    rw [h]
    cases right <;> rfl
  cases form with
  | nominal => exact hkeeps.nominalEntities scope members node
  | function => exact hsingle (hkeeps.functionEntity node)
  | initializer => exact hsingle (hkeeps.initializerEntity node)
  | deinitializer =>
      simp only [Node.declarationEntities, hkeeps.deinitializerEntity]
      rfl
  | subscript => exact hsingle (hkeeps.subscriptEntity node)
  | enumCase => exact hkeeps.enumCaseEntities node
  | associatedType => exact hsingle (hkeeps.associatedTypeEntity node)
  | typeAlias => exact hsingle (hkeeps.typeAliasEntity node)
  | property => exact moves.propertyEntities node
  | importing => exact hsingle (hkeeps.importEntity node)

/-! ## Walks -/

mutual

/-- A walk over a tree with other labels collects the same entities, and its notices are about
nodes with other labels. -/
theorem walk (scope : Scope) : (node : Node) →
    (node.relabel change).walk scope = (node.walk scope).relabel change
  | ⟨label, children⟩ => by
      rw [relabel, Node.walk, Node.walk, moves.kind]
      split
      · exact walkAll scope children
      · next form _ =>
        rw [walkMembers scope children, ← Progress.relabel_reading, Progress.relabel_attempt]
        exact congrArg _ (moves.declarationEntities scope form _ ⟨label, children⟩)

theorem walkAll (scope : Scope) : (nodes : List Node) →
    Node.walkAll scope (relabelAll change nodes) = (Node.walkAll scope nodes).relabel change
  | [] => rfl
  | node :: rest => by
      rw [relabelAll, Node.walkAll, Node.walkAll, moves.isNamed, walk scope node,
        walkAll scope rest, ← Progress.relabel_append]
      split <;> rfl

theorem walkMembers (scope : Scope) : (nodes : List Node) →
    Node.walkMembers scope (relabelAll change nodes) =
      (Node.walkMembers scope nodes).relabel change
  | [] => rfl
  | node :: rest => by
      have hblock : (node.relabel change).isMemberBlock = node.isMemberBlock :=
        moves.isOneOf _ node
      rw [relabelAll, Node.walkMembers, Node.walkMembers, moves.isNamed, hblock,
        walk { scope with nested := true } node, walkMembers scope rest]
      split <;> rfl

end

theorem isFault (node : Node) : (node.relabel change).isFault = node.isFault := by
  simp [Node.isFault, moves.toKeeps, moves.missing]

mutual

/-- The first fault of a tree with other labels is that of the tree. -/
theorem firstFault? : (node : Node) →
    (node.relabel change).firstFault? = node.firstFault?.map (relabel change)
  | ⟨label, children⟩ => by
      rw [relabel, Node.firstFault?, Node.firstFault?, firstFaultAmong? children]
      have hfault := moves.isFault ⟨label, children⟩
      rw [relabel] at hfault
      rw [hfault]
      split <;> rfl

theorem firstFaultAmong? : (nodes : List Node) →
    Node.firstFaultAmong? (relabelAll change nodes) =
      (Node.firstFaultAmong? nodes).map (relabel change)
  | [] => rfl
  | node :: rest => by
      rw [relabelAll, Node.firstFaultAmong?, Node.firstFaultAmong?, label_relabel, moves.hasError,
        moves.missing, firstFault? node, firstFaultAmong? rest]
      split
      · exact Option.map_or.symm
      · rfl

end

end Label.Moves

end WordGrid
