import WordGrid.Proofs.Descent
import WordGrid.Proofs.Results
import WordGrid.Proofs.WalkInduction

/-!
# Where failures come from

`FailsIn root result` says that a computation on a tree fails in no other way than by a drop at a
node of the tree, or by a type without a name, and then some node of the tree has no text. One drop
has no node: that of a tuple or function type with an item for which no type is given. Every reader
of a declaration fails in its node only (`Node.declarationEntities_failsIn`). A walk turns drops
into notices, so all that can end it is a type without a name (`Node.walk_abortsIn`).
-/

namespace WordGrid

/-- Does a type list items, of a tuple or as the parameters of a function, one of which has no
type? -/
def Node.hasGap (node : Node) : Bool :=
  match node.typeForm? with
  | some .tuple => node.elementSlots.any Option.isNone
  | some .function => (node.functionSlots?.getD []).any Option.isNone
  | _ => false

/-- The drops that reading a tree may end in: at a node of the tree, or at no node for want of the
type of an item. -/
def Drop.ArisesIn (root : Node) (cause : Drop) : Prop :=
  match cause.node with
  | some node => node.Inside root
  | none => cause.reason = .incompleteSource ∧ ∃ type : Node, type.Inside root ∧ type.hasGap

/-- The failures that reading a tree may end in. -/
def Failure.ArisesIn (root : Node) : Failure → Prop
  | .drop cause => cause.ArisesIn root
  | .shape error => error = .nameless ∧ ∃ node : Node, node.Inside root ∧ node.text = ""
  | .layout _ => False

theorem Drop.ArisesIn.mono {cause : Drop} {node root : Node} (h : cause.ArisesIn node)
    (hinside : node.Inside root) : cause.ArisesIn root := by
  obtain ⟨reason, _ | origin⟩ := cause
  · obtain ⟨hreason, type, htype, hgap⟩ := h
    exact ⟨hreason, type, htype.trans hinside, hgap⟩
  · exact Node.Inside.trans h hinside

/-- What arises in a node inside the root arises in the root. -/
theorem Failure.ArisesIn.mono {failure : Failure} {node root : Node}
    (h : failure.ArisesIn node) (hinside : node.Inside root) : failure.ArisesIn root := by
  cases failure with
  | drop cause => exact Drop.ArisesIn.mono h hinside
  | shape error =>
      obtain ⟨hnameless, silent, hsilent, htext⟩ := h
      exact ⟨hnameless, silent, hsilent.trans hinside, htext⟩
  | layout error => exact h

/-- A computation fails in no other way than reading the tree may. -/
def FailsIn {α : Type} (root : Node) (result : Except Failure α) : Prop :=
  ∀ failure, result = .error failure → failure.ArisesIn root

namespace FailsIn

variable {α β : Type} {root : Node}

theorem ok (value : α) : FailsIn root (.ok value) := by
  intro failure h
  cases h

theorem drop {reason : DropReason} {node : Node} (h : node.Inside root) :
    FailsIn root (.error (.drop ⟨reason, some node⟩) : Except Failure α) := by
  intro failure hfailure
  cases hfailure
  exact h

theorem mono {node : Node} {result : Except Failure α} (h : FailsIn node result)
    (hinside : node.Inside root) : FailsIn root result := by
  intro failure hfailure
  exact (h failure hfailure).mono hinside

/-- What comes second only has to fail in the tree on values that come first. -/
theorem bind_of_eq {first : Except Failure α} {next : α → Except Failure β}
    (h : FailsIn root first) (hnext : ∀ value, first = .ok value → FailsIn root (next value)) :
    FailsIn root (first >>= next) := by
  intro failure hfailure
  rcases bind_eq_error.mp hfailure with hfirst | ⟨value, hvalue, hsecond⟩
  · exact h failure hfirst
  · exact hnext value hvalue failure hsecond

theorem bind {first : Except Failure α} {next : α → Except Failure β} (h : FailsIn root first)
    (hnext : ∀ value, FailsIn root (next value)) : FailsIn root (first >>= next) :=
  h.bind_of_eq fun value _ => hnext value

theorem map {change : α → β} {result : Except Failure α} (h : FailsIn root result) :
    FailsIn root (result.map change) := by
  intro failure hfailure
  exact h failure (map_eq_error.mp hfailure)

theorem mapM {f : α → Except Failure β} {items : List α}
    (h : ∀ item ∈ items, FailsIn root (f item)) : FailsIn root (items.mapM f) := by
  intro failure hfailure
  obtain ⟨item, hmem, hitem⟩ := mapM_eq_error hfailure
  exact h item hmem failure hitem

/-- A named type fails only by having no name, which is then the text of a node of the tree. -/
theorem named {name : String} {arguments : List TypeExpr}
    (h : ∃ node : Node, node.Inside root ∧ node.text = name) :
    FailsIn root ((TypeExpr.named? name arguments).mapError .shape) := by
  intro failure hfailure
  obtain ⟨node, hinside, htext⟩ := h
  unfold TypeExpr.named? at hfailure
  split at hfailure
  · next hempty =>
    cases hfailure
    exact ⟨rfl, node, hinside, htext.trans (eq_of_beq hempty)⟩
  · cases hfailure

end FailsIn

/-! ## Types -/

variable {root : Node}

/-- Reading a slot fails where reading its type does, or for want of a slot at the owner. -/
theorem TypeSlot.read_failsIn {reader : TypeReader} {owner : Option Node} {slot : Option TypeSlot}
    (howner : slot = none → Drop.ArisesIn root ⟨.incompleteSource, owner⟩)
    (hslot : ∀ given, slot = some given → FailsIn root (reader given.node)) :
    FailsIn root (TypeSlot.read reader owner slot) := by
  cases slot with
  | none =>
      intro failure hfailure
      cases hfailure
      exact howner rfl
  | some given => exact (hslot given rfl).bind fun type => .ok _

/-- An item without a type is read for no owner, and makes a gap in the type that lists it. -/
theorem Node.dropWithoutOwner {node : Node} (h : node.hasGap) :
    Drop.ArisesIn node ⟨.incompleteSource, none⟩ :=
  ⟨rfl, node, .self node, h⟩

/-- A step fails in its node if its reader fails in every type below the node. -/
theorem typeStep_failsIn {reader : TypeReader} {node : Node}
    (h : ∀ type : Node, type.Below node → FailsIn node (reader type)) :
    FailsIn node (typeStep reader node) := by
  have hunsupported : FailsIn node (.error (.unsupportedType node) : Except Failure TypeExpr) :=
    .drop (.self node)
  -- One case per form of type, each asking the reader for types below the node only.
  unfold typeStep
  split
  · split
    · next component hcomponents =>
      have hmem : component ∈ node.components := by simp [hcomponents]
      obtain ⟨origin, hbelow, htext⟩ := Node.name_of_mem_components hmem
      refine .bind (.mapM fun type htype => h type (Node.below_of_mem_components hmem htype)) ?_
      intro arguments
      exact .named ⟨origin, hbelow.inside, htext⟩
    · exact hunsupported
  · split
    · next element hwrapped =>
      exact .bind (h element (Node.below_of_mem_wrappedTypes (by simp [hwrapped]))) fun _ => .ok _
    · exact hunsupported
  · split
    · next key value hwrapped =>
      refine .bind (h key (Node.below_of_mem_wrappedTypes (by simp [hwrapped]))) fun _ => ?_
      exact .bind (h value (Node.below_of_mem_wrappedTypes (by simp [hwrapped]))) fun _ => .ok _
    · exact hunsupported
  · split
    · next wrapped hwrapped =>
      exact .bind (h wrapped (Node.below_of_mem_wrappedTypes (by simp [hwrapped]))) fun _ => .ok _
    · exact hunsupported
  · next hform =>
    refine .bind (.mapM fun slot hmem => TypeSlot.read_failsIn ?_ ?_) fun _ => .ok _
    · rintro rfl
      exact Node.dropWithoutOwner (by simpa [Node.hasGap, hform] using hmem)
    · rintro given rfl
      exact h given.node (Node.below_of_mem_elementSlots hmem)
  · next hform =>
    split
    · next slots result hslots hresult =>
      refine .bind (.mapM fun slot hmem => TypeSlot.read_failsIn ?_ ?_) fun _ => ?_
      · rintro rfl
        exact Node.dropWithoutOwner (by simpa [Node.hasGap, hform, hslots] using hmem)
      · rintro given rfl
        exact h given.node (Node.below_of_functionSlots? hslots hmem)
      · exact .bind (h result (Node.below_of_functionResult? hresult)) fun _ => .ok _
    · exact hunsupported
  · exact .bind (.mapM fun type hmem => h type (Node.below_of_mem_wrappedTypes hmem)) fun _ => .ok _
  · exact hunsupported
  · exact hunsupported

/-- Reading a type down to any depth fails in its node. -/
theorem typeToDepth_failsIn (depth : Nat) (node : Node) :
    FailsIn node (typeToDepth depth node) := by
  induction depth generalizing node with
  | zero => exact .drop (.self node)
  | succ depth ih => exact typeStep_failsIn fun type hbelow => (ih type).mono hbelow.inside

/-- Reading a type inside the root fails in the root. -/
theorem Node.typeExpr_failsIn {node : Node} (h : node.Inside root) : FailsIn root node.typeExpr :=
  (typeToDepth_failsIn node.height node).mono h

/-- Reading the type of a slot inside the root fails in the root. -/
theorem TypeSlot.typeExpr_failsIn {owner : Node} {slot : Option TypeSlot}
    (howner : owner.Inside root) (hslot : ∀ given, slot = some given → given.node.Inside root) :
    FailsIn root (TypeSlot.typeExpr (some owner) slot) := by
  exact TypeSlot.read_failsIn (fun _ => howner)
    fun given hgiven => Node.typeExpr_failsIn (hslot given hgiven)

/-- Reading an entry of an inheritance clause inside the root fails in the root. -/
theorem Node.inheritedType_failsIn {node : Node} (h : node.Inside root) :
    FailsIn root node.inheritedType := by
  unfold Node.inheritedType
  split
  · exact .ok _
  · split
    · exact Node.typeExpr_failsIn h
    · exact TypeSlot.typeExpr_failsIn h fun slot hslot =>
        (Node.below_of_slot? hslot).inside.trans h

/-! ## Requirements -/

theorem Requirement.bound_failsIn {name : String} {right : Except Failure TypeExpr}
    (hname : ∃ node : Node, node.Inside root ∧ node.text = name) (hright : FailsIn root right) :
    FailsIn root (Requirement.bound name right) :=
  .bind (.named hname) fun _ => hright.bind fun _ => .ok _

namespace Node

/-- The type on the left of a constraint is read from nodes inside the constraint. -/
theorem constrainedType_failsIn {constraint : Node} {left : List Node}
    (hleft : ∀ node ∈ left, node.Below constraint) :
    FailsIn constraint (constraint.constrainedType left) := by
  unfold constrainedType
  split
  · next name hname =>
    obtain ⟨side, hside, node, hinside, htext⟩ := text_of_constrainedName? hname
    exact .named ⟨node, hinside.trans (hleft side hside).inside, htext⟩
  · split
    · next node _ =>
      split
      · exact typeExpr_failsIn (hleft node (List.mem_singleton_self node)).inside
      · exact .drop (.self constraint)
    · exact .drop (.self constraint)

theorem requirement_failsIn (constraint : Node) : FailsIn constraint constraint.requirement := by
  have hparts (node : Node) (hmem : node ∈ constraint.constraintParts.left ∨
      node ∈ constraint.constraintParts.right) : node.Below constraint :=
    below_of_mem_constraintParts hmem
  unfold requirement
  simp only
  split
  · next relation first rest right _ hleft hright =>
    refine .bind (constrainedType_failsIn fun node hmem => hparts node (.inl (hleft ▸ hmem))) ?_
    intro left
    refine .bind (typeExpr_failsIn (hparts right (.inr ?_)).inside) fun _ => .ok _
    exact hright ▸ List.mem_singleton_self right
  · exact .drop (.self constraint)

theorem boundRequirements_failsIn (root : Node) : FailsIn root root.boundRequirements := by
  refine .mapM ?_
  rintro ⟨name, bound⟩ hmem
  obtain ⟨parameter, hparameter, hbound⟩ := List.mem_filterMap.mp hmem
  obtain ⟨node, hnode, hpair⟩ := Option.map_eq_some_iff.mp hbound
  cases hpair
  obtain ⟨⟨origin, horigin, htext⟩, hbelow⟩ := of_mem_genericParameters hparameter
  exact Requirement.bound_failsIn ⟨origin, horigin.inside, htext⟩
    (typeExpr_failsIn (hbelow _ hnode).inside)

theorem whereRequirements_failsIn (root : Node) : FailsIn root root.whereRequirements :=
  .mapM fun constraint hmem =>
    (requirement_failsIn constraint).mono (below_of_mem_whereConstraints hmem).inside

theorem requirements_failsIn (root : Node) : FailsIn root root.requirements :=
  .bind root.boundRequirements_failsIn fun _ => .bind root.whereRequirements_failsIn fun _ => .ok _

/-! ## Declarations -/

theorem declaredName_failsIn (root : Node) : FailsIn root root.declaredName := by
  unfold declaredName
  split
  · exact .ok _
  · exact .drop (.self root)

/-- The name of a declaration is the text of the node that has it. -/
theorem name_of_declaredName {root : Node} {name : String} (h : root.declaredName = .ok name) :
    ∃ origin ∈ root.nameNode?.toList, origin.text = name := by
  unfold declaredName identifier? at h
  cases hnode : root.nameNode? with
  | none =>
      rw [hnode] at h
      cases h
  | some origin =>
      rw [hnode] at h
      exact ⟨origin, List.mem_singleton_self origin, Except.ok.inj h⟩

theorem inheritance_failsIn (root : Node) : FailsIn root root.inheritance := by
  unfold inheritance
  split
  · exact .ok _
  · next entries hentries =>
    have hbelow := (of_inheritedTypes? hentries).2
    exact .bind (.mapM fun entry hmem => inheritedType_failsIn (hbelow entry hmem).inside)
      fun _ => .ok _

theorem parameterTypes_failsIn (root : Node) : FailsIn root root.parameterTypes := by
  refine .mapM fun parameter hmem => ?_
  have hinside : parameter.Inside root := (below_of_mem_namedOf hmem).inside
  exact TypeSlot.typeExpr_failsIn hinside fun slot hslot =>
    (below_of_slot? hslot).inside.trans hinside

theorem functionEntity_failsIn (root : Node) : FailsIn root root.functionEntity := by
  refine .bind root.declaredName_failsIn fun _ => .bind root.requirements_failsIn fun _ => ?_
  refine .bind root.parameterTypes_failsIn fun _ => .bind (.mapM fun slot hmem => ?_) fun _ => .ok _
  refine TypeSlot.typeExpr_failsIn (.self root) ?_
  rintro given ⟨⟩
  exact (below_of_slotAfter? (Option.mem_toList.mp hmem)).inside

theorem initializerEntity_failsIn (root : Node) : FailsIn root root.initializerEntity :=
  .bind root.requirements_failsIn fun _ => .bind root.parameterTypes_failsIn fun _ => .ok _

theorem subscriptEntity_failsIn (root : Node) : FailsIn root root.subscriptEntity := by
  refine .bind root.requirements_failsIn fun _ => .bind root.parameterTypes_failsIn fun _ => ?_
  refine .bind (TypeSlot.typeExpr_failsIn (.self root) fun slot hslot => ?_) fun _ => .ok _
  exact (below_of_slotAfter? hslot).inside

theorem associatedTypeEntity_failsIn (root : Node) : FailsIn root root.associatedTypeEntity := by
  refine .bind_of_eq root.declaredName_failsIn fun name hname => ?_
  -- The name stands on the left of every bound, so a bound may fail for want of a name.
  obtain ⟨origin, horigin, htext⟩ := name_of_declaredName hname
  have hplace : origin.Below root := below_of_nameNode? (Option.mem_toList.mp horigin)
  refine .bind (.mapM fun bound hmem => ?_) fun _ =>
    .bind root.whereRequirements_failsIn fun _ => .ok _
  cases hentries : root.inheritedTypes? with
  | none => simp [hentries] at hmem
  | some entries =>
      have hbelow := (of_inheritedTypes? hentries).2 bound (by simpa [hentries] using hmem)
      exact Requirement.bound_failsIn ⟨origin, hplace.inside, htext⟩
        (inheritedType_failsIn hbelow.inside)

theorem typeAliasEntity_failsIn (root : Node) : FailsIn root root.typeAliasEntity := by
  refine .bind root.declaredName_failsIn fun _ => .bind root.requirements_failsIn fun _ => ?_
  refine .bind (TypeSlot.typeExpr_failsIn (.self root) fun slot hslot => ?_) fun _ => .ok _
  exact (below_of_slotAfter? hslot).inside

theorem importEntity_failsIn (root : Node) : FailsIn root root.importEntity := by
  unfold importEntity
  split
  · exact .ok _
  · exact .drop (.self root)

/-- An extension fails in its node if its members do. -/
theorem extensionEntities_failsIn {scope : Scope} {members : Reading (List Entity)}
    (hmembers : FailsIn root members.result) :
    FailsIn root (root.extensionEntities scope members).result := by
  unfold extensionEntities
  split
  · exact .drop (.self root)
  · simp only [Reading.result_bind, Reading.result_ofResult]
    refine .bind root.inheritance_failsIn fun _ => .bind hmembers fun _ => ?_
    split
    · exact .drop (.self root)
    · next extended hextended =>
      simp only [Reading.result_bind, Reading.result_ofResult]
      refine .bind (typeExpr_failsIn (below_of_extendedType? hextended).inside) fun type => ?_
      split <;> exact .ok _

/-- A type with members fails in its node if its members do. -/
theorem nominalEntity_failsIn {kind : EntityKind} {members : Reading (List Entity)}
    (hmembers : FailsIn root members.result) :
    FailsIn root (root.nominalEntity kind members).result := by
  simp only [nominalEntity, Reading.result_bind, Reading.result_ofResult]
  refine .bind root.declaredName_failsIn fun _ => .bind root.requirements_failsIn fun _ => ?_
  exact .bind root.inheritance_failsIn fun _ => .bind hmembers fun _ => .ok _

theorem nominalEntities_failsIn {scope : Scope} {members : Reading (List Entity)}
    (hmembers : FailsIn root members.result) :
    FailsIn root (root.nominalEntities scope members).result := by
  unfold nominalEntities
  split
  · exact extensionEntities_failsIn hmembers
  · split
    · exact nominalEntity_failsIn hmembers
    · exact .drop (.self root)
  · exact .drop (.self root)

end Node

/-- A binding with parts inside the root fails in the root. -/
theorem Binding.entities_failsIn {kind : EntityKind} {descriptors : List Descriptor}
    {binding : Binding} (hpattern : binding.pattern.Inside root)
    (hslot : ∀ slot, binding.slot = some slot → slot.node.Inside root) :
    FailsIn root (binding.entities kind descriptors) := by
  unfold Binding.entities
  split
  · next name slot _ heq =>
    refine .bind (TypeSlot.typeExpr_failsIn hpattern ?_) fun _ => .ok _
    rintro given ⟨⟩
    exact hslot slot heq
  · exact .ok _

/-- A case element with values inside the root fails in the root. -/
theorem CaseElement.entities_failsIn {descriptors : List Descriptor} {element : CaseElement}
    (hvalues : ∀ values, element.values = some values → values.Inside root) :
    FailsIn root (element.entities descriptors) := by
  unfold CaseElement.entities
  split
  · exact .ok _
  · next values heq =>
    have hinside := hvalues values heq
    refine .bind (.mapM fun slot hmem => TypeSlot.typeExpr_failsIn hinside ?_) fun _ => .ok _
    rintro given rfl
    exact (Node.below_of_mem_elementSlots hmem).inside.trans hinside

/-! ## Walks -/

/-- A walk is ended by no drop, and by no other failure than reading the tree may end in. -/
def Progress.AbortsIn (root : Node) (progress : Progress) : Prop :=
  ∀ failure, progress.abort = some failure →
    (∀ cause, failure ≠ .drop cause) ∧ failure.ArisesIn root

namespace Progress.AbortsIn

theorem empty (root : Node) : Progress.empty.AbortsIn root := by
  intro failure hfailure
  cases hfailure

theorem append {first second : Progress} (hfirst : first.AbortsIn root)
    (hsecond : second.AbortsIn root) : (first.append second).AbortsIn root := by
  intro failure hfailure
  rcases abort_append hfailure with h | h
  · exact hfirst failure h
  · exact hsecond failure h

theorem mono {progress : Progress} {node : Node} (h : progress.AbortsIn node)
    (hinside : node.Inside root) : progress.AbortsIn root := by
  intro failure hfailure
  obtain ⟨hdrop, harises⟩ := h failure hfailure
  exact ⟨hdrop, harises.mono hinside⟩

/-- An attempt at something that fails in the tree is ended by no drop. -/
theorem attempt {subject : Attempt} {reading : Reading (List Entity)}
    (h : FailsIn root reading.result) : (Progress.attempt subject reading).AbortsIn root := by
  intro failure hfailure
  obtain ⟨hresult, hdrop⟩ := abort_attempt hfailure
  exact ⟨hdrop, h failure hresult⟩

theorem concat {walks : List Progress} (h : ∀ walk ∈ walks, walk.AbortsIn root) :
    (Progress.concat walks).AbortsIn root := by
  intro failure hfailure
  obtain ⟨walk, hmem, hwalk⟩ := abort_concat hfailure
  exact h walk hmem failure hwalk

/-- To read off what a walk has collected fails where the walk was ended. -/
theorem reading_failsIn {progress : Progress} (h : progress.AbortsIn root) :
    FailsIn root progress.reading.result := by
  intro failure hfailure
  exact (h failure (reading_eq_error.mp hfailure)).2

/-- All that can end a walk is a type without a name, in a tree with a node without text. -/
theorem nameless {progress : Progress} {failure : Failure} (h : progress.AbortsIn root)
    (hfailure : progress.abort = some failure) :
    failure = .shape .nameless ∧ ∃ node : Node, node.Inside root ∧ node.text = "" := by
  obtain ⟨hdrop, harises⟩ := h failure hfailure
  cases failure with
  | drop cause => exact absurd rfl (hdrop cause)
  | shape error => exact ⟨congrArg Failure.shape harises.1, harises.2⟩
  | layout error => exact absurd harises id

end Progress.AbortsIn

namespace Node

theorem propertyEntities_failsIn (root : Node) : FailsIn root root.propertyEntities.result := by
  unfold propertyEntities
  split
  · refine (Progress.AbortsIn.concat ?_).reading_failsIn
    intro walk hwalk
    obtain ⟨binding, hmem, rfl⟩ := List.mem_map.mp hwalk
    obtain ⟨hpattern, hslot⟩ := below_of_mem_bindings hmem
    exact .attempt (Binding.entities_failsIn hpattern.inside fun slot h => (hslot slot h).inside)
  · exact .drop (.self root)

theorem enumCaseEntities_failsIn (root : Node) : FailsIn root root.enumCaseEntities.result := by
  refine (Progress.AbortsIn.concat ?_).reading_failsIn
  intro walk hwalk
  obtain ⟨element, hmem, rfl⟩ := List.mem_map.mp hwalk
  exact .attempt (CaseElement.entities_failsIn fun values hvalues =>
    (below_of_mem_caseElements hmem hvalues).inside)

/-- A declaration of any form fails in its node if its members do. -/
theorem declarationEntities_failsIn {scope : Scope} {form : DeclForm}
    {members : Reading (List Entity)} (hmembers : FailsIn root members.result) :
    FailsIn root (root.declarationEntities scope form members).result := by
  cases form with
  | nominal => exact nominalEntities_failsIn hmembers
  | function => exact root.functionEntity_failsIn.map
  | initializer => exact root.initializerEntity_failsIn.map
  | deinitializer => exact .ok _
  | subscript => exact root.subscriptEntity_failsIn.map
  | enumCase => exact root.enumCaseEntities_failsIn
  | associatedType => exact root.associatedTypeEntity_failsIn.map
  | typeAlias => exact root.typeAliasEntity_failsIn.map
  | property => exact root.propertyEntities_failsIn
  | importing => exact root.importEntity_failsIn.map

/-- No drop ends a walk, whatever the tree. -/
theorem walk_abortsIn (scope : Scope) (root : Node) : (root.walk scope).AbortsIn root := by
  refine walk_induction (P := fun _ root progress => progress.AbortsIn root)
    ⟨fun _ => .empty, .append, ?_, ?_⟩ scope root
  · intro scope root child progress hmem h
    exact h.mono (below_of_mem_children hmem).inside
  · intro scope root form members _ hmembers
    exact .attempt (declarationEntities_failsIn hmembers.reading_failsIn)

end Node

end WordGrid
