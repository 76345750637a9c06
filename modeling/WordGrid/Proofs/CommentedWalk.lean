import WordGrid.Proofs.CommentedSlots
import WordGrid.Proofs.EntityShape
import WordGrid.Proofs.TypeEquation

/-!
# Summaries of trees with a comment

Every reader of a declaration settles on the same for a node and for the node with a comment that is
not mistaken, so a walk has the same outcome. Read `Document.entities_withComment` first: a comment
changes no summary, unless it stands where `Node.mistakesAt` says. `Document.commentOfWhere` is
a comment that stands there, and the declaration around it is lost.
-/

namespace WordGrid

/-! ## Types -/

/-- Lists of related items settle on the same if each two items do. -/
theorem settled_mapM_congr {α β γ : Type} {R : α → β → Prop} {f : α → Except Failure γ}
    {g : β → Except Failure γ} {left : List α} {right : List β}
    (h : ∀ item other, R item other → settled (f item) = settled (g other))
    (hitems : List.Forall₂ R left right) : settled (left.mapM f) = settled (right.mapM g) := by
  induction hitems with
  | nil => rfl
  | cons hfirst _ ih =>
      rw [List.mapM_cons, List.mapM_cons]
      refine settled_bind_congr (h _ _ hfirst) fun value => ?_
      exact settled_bind_congr ih fun values => rfl

/-- Only tuple types have the form of a tuple. -/
theorem Node.kind_of_typeForm?_tuple {node : Node} (h : node.typeForm? = some .tuple) :
    node.kind = "tuple_type" := by
  unfold typeForm? TypeForm.ofKind? at h
  split at h <;> simp_all

/-- Only function types have the form of a function. -/
theorem Node.kind_of_typeForm?_function {node : Node} (h : node.typeForm? = some .function) :
    node.kind = "function_type" := by
  unfold typeForm? TypeForm.ofKind? at h
  split at h <;> simp_all

/-- A reader of types that does not see comments. -/
def TypeReader.Overlooks (reader : TypeReader) : Prop :=
  ∀ node other, Node.Commented node other → settled (reader node) = settled (reader other)

namespace TypeReader.Overlooks

variable {reader : TypeReader} (h : reader.Overlooks)
include h

theorem readSlot {left right : Option TypeSlot} (hslot : Option.Rel TypeSlot.Commented left right)
    (owner other : Option Node) :
    settled (TypeSlot.read reader owner left) = settled (TypeSlot.read reader other right) := by
  cases hslot with
  | none => rfl
  | some hslot =>
      refine settled_bind_congr (h _ _ hslot.node) fun type => ?_
      rw [TypeSlot.mark, TypeSlot.mark, hslot.inout, hslot.unwrapped]

theorem readSlots {left right : List (Option TypeSlot)}
    (hslots : List.Forall₂ (Option.Rel TypeSlot.Commented) left right) (owner other : Option Node) :
    settled (left.mapM (TypeSlot.read reader owner)) =
      settled (right.mapM (TypeSlot.read reader other)) :=
  settled_mapM_congr (fun _ _ hslot => h.readSlot hslot owner other) hslots

theorem readComponent {left right : Component} (hcomponent : left.Commented right) :
    settled (left.read reader) = settled (right.read reader) := by
  unfold Component.read
  refine settled_bind_congr (settled_mapM_congr h hcomponent.arguments) fun arguments => ?_
  rw [hcomponent.name]

/-- A step of a reader that does not see comments does not see them. -/
theorem typeStep : TypeReader.Overlooks (WordGrid.typeStep reader) := by
  intro node other hnode
  have hcomponents := hnode.components
  have hwrapped := hnode.wrappedTypes
  unfold WordGrid.typeStep
  have hform : node.typeForm? = other.typeForm? := by
    rw [Node.typeForm?, Node.typeForm?, hnode.sameLook.kind]
  rw [← hform]
  cases hkind : node.typeForm? with
  | none => rfl
  | some form =>
      cases form with
      | user =>
          generalize node.components = left at hcomponents
          generalize other.components = right at hcomponents
          cases hcomponents with
          | nil => rfl
          | cons hfirst hrest =>
              cases hrest with
              | nil => exact h.readComponent hfirst
              | cons _ _ => rfl
      | array =>
          generalize node.wrappedTypes = left at hwrapped
          generalize other.wrappedTypes = right at hwrapped
          cases hwrapped with
          | nil => rfl
          | cons hfirst hrest =>
              cases hrest with
              | nil => exact settled_bind_congr (h _ _ hfirst) fun _ => rfl
              | cons _ _ => rfl
      | dictionary =>
          generalize node.wrappedTypes = left at hwrapped
          generalize other.wrappedTypes = right at hwrapped
          rcases hwrapped with _ | ⟨hkey, _ | ⟨hvalue, _ | _⟩⟩
          · rfl
          · rfl
          · refine settled_bind_congr (h _ _ hkey) fun _ => ?_
            exact settled_bind_congr (h _ _ hvalue) fun _ => rfl
          · rfl
      | optional =>
          rw [← hnode.optionalDepth]
          generalize node.wrappedTypes = left at hwrapped
          generalize other.wrappedTypes = right at hwrapped
          cases hwrapped with
          | nil => rfl
          | cons hfirst hrest =>
              cases hrest with
              | nil => exact settled_bind_congr (h _ _ hfirst) fun _ => rfl
              | cons _ _ => rfl
      | tuple =>
          have htuple : node.kind = "tuple_type" := Node.kind_of_typeForm?_tuple hkind
          have hlists : node.listsEntries := by simp [Node.listsEntries, Node.isOneOf, htuple]
          refine settled_bind_congr (h.readSlots (hnode.elementSlots hlists ?_) _ _) fun _ => rfl
          simp [htuple]
      | function =>
          have hslots := hnode.functionSlots? (Node.kind_of_typeForm?_function hkind)
          have hresult := hnode.functionResult?
          generalize node.functionSlots? = left at hslots
          generalize other.functionSlots? = right at hslots
          generalize node.functionResult? = result at hresult
          generalize other.functionResult? = otherResult at hresult
          cases hslots with
          | none => rfl
          | some hslots =>
              cases hresult with
              | none => rfl
              | some hresult =>
                  refine settled_bind_congr (h.readSlots hslots _ _) fun _ => ?_
                  exact settled_bind_congr (h _ _ hresult) fun _ => rfl
      | existential => exact settled_bind_congr (settled_mapM_congr h hwrapped) fun _ => rfl
      | unsupported => rfl

end TypeReader.Overlooks

theorem typeToDepth_overlooks (depth : Nat) : TypeReader.Overlooks (typeToDepth depth) := by
  induction depth with
  | zero => exact fun _ _ _ => rfl
  | succ depth ih => exact ih.typeStep

/-- Types are read alike with a comment, which may make the tree higher. -/
theorem typeExpr_overlooks : TypeReader.Overlooks Node.typeExpr := by
  intro node other h
  rw [← typeToDepth_eq_typeExpr (Nat.le_max_left node.height other.height),
    ← typeToDepth_eq_typeExpr (Nat.le_max_right node.height other.height)]
  exact typeToDepth_overlooks _ node other h

/-! ## Parts of declarations -/

/-- The type on the left of a constraint. -/
theorem Node.constrainedType_settled {node : Node} (hconstraint : node.isConstraint)
    {left right : List Node} (hsides : List.Forall₂ node.Keeps left right) (other : Node) :
    settled (node.constrainedType left) = settled (other.constrainedType right) := by
  unfold constrainedType
  cases hsides with
  | nil => rfl
  | @cons part part' _ _ hpart hrest =>
      cases hrest with
      | cons _ _ => rfl
      | nil =>
          rw [hpart.constrainedName? hconstraint]
          cases Node.constrainedName? [part'] with
          | some name => rfl
          | none =>
              show settled (if part.isType then part.typeExpr else _) =
                settled (if part'.isType then part'.typeExpr else _)
              rw [← hpart.1.sameLook.isType]
              split
              · exact typeExpr_overlooks _ _ hpart.1
              · rfl

namespace Node.Commented

variable {node other : Node} (h : Commented node other)
include h

theorem inheritedType : settled node.inheritedType = settled other.inheritedType := by
  unfold Node.inheritedType
  rw [← h.sameLook.text, ← h.sameLook.isType]
  split
  · rfl
  · split
    · exact typeExpr_overlooks _ _ h
    · exact typeExpr_overlooks.readSlot h.slot? _ _

theorem requirement : settled node.requirement = settled other.requirement := by
  have hparts := h.constraintParts
  unfold Node.requirement
  cases hconstraint : node.isConstraint with
  | false =>
      have hother : other.isConstraint = false := h.sameLook.isConstraint ▸ hconstraint
      simp only [Node.constraintParts, hconstraint, hother]
      rfl
  | true =>
      obtain ⟨hrelation, hleft, hright⟩ := hparts
      simp only [← hrelation]
      generalize node.constraintParts.left = left at hleft
      generalize other.constraintParts.left = left' at hleft
      generalize node.constraintParts.right = right at hright
      generalize other.constraintParts.right = right' at hright
      cases node.constraintParts.relation with
      | none => rfl
      | some relation =>
          cases hleft with
          | nil => rfl
          | cons hfirst hrest =>
              rcases hright with _ | ⟨hside, _ | _⟩
              · rfl
              · have hsides := constrainedType_settled hconstraint (.cons hfirst hrest) other
                refine settled_bind_congr hsides fun _ => ?_
                exact settled_bind_congr (typeExpr_overlooks _ _ hside) fun _ => rfl
              · rfl

theorem genericArguments : node.genericArguments = other.genericArguments :=
  map_eq_of_forall₂ h.genericParameters fun _ _ hparameter => hparameter.name

theorem boundRequirements : settled node.boundRequirements = settled other.boundRequirements := by
  unfold Node.boundRequirements
  refine settled_mapM_congr (fun left right hbound => ?_) (List.rel_filterMap
    (P := fun left right => left.1 = right.1 ∧ Commented left.2 right.2)
    (fun left right hparameter => ?_) h.genericParameters)
  · obtain ⟨hname, htype⟩ := hbound
    show settled (Requirement.bound left.1 _) = settled (Requirement.bound right.1 _)
    rw [hname]
    refine settled_bind_congr rfl fun _ => ?_
    exact settled_bind_congr (typeExpr_overlooks _ _ htype) fun _ => rfl
  · have hbound := hparameter.bound
    generalize left.bound = bound at hbound
    generalize right.bound = otherBound at hbound
    cases hbound with
    | none => exact .none
    | some htype => exact .some ⟨hparameter.name, htype⟩

theorem whereRequirements : settled node.whereRequirements = settled other.whereRequirements :=
  settled_mapM_congr (fun _ _ hconstraint => hconstraint.requirement) h.whereConstraints

theorem requirements : settled node.requirements = settled other.requirements := by
  refine settled_bind_congr h.boundRequirements fun _ => ?_
  exact settled_bind_congr h.whereRequirements fun _ => rfl

theorem declaredName : settled node.declaredName = settled other.declaredName := by
  unfold Node.declaredName
  rw [h.identifier?]
  cases other.identifier? <;> rfl

theorem inheritance : settled node.inheritance = settled other.inheritance := by
  have hentries := h.inheritedTypes?
  unfold Node.inheritance
  generalize node.inheritedTypes? = left at hentries
  generalize other.inheritedTypes? = right at hentries
  cases hentries with
  | none => rfl
  | some hentries =>
      exact settled_bind_congr
        (settled_mapM_congr (fun _ _ hentry => hentry.inheritedType) hentries) fun _ => rfl

theorem parameterTypes : settled node.parameterTypes = settled other.parameterTypes :=
  settled_mapM_congr (fun _ _ hparameter => typeExpr_overlooks.readSlot hparameter.slot? _ _)
    h.parameters

theorem parameterLabels : node.parameterLabels = other.parameterLabels := by
  have hkinds (parameter : Node) (hmem : parameter ∈ node.parameters) :
      parameter.kind = "parameter" := by
    simpa [Node.isOneOf] using (List.mem_filter.mp hmem).2
  unfold Node.parameterLabels
  rw [map_eq_of_forall₂ ((List.forall₂_and_left _ _).mpr ⟨hkinds, h.parameters⟩)
    fun _ _ hparameter => by rw [hparameter.2.parameterLabel hparameter.1]]

/-! ## Declarations -/

theorem functionEntity : settled node.functionEntity = settled other.functionEntity := by
  have hreturn := h.slotAfter? "->"
  unfold Node.functionEntity
  refine settled_bind_congr h.declaredName fun name => ?_
  refine settled_bind_congr h.requirements fun requirements => ?_
  refine settled_bind_congr h.parameterTypes fun parameters => ?_
  refine settled_bind_congr ?_ fun result => ?_
  · unfold returnSlot?
    generalize node.slotAfter? "->" = left at hreturn
    generalize other.slotAfter? "->" = right at hreturn
    cases hreturn with
    | none => rfl
    | some hslot =>
        exact settled_bind_congr (typeExpr_overlooks.readSlot (.some hslot) _ _) fun _ => rfl
  · rw [h.isMutating, h.throwing?, h.genericArguments, h.descriptors]

theorem initializerEntity : settled node.initializerEntity = settled other.initializerEntity := by
  unfold Node.initializerEntity
  refine settled_bind_congr h.requirements fun requirements => ?_
  refine settled_bind_congr h.parameterTypes fun parameters => ?_
  rw [h.throwing?, h.failability?, h.parameterLabels, h.genericArguments, h.descriptors]

theorem subscriptEntity : settled node.subscriptEntity = settled other.subscriptEntity := by
  unfold Node.subscriptEntity
  refine settled_bind_congr h.requirements fun requirements => ?_
  refine settled_bind_congr h.parameterTypes fun parameters => ?_
  refine settled_bind_congr (typeExpr_overlooks.readSlot (h.slotAfter? "->") _ _) fun result => ?_
  rw [h.parameterLabels, h.genericArguments, h.descriptors]

theorem associatedTypeEntity :
    settled node.associatedTypeEntity = settled other.associatedTypeEntity := by
  have hentries := h.inheritedTypes?
  unfold Node.associatedTypeEntity
  refine settled_bind_congr h.declaredName fun name => ?_
  refine settled_bind_congr ?_ fun bounds => ?_
  · have hbounds : List.Forall₂ Commented (node.inheritedTypes?.getD [])
        (other.inheritedTypes?.getD []) := by
      generalize node.inheritedTypes? = left at hentries
      generalize other.inheritedTypes? = right at hentries
      cases hentries with
      | none => exact .nil
      | some hentries => exact hentries
    refine settled_mapM_congr (fun _ _ hbound => ?_) hbounds
    refine settled_bind_congr rfl fun _ => ?_
    exact settled_bind_congr hbound.inheritedType fun _ => rfl
  · refine settled_bind_congr h.whereRequirements fun constraints => ?_
    rw [h.descriptors]

theorem typeAliasEntity : settled node.typeAliasEntity = settled other.typeAliasEntity := by
  unfold Node.typeAliasEntity
  refine settled_bind_congr h.declaredName fun name => ?_
  refine settled_bind_congr h.requirements fun requirements => ?_
  refine settled_bind_congr (typeExpr_overlooks.readSlot (h.slotAfter? "=") _ _) fun aliased => ?_
  rw [h.genericArguments, h.descriptors]

theorem importEntity : settled node.importEntity = settled other.importEntity := by
  unfold Node.importEntity
  rw [h.importPath?, h.descriptors]
  cases other.importPath? <;> rfl

variable {members others : Reading (List Entity)}

theorem extensionEntities (scope : Scope) (hmembers : members.result = others.result) :
    settled (node.extensionEntities scope members).result =
      settled (other.extensionEntities scope others).result := by
  have hextended := h.extendedType?
  unfold Node.extensionEntities
  split
  · rfl
  · simp only [Reading.result_bind, Reading.result_ofResult]
    refine settled_bind_congr h.inheritance fun predicates => ?_
    refine settled_bind_congr (by rw [hmembers]) fun children => ?_
    generalize node.extendedType? = left at hextended
    generalize other.extendedType? = right at hextended
    cases hextended with
    | none => rfl
    | some htype =>
        simp only [Reading.result_bind, Reading.result_ofResult]
        exact settled_bind_congr (typeExpr_overlooks _ _ htype) fun _ => rfl

theorem nominalEntity (kind : EntityKind) (hmembers : members.result = others.result) :
    settled (node.nominalEntity kind members).result =
      settled (other.nominalEntity kind others).result := by
  simp only [Node.nominalEntity, Reading.result_bind, Reading.result_ofResult]
  refine settled_bind_congr h.declaredName fun name => ?_
  refine settled_bind_congr h.requirements fun requirements => ?_
  refine settled_bind_congr h.inheritance fun predicates => ?_
  refine settled_bind_congr (by rw [hmembers]) fun children => ?_
  rw [h.genericArguments, h.descriptors]

theorem nominalEntities (scope : Scope) (hmembers : members.result = others.result) :
    settled (node.nominalEntities scope members).result =
      settled (other.nominalEntities scope others).result := by
  unfold Node.nominalEntities
  rw [h.nominalKeyword?]
  split
  · exact h.extensionEntities scope hmembers
  · split
    · exact h.nominalEntity _ hmembers
    · rfl
  · rfl

end Node.Commented

theorem Binding.Commented.entities {left right : Binding} (h : left.Commented right)
    (kind : EntityKind) (descriptors : List Descriptor) :
    settled (left.entities kind descriptors) = settled (right.entities kind descriptors) := by
  have hslot := h.slot
  unfold Binding.entities
  rw [h.name]
  generalize left.slot = slot at hslot
  generalize right.slot = otherSlot at hslot
  cases right.pattern.boundName? with
  | none => rfl
  | some name =>
      cases hslot with
      | none => rfl
      | some hslot =>
          exact settled_bind_congr (typeExpr_overlooks.readSlot (.some hslot) _ _) fun _ => rfl

theorem CaseElement.Commented.entities {left right : CaseElement} (h : left.Commented right)
    (descriptors : List Descriptor) :
    settled (left.entities descriptors) = settled (right.entities descriptors) := by
  have hvalues := h.values
  have hkind := h.kind
  unfold CaseElement.entities
  rw [h.name]
  generalize left.values = values at hvalues hkind
  generalize right.values = otherValues at hvalues
  cases hvalues with
  | none => rfl
  | @some list otherList hvalues =>
      have hlist : list.kind = "enum_type_parameters" := hkind list rfl
      have hlists : list.listsEntries := by
        rw [Node.listsEntries, Node.isOneOf, hlist]
        decide
      refine settled_bind_congr (typeExpr_overlooks.readSlots (hvalues.elementSlots hlists ?_) _ _)
        fun _ => rfl
      simp [hlist]

/-- Attempts at related things that settle on the same have the same outcome in turn. -/
theorem Progress.outcome_concat_attempts {α β : Type} {R : α → β → Prop} {left : List α}
    {right : List β} {subject : α → Attempt} {otherSubject : β → Attempt}
    {read : α → Except Failure (List Entity)} {otherRead : β → Except Failure (List Entity)}
    (h : ∀ item other, R item other → settled (read item) = settled (otherRead other))
    (hitems : List.Forall₂ R left right) :
    (concat (left.map fun item => attempt (subject item) (.ofResult (read item)))).outcome =
      (concat (right.map fun item =>
        attempt (otherSubject item) (.ofResult (otherRead item)))).outcome := by
  induction hitems with
  | nil => rfl
  | cons hfirst _ ih =>
      rw [List.map_cons, List.map_cons, concat, concat]
      refine outcome_append_congr ?_ ih
      rw [outcome_attempt, outcome_attempt, Reading.result_ofResult, Reading.result_ofResult,
        h _ _ hfirst]

/-- Only property declarations have the form of a property. -/
theorem Node.isProperty_of_property {scope : Scope} {node : Node}
    (h : scope.declForm? node.kind = some .property) : node.isProperty := by
  unfold Scope.declForm? DeclForm.ofKind? at h
  unfold isProperty isOneOf
  split at h
  · split at h <;> cases h
  · split at h <;> simp_all

/-- Only enum entries have the form of a case. -/
theorem Node.kind_of_enumCase {scope : Scope} {node : Node}
    (h : scope.declForm? node.kind = some .enumCase) : node.kind = "enum_entry" := by
  unfold Scope.declForm? DeclForm.ofKind? at h
  split at h
  · split at h <;> cases h
  · split at h <;> simp_all

namespace Node.Commented

variable {node other : Node} (h : Commented node other)
include h

theorem propertyEntities (hproperty : node.isProperty) :
    settled node.propertyEntities.result = settled other.propertyEntities.result := by
  unfold Node.propertyEntities
  rw [h.bindingKeyword?, h.descriptors]
  split
  · exact congrArg settled (Progress.result_reading_congr (Progress.outcome_concat_attempts
      (fun _ _ hbinding => hbinding.entities _ _) (h.bindings hproperty)))
  · rfl

theorem enumCaseEntities (hkind : node.kind = "enum_entry") :
    settled node.enumCaseEntities.result = settled other.enumCaseEntities.result := by
  unfold Node.enumCaseEntities
  rw [h.descriptors]
  exact congrArg settled (Progress.result_reading_congr (Progress.outcome_concat_attempts
    (fun _ _ helement => helement.entities _) (h.caseElements hkind)))

/-- Declarations with a comment settle on the same as without. -/
theorem declarationEntities {scope : Scope} {form : DeclForm}
    {members others : Reading (List Entity)} (hform : scope.declForm? node.kind = some form)
    (hmembers : members.result = others.result) :
    settled (node.declarationEntities scope form members).result =
      settled (other.declarationEntities scope form others).result := by
  have hsingle {left right : Except Failure Entity} (hread : settled left = settled right) :
      settled (left.map ([·])) = settled (right.map ([·])) := by
    have hmap (result : Except Failure Entity) :
        result.map ([·]) = result >>= fun entity => .ok [entity] := by
      cases result <;> rfl
    rw [hmap, hmap]
    exact settled_bind_congr hread fun _ => rfl
  cases form with
  | nominal => exact h.nominalEntities scope hmembers
  | function => exact hsingle h.functionEntity
  | initializer => exact hsingle h.initializerEntity
  | deinitializer =>
      rw [Node.declarationEntities, Node.declarationEntities, deinitializerEntity,
        deinitializerEntity, h.descriptors]
  | subscript => exact hsingle h.subscriptEntity
  | enumCase => exact h.enumCaseEntities (kind_of_enumCase hform)
  | associatedType => exact hsingle h.associatedTypeEntity
  | typeAlias => exact hsingle h.typeAliasEntity
  | property => exact h.propertyEntities (isProperty_of_property hform)
  | importing => exact hsingle h.importEntity

end Node.Commented

/-! ## Walks -/

namespace Node

/-- Nodes with the same look, over which walks have the same outcome. -/
def WalksAlike (left right : Node) : Prop :=
  left.SameLook right ∧ ∀ scope, (left.walk scope).outcome = (right.walk scope).outcome

/-- A walk finds nothing in a comment. -/
theorem walk_comment {comment : Node} (h : comment.isComment) (scope : Scope) :
    comment.walk scope = .empty := by
  have hkind := kind_mem_of_isComment h
  simp only [commentKinds, List.mem_cons, List.not_mem_nil, or_false] at hkind
  have hform : scope.declForm? comment.kind = none := by
    rcases hkind with hkind | hkind <;> rw [hkind] <;> rfl
  rw [walk_of_declForm?_none hform, children_of_isComment h]
  rfl

section

variable {nodes others : List Node}
  (h : Scattered WalksAlike (fun comment => comment.isComment) nodes others) (scope : Scope)
include h

theorem walkAll_scattered : (walkAll scope nodes).outcome = (walkAll scope others).outcome := by
  induction h with
  | nil => rfl
  | keep hnode _ ih =>
      rw [walkAll, walkAll, hnode.1.named]
      split
      · exact Progress.outcome_append_congr (hnode.2 scope) ih
      · exact ih
  | @put comment nodes others hcomment _ ih =>
      rw [walkAll.eq_2 scope comment, if_pos (isNamed_of_isComment hcomment), walk_comment hcomment,
        Progress.outcome_append_of_nothing rfl]
      exact ih

theorem walkMembers_scattered :
    (walkMembers scope nodes).outcome = (walkMembers scope others).outcome := by
  induction h with
  | nil => rfl
  | keep hnode _ ih =>
      rw [walkMembers, walkMembers, hnode.1.named, isMemberBlock, isMemberBlock, hnode.1.isOneOf]
      split
      · exact hnode.2 _
      · exact ih
  | @put comment nodes others hcomment _ ih =>
      rw [walkMembers.eq_2 scope comment, isMemberBlock,
        isOneOf_of_isComment hcomment (by decide), Bool.and_false]
      exact ih

end

/-- A walk over a tree with a comment has the same outcome if the walks over its children do. -/
theorem Commented.walk_of_children {node other : Node} (h : Commented node other)
    (hchildren : Scattered WalksAlike (fun comment => comment.isComment) node.children
      other.children) : node.WalksAlike other := by
  refine ⟨h.sameLook, fun scope => ?_⟩
  have hkind : scope.declForm? node.kind = scope.declForm? other.kind := by rw [h.sameLook.kind]
  cases hform : scope.declForm? node.kind with
  | none =>
      rw [walk_of_declForm?_none hform, walk_of_declForm?_none (hkind ▸ hform)]
      exact walkAll_scattered hchildren scope
  | some form =>
      have hmembers := Progress.result_reading_congr (walkMembers_scattered hchildren scope)
      rw [walk_of_declForm? hform, walk_of_declForm? (hkind ▸ hform), Progress.outcome_attempt,
        Progress.outcome_attempt, h.declarationEntities hform hmembers]

/-- A comment that is not mistaken changes no outcome. -/
theorem Commented.walksAlike {node other : Node} (h : Commented node other) :
    node.WalksAlike other := by
  have hsame (child : Node) : child.WalksAlike child := ⟨.refl child, fun _ => rfl⟩
  induction h with
  | same node => exact hsame node
  | here hcomment hplace =>
      exact (Commented.here hcomment hplace).walk_of_children (scattered_split hsame hcomment _ _)
  | inside hchild hreads ih =>
      exact (Commented.inside hchild hreads).walk_of_children
        (.of_forall₂ (forall₂_split hsame ih _ _))

/-! ## Documents -/

/-- Giving other labels keeps the places of children. -/
theorem relabel_withChildAt {change : Label → Label}
    (hchange : ∀ place label, change (label.withRoom place) = (change label).withRoom place)
    (place : Nat) (comment : Node) (path : List Nat) (node : Node) :
    (withChildAt place comment path node).relabel change =
      withChildAt place (comment.relabel change) path (node.relabel change) := by
  induction path generalizing node with
  | nil =>
      obtain ⟨label, children⟩ := node
      simp only [withChildAt, withChild, relabel, relabelAll_eq_map, hchange, List.map_append,
        List.map_cons, List.map_take, List.map_drop, List.length_take, List.length_map]
  | cons position path ih =>
      obtain ⟨label, children⟩ := node
      simp only [withChildAt, relabel, relabelAll_eq_map]
      cases hchild : children[position]? with
      | none =>
          have hshort := List.getElem?_eq_none_iff.mp hchild
          rw [List.modify_eq_self hshort, List.modify_eq_self (by rwa [List.length_map])]
      | some child =>
          obtain ⟨before, after, rfl, rfl⟩ := exists_split hchild
          rw [modify_split, List.map_append, List.map_append, List.map_cons, List.map_cons, ih,
            ← List.length_map (f := relabel change), modify_split]

end Node

namespace Document

/-- A document with a comment put into its tree, at a place below the node at a path. -/
def withComment (document : Document) (path : List Nat) (place : Nat) (comment : Node) : Document :=
  { document with tree := Node.withChildAt place comment path document.tree }

/-- Is a comment at a place below the node at a path taken for something else? -/
def mistakesComment (document : Document) (path : List Nat) (place : Nat) (comment : Node) : Bool :=
  Node.mistakesAt place (document.source.annotate comment) path document.root

/-- A comment changes no summary unless it is taken for something else: with it and without it, a
document has the same entities, or fails alike. -/
theorem entities_withComment (document : Document) (imports : Bool) (file : Option String)
    {path : List Nat} {place : Nat} {comment : Node} (hcomment : comment.isComment)
    (hplace : document.mistakesComment path place comment = false) :
    ((document.withComment path place comment).entities imports file).result =
      (document.entities imports file).result := by
  have hroot : (document.withComment path place comment).root =
      Node.withChildAt place (document.source.annotate comment) path document.root :=
    Node.relabel_withChildAt (fun _ _ => rfl) place comment path document.tree
  have hannotated : (document.source.annotate comment).isComment := by
    obtain ⟨label, children⟩ := comment
    obtain rfl : children = [] := Node.children_of_isComment hcomment
    exact hcomment
  have hcommented := Node.commented_withChildAt hannotated hplace
  rw [result_entities, result_entities, hroot]
  exact (Progress.result_reading_congr (hcommented.walksAlike.2 ⟨imports, false⟩)).symm

/-- The source `func f<T>() where T:/*c*/P{}` with its tree, but for the comment. -/
def functionWithWhere : Document where
  source := .ofString "func f<T>() where T:/*c*/P\x7b\x7d"
  tree := .over "source_file" 0 28 [.over "function_declaration" 0 28 [
    .tokenOver "func" 0 4,
    .over "simple_identifier" 5 6 [],
    .over "type_parameters" 6 9 [.tokenOver "<" 6 7,
      .over "type_parameter" 7 8 [.over "type_identifier" 7 8 []], .tokenOver ">" 8 9],
    .tokenOver "(" 9 10,
    .tokenOver ")" 10 11,
    .over "type_constraints" 12 26 [.over "where_keyword" 12 17 [],
      .over "type_constraint" 18 26 [.over "inheritance_constraint" 18 26 [
        .over "identifier" 18 19 [.over "simple_identifier" 18 19 []],
        .tokenOver ":" 19 20,
        .over "user_type" 25 26 [.over "type_identifier" 25 26 []]]]],
    .over "function_body" 26 28 [.tokenOver "\x7b" 26 27, .tokenOver "\x7d" 27 28]]]

/-- The comment of the function. -/
def commentOfWhere : Node :=
  .over "multiline_comment" 20 25 []

/-- The entity of the function. -/
def entityOfWhere : Entity where
  name := "f"
  kind := .function
  genericArguments := ["T"]
  requirements := [⟨.named "T" [], .conforms, .named "P" []⟩]

/-- In front of the constraint the comment is passed over. -/
theorem entities_withComment_beforeConstraint :
    functionWithWhere.mistakesComment [0, 5] 1 commentOfWhere = false ∧
      ((functionWithWhere.withComment [0, 5] 1 commentOfWhere).entities false none).result =
        .ok [entityOfWhere] := by
  have hplace : functionWithWhere.mistakesComment [0, 5] 1 commentOfWhere = false := by
    decide +kernel
  have hentities : (functionWithWhere.entities false none).result = .ok [entityOfWhere] := rfl
  refine ⟨hplace, ?_⟩
  rw [entities_withComment functionWithWhere false none rfl hplace]
  exact hentities

/-- Inside the constraint, where it stands in the source, it counts as a second type after the
colon, and the whole function is lost. -/
theorem entities_lost_by_commentOfWhere :
    commentOfWhere.isComment ∧
      (functionWithWhere.entities false none).result = .ok [entityOfWhere] ∧
      ((functionWithWhere.withComment [0, 5, 1, 0] 2 commentOfWhere).entities false none).result =
        .ok [] :=
  ⟨rfl, rfl, rfl⟩

end Document

end WordGrid
