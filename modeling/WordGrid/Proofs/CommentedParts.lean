import WordGrid.Proofs.Comments

/-!
# Parts of a node with a comment

A summary asks a node for its parts by their kind, their role and their order. A comment that is not
mistaken (`Node.mistakes`) is passed over by these questions: the parts of a node and those of the
node with a comment are the same, up to the comment inside one of them.
-/

namespace WordGrid

namespace Node

/-! ## What is asked of a node with a comment -/

/-- The same nodes at a position. -/
theorem getElem?_rel {R : Node → Node → Prop} {left right : List Node}
    (h : List.Forall₂ R left right) (position : Nat) :
    Option.Rel R left[position]? right[position]? := by
  induction h generalizing position with
  | nil => exact .none
  | cons hnode _ ih =>
      cases position with
      | zero => exact .some hnode
      | succ position => simpa using ih position

/-- A child is found at its shifted position. -/
theorem getElem?_shifted (before after : List Node) (comment : Node) (position : Nat) :
    (before ++ comment :: after)[shifted before.length position]? =
      (before ++ after)[position]? := by
  unfold shifted
  by_cases hposition : position < before.length
  · rw [if_pos hposition, List.getElem?_append_left hposition, List.getElem?_append_left hposition]
  · have hroom : position + 1 - before.length = position - before.length + 1 := by omega
    rw [if_neg hposition, List.getElem?_append_right (by omega),
      List.getElem?_append_right (by omega), hroom, List.getElem?_cons_succ]

theorem lookup_withRoom (place : Nat) (label : Label) (role : String) :
    (label.withRoom place).fields.lookup role =
      (label.fields.lookup role).map (List.map (shifted place)) := by
  show (label.fields.map _).lookup role = _
  induction label.fields with
  | nil => rfl
  | cons first rest ih =>
      rw [List.map_cons, List.lookup_cons, List.lookup_cons, ih]
      cases role == first.1 <;> rfl

namespace Commented

variable {node other : Node} (h : Commented node other)

theorem optionRel_same (node : Option Node) : Option.Rel Commented node node := by
  cases node with
  | none => exact .none
  | some node => exact .some (.same node)

theorem forall₂_same (nodes : List Node) : List.Forall₂ Commented nodes nodes :=
  List.forall₂_same.mpr fun node _ => .same node

include h

/-- The children of a tree with a comment, whatever the tree is. -/
theorem scattered : Scattered Commented (fun comment => comment.isComment) node.children
    other.children :=
  h.children.mono (fun _ _ hkeeps => hkeeps.1) fun _ hadmits => hadmits.isComment

/-- The children in a role. -/
theorem fieldChildren (role : String) :
    List.Forall₂ Commented (node.fieldChildren role) (other.fieldChildren role) := by
  cases h with
  | same => exact forall₂_same _
  | @here label before after comment _ _ =>
      have hsame : (⟨label.withRoom before.length, before ++ comment :: after⟩ : Node).fieldChildren
          role = (⟨label, before ++ after⟩ : Node).fieldChildren role := by
        unfold Node.fieldChildren
        simp only [lookup_withRoom]
        cases label.fields.lookup role with
        | none => rfl
        | some positions =>
            simp only [Option.map_some, Option.getD_some, List.filterMap_map]
            exact List.filterMap_congr fun position _ =>
              getElem?_shifted before after comment position
      rw [hsame]
      exact forall₂_same _
  | @inside label before after child other hchild _ =>
      have hchildren := forall₂_split Commented.same hchild before after
      unfold Node.fieldChildren
      refine List.rel_filterMap (R := Eq) ?_ (List.forall₂_same.mpr fun _ _ => rfl)
      rintro position _ rfl
      exact getElem?_rel hchildren position

/-- The child in a role. -/
theorem fieldChild? (role : String) :
    Option.Rel Commented (node.fieldChild? role) (other.fieldChild? role) := by
  cases h with
  | same => exact optionRel_same _
  | @here label before after comment _ _ =>
      have hsame : (⟨label.withRoom before.length, before ++ comment :: after⟩ : Node).fieldChild?
          role = (⟨label, before ++ after⟩ : Node).fieldChild? role := by
        unfold Node.fieldChild?
        simp only [lookup_withRoom]
        rcases label.fields.lookup role with _ | _ | ⟨position, rest⟩
        · rfl
        · rfl
        · exact getElem?_shifted before after comment position
      rw [hsame]
      exact optionRel_same _
  | @inside label before after child other hchild _ =>
      unfold Node.fieldChild?
      rcases label.fields.lookup role with _ | _ | ⟨position, rest⟩
      · exact .none
      · exact .none
      · exact getElem?_rel (forall₂_split Commented.same hchild before after) position

section NamedChildren

variable {test : Node → Bool}
  (hlook : ∀ left right : Node, left.SameLook right → test left = test right)
  (hcomment : ∀ comment : Node, comment.isComment → test comment = false)
include hlook hcomment

/-- Named children that pass a test of looks, which no comment passes. -/
theorem namedChildren_filter :
    List.Forall₂ Commented (node.namedChildren.filter test) (other.namedChildren.filter test) := by
  unfold Node.namedChildren
  rw [List.filter_filter, List.filter_filter]
  refine h.scattered.forall₂_filter (fun left right hchild => ?_) fun comment hextra => ?_
  · rw [hlook left right hchild.sameLook, hchild.sameLook.named]
  · rw [hcomment comment hextra, Bool.false_and]

/-- The first named child that passes a test of looks, which no comment passes. -/
theorem namedChildren_find? :
    Option.Rel Commented (node.namedChildren.find? test) (other.namedChildren.find? test) := by
  rw [← List.head?_filter, ← List.head?_filter]
  exact head?_rel (h.namedChildren_filter hlook hcomment)

end NamedChildren

/-- Named children of kinds that no comment has. -/
theorem namedOf {kinds : List String} (hkinds : ∀ kind ∈ kinds, kind ∉ commentKinds) :
    List.Forall₂ Commented (node.namedOf kinds) (other.namedOf kinds) :=
  h.namedChildren_filter (fun _ _ hlook => hlook.isOneOf kinds)
    fun _ hcomment => isOneOf_of_isComment hcomment hkinds

theorem firstNamedOf? {kinds : List String} (hkinds : ∀ kind ∈ kinds, kind ∉ commentKinds) :
    Option.Rel Commented (node.firstNamedOf? kinds) (other.firstNamedOf? kinds) :=
  h.namedChildren_find? (fun _ _ hlook => hlook.isOneOf kinds)
    fun _ hcomment => isOneOf_of_isComment hcomment hkinds

/-- Named children that are types. -/
theorem wrappedTypes : List.Forall₂ Commented node.wrappedTypes other.wrappedTypes :=
  h.namedChildren_filter (fun _ _ hlook => hlook.isType) fun _ hcomment =>
    isType_of_isComment hcomment

theorem firstType? : Option.Rel Commented node.firstType? other.firstType? :=
  h.namedChildren_find? (fun _ _ hlook => hlook.isType) fun _ hcomment =>
    isType_of_isComment hcomment

/-- A comment is no token. -/
theorem optionalDepth : node.optionalDepth = other.optionalDepth := by
  have htokens : List.Forall₂ Commented (node.children.filter (!·.isNamed))
      (other.children.filter (!·.isNamed)) := by
    refine h.scattered.forall₂_filter (fun left right hchild => ?_) fun comment hcomment => ?_
    · rw [hchild.sameLook.named]
    · rw [isNamed_of_isComment hcomment, Bool.not_true]
  have hmarks : (node.children.filter (!·.isNamed)).map (·.kind.toList) =
      (other.children.filter (!·.isNamed)).map (·.kind.toList) :=
    map_eq_of_forall₂ htokens fun _ _ htoken => by rw [htoken.sameLook.kind]
  simp only [Node.optionalDepth, List.flatMap_def, hmarks]

end Commented

/-- What is read off nodes that are both missing or look the same. -/
theorem map_eq_of_rel {α : Type} {left right : Option Node} {look : Node → α}
    (h : Option.Rel Commented left right)
    (hlook : ∀ node other, node.SameLook other → look node = look other) :
    left.map look = right.map look := by
  cases h with
  | none => rfl
  | some hnode => exact congrArg some (hlook _ _ hnode.sameLook)

end Node

/-- Components with the same name and with arguments that differ by a comment. -/
structure Component.Commented (left right : Component) : Prop where
  name : left.name = right.name
  arguments : List.Forall₂ Node.Commented left.arguments right.arguments

/-- A comment belongs to no component. -/
theorem Component.ofNodes_commented {nodes others : List Node}
    (h : Scattered Node.Commented (fun comment => comment.isComment) nodes others) :
    List.Forall₂ Component.Commented (ofNodes nodes) (ofNodes others) := by
  induction h with
  | nil => exact .nil
  | @keep node other nodes others hnode hrest ih =>
      rw [ofNodes, ofNodes, hnode.sameLook.isIdentifier]
      split
      · have hown : Scattered Node.Commented (fun comment => comment.isComment)
            (nodes.takeWhile (!·.isIdentifier)) (others.takeWhile (!·.isIdentifier)) := by
          refine hrest.takeWhile (fun left right hchild => ?_) fun comment hcomment => ?_
          · rw [hchild.sameLook.isIdentifier]
          · rw [Node.isIdentifier, Node.isOneOf_of_isComment hcomment (by decide), Bool.not_false]
        have hlists := hown.forall₂_filter
          (fun left right hchild => hchild.sameLook.isOneOf ["type_arguments"])
          fun comment hcomment => Node.isOneOf_of_isComment hcomment (by decide)
        refine .cons ⟨hnode.sameLook.text, ?_⟩ ih
        exact List.rel_flatMap hlists fun _ _ hlist => hlist.wrappedTypes
      · exact ih
  | @put comment nodes others hcomment _ ih =>
      rw [ofNodes.eq_2, Node.isIdentifier, Node.isOneOf_of_isComment hcomment (by decide)]
      exact ih

/-- Generic parameters with the same name and with bounds that differ by a comment. -/
structure GenericParameter.Commented (left right : GenericParameter) : Prop where
  name : left.name = right.name
  bound : Option.Rel Node.Commented left.bound right.bound

namespace Node.Commented

variable {node other : Node} (h : Commented node other)
include h

theorem components : List.Forall₂ Component.Commented node.components other.components := by
  refine Component.ofNodes_commented (h.scattered.filter fun left right hchild => ?_)
  exact hchild.sameLook.named

theorem nominalKeyword? : node.nominalKeyword? = other.nominalKeyword? := by
  have hrole := h.fieldChild? "declaration_kind"
  unfold Node.nominalKeyword?
  rw [h.sameLook.kind]
  split
  · rfl
  · generalize node.fieldChild? "declaration_kind" = left at hrole
    generalize other.fieldChild? "declaration_kind" = right at hrole
    cases hrole with
    | some hkeyword => exact congrArg some hkeyword.sameLook.text
    | none =>
        refine map_eq_of_rel (h.scattered.find? (fun left right hchild => ?_)
          fun comment hcomment => ?_) fun _ _ hlook => hlook.kind
        · rw [hchild.sameLook.named, hchild.sameLook.isOneOf]
        · rw [isNamed_of_isComment hcomment, Bool.not_true, Bool.false_and]

theorem nameNode? : Option.Rel Commented node.nameNode? other.nameNode? := by
  have hname := h.fieldChild? "name"
  have hfirst := @firstNamedOf? _ _ h ["simple_identifier", "type_identifier"] (by decide)
  unfold Node.nameNode?
  generalize node.fieldChild? "name" = left at hname
  generalize other.fieldChild? "name" = right at hname
  cases hname with
  | none => exact hfirst
  | @some child name hchild =>
      simp only [hchild.sameLook.isIdentifier, hchild.sameLook.named]
      split
      · exact .some hchild
      · exact hfirst

theorem identifier? : node.identifier? = other.identifier? :=
  map_eq_of_rel h.nameNode? fun _ _ hlook => hlook.text

theorem extendedType? : Option.Rel Commented node.extendedType? other.extendedType? := by
  have hname := h.fieldChild? "name"
  unfold Node.extendedType?
  generalize node.fieldChild? "name" = left at hname
  generalize other.fieldChild? "name" = right at hname
  cases hname with
  | none => exact h.firstType?
  | @some child name hchild =>
      show Option.Rel Commented (if child.isType then some child else node.firstType?)
        (if name.isType then some name else other.firstType?)
      rw [hchild.sameLook.isType]
      split
      · exact .some hchild
      · exact h.firstType?

theorem genericParameters :
    List.Forall₂ GenericParameter.Commented node.genericParameters other.genericParameters := by
  have hlist := @firstNamedOf? _ _ h ["type_parameters"] (by decide)
  unfold Node.genericParameters
  generalize node.firstNamedOf? ["type_parameters"] = left at hlist
  generalize other.firstNamedOf? ["type_parameters"] = right at hlist
  cases hlist with
  | none => exact .nil
  | some hlist =>
      refine List.rel_filterMap (fun parameter parameter' hparameter => ?_)
        (hlist.namedOf (by decide))
      have hname := @firstNamedOf? _ _ hparameter ["type_identifier", "simple_identifier"]
        (by decide)
      show Option.Rel _ ((parameter.firstNamedOf? _).bind _) ((parameter'.firstNamedOf? _).bind _)
      generalize parameter.firstNamedOf? _ = left at hname
      generalize parameter'.firstNamedOf? _ = right at hname
      cases hname with
      | none => exact .none
      | some hname => exact .some ⟨hname.sameLook.text, hparameter.firstType?⟩

/-- A comment in a clause is no constraint. -/
theorem clauseConstraints :
    List.Forall₂ Commented node.clauseConstraints other.clauseConstraints := by
  have hconstraints (left right : Node) (hchild : Commented left right) :
      List.Forall₂ Commented (left.namedChildren.filter isConstraint)
        (right.namedChildren.filter isConstraint) := hchild.namedOf (by decide)
  have hnamed := h.scattered.filter fun left right hchild => hchild.sameLook.named
  unfold Node.clauseConstraints Node.namedChildren
  generalize node.children.filter isNamed = nodes at hnamed
  generalize other.children.filter isNamed = others at hnamed
  induction hnamed with
  | nil => exact .nil
  | @keep child child' _ _ hchild _ ih =>
      rw [List.flatMap_cons, List.flatMap_cons]
      refine List.rel_append ?_ ih
      rw [hchild.sameLook.kind, hchild.sameLook.isConstraint]
      split
      · exact hconstraints _ _ hchild
      · split
        · exact .cons hchild .nil
        · exact .nil
  | @put comment _ _ hcomment _ ih =>
      have hkind : (comment.kind == "type_constraint") = false :=
        beq_eq_false_iff_ne.mpr (kind_ne_of_isComment hcomment (by decide))
      rw [List.flatMap_cons, hkind, isConstraint, isOneOf_of_isComment hcomment (by decide)]
      exact ih

theorem whereConstraints :
    List.Forall₂ Commented node.whereConstraints other.whereConstraints := by
  have hlist := @firstNamedOf? _ _ h ["type_parameters"] (by decide)
  unfold Node.whereConstraints
  generalize node.firstNamedOf? ["type_parameters"] = left at hlist
  generalize other.firstNamedOf? ["type_parameters"] = right at hlist
  refine List.rel_flatMap (List.rel_append ?_ (h.namedOf (by decide))) fun _ _ hclause =>
    hclause.clauseConstraints
  cases hlist with
  | none => exact .nil
  | some hlist => exact hlist.namedOf (by decide)

/-- The modifiers in a list, as far as they show in a summary. -/
theorem tellingModifiers (hkind : node.kind = "modifiers") :
    (node.namedChildren.filterMap modifierKeyword?).filter isTelling =
      (other.namedChildren.filterMap modifierKeyword?).filter isTelling := by
  have hnamed := h.children.filter fun left right hchild => hchild.1.sameLook.named
  rw [List.filter_filterMap, List.filter_filterMap]
  refine hnamed.filterMap_eq (fun left right hchild => ?_) fun comment hcomment => ?_
  · rw [hchild.1.sameLook.modifierKeyword?]
  · have htelling := hcomment.modifier hkind
    cases hkeyword : comment.modifierKeyword? with
    | none => rfl
    | some keyword =>
        rw [hkeyword, Option.any_some] at htelling
        rw [Option.filter_some, htelling]
        rfl

/-- The modifiers of a declaration, as far as they show in a summary. -/
theorem modifierKeywords :
    node.modifierKeywords.filter isTelling = other.modifierKeywords.filter isTelling := by
  have hlists := @namedOf _ _ h ["modifiers"] (by decide)
  have htokens := h.scattered.forall₂_filter
    (fun left right hchild => hchild.sameLook.isToken "indirect")
    fun comment hcomment => isToken_of_isComment hcomment "indirect"
  have hkinds (list : Node) (hlist : list ∈ node.namedOf ["modifiers"]) :
      list.kind = "modifiers" := by
    simpa [Node.namedOf, Node.isOneOf] using (List.mem_filter.mp hlist).2
  unfold Node.modifierKeywords
  rw [List.filter_append, List.filter_append, List.filter_flatMap, List.filter_flatMap,
    map_eq_of_forall₂ htokens fun _ _ htoken => htoken.sameLook.kind]
  congr 1
  rw [List.flatMap_def, List.flatMap_def]
  congr 1
  exact map_eq_of_forall₂ ((List.forall₂_and_left _ _).mpr ⟨hkinds, hlists⟩)
    fun _ _ hlist => hlist.2.tellingModifiers hlist.1

theorem descriptors : node.descriptors = other.descriptors := by
  have htelling (keywords : List String) : keywords.filterMap Descriptor.ofModifier? =
      (keywords.filter isTelling).filterMap Descriptor.ofModifier? := by
    rw [List.filterMap_filter]
    refine List.filterMap_congr fun keyword _ => ?_
    unfold isTelling
    cases Descriptor.ofModifier? keyword <;> simp
  unfold Node.descriptors
  rw [htelling, htelling other.modifierKeywords, h.modifierKeywords]

theorem isMutating : node.isMutating = other.isMutating := by
  have htelling (keywords : List String) :
      keywords.contains "mutating" = (keywords.filter isTelling).contains "mutating" := by
    rw [Bool.eq_iff_iff, List.contains_iff_mem, List.contains_iff_mem, List.mem_filter]
    exact (and_iff_left (by decide)).symm
  unfold Node.isMutating
  rw [htelling, htelling other.modifierKeywords, h.modifierKeywords]

theorem inheritedTypes? :
    Option.Rel (List.Forall₂ Commented) node.inheritedTypes? other.inheritedTypes? := by
  have hspecifiers := @namedOf _ _ h ["inheritance_specifier"] (by decide)
  have hhead : Scattered Commented (fun comment => comment.isComment)
      (node.children.takeWhile fun child => !child.isToken "=" && child.kind != "type_constraints")
      (other.children.takeWhile fun child =>
        !child.isToken "=" && child.kind != "type_constraints") := by
    refine h.scattered.takeWhile (fun left right hchild => ?_) fun comment hcomment => ?_
    · rw [hchild.sameLook.isToken, hchild.sameLook.kind]
    · rw [isToken_of_isComment hcomment, Bool.not_false, Bool.true_and]
      exact bne_iff_ne.mpr (kind_ne_of_isComment hcomment (by decide))
  have hbounds := hhead.forall₂_filter (fun left right hchild => hchild.sameLook.isType)
    fun comment hcomment => isType_of_isComment hcomment
  unfold Node.inheritedTypes?
  rw [h.sameLook.kind]
  generalize node.namedOf ["inheritance_specifier"] = left at hspecifiers
  generalize other.namedOf ["inheritance_specifier"] = right at hspecifiers
  cases hspecifiers with
  | cons hfirst hrest => exact .some (.cons hfirst hrest)
  | nil =>
      simp only [List.isEmpty_nil, Bool.not_true, Bool.false_eq_true, if_false]
      split
      · generalize List.filter isType _ = left at hbounds
        generalize List.filter isType _ = right at hbounds
        cases hbounds with
        | nil => exact .none
        | cons hfirst hrest => exact .some (.cons hfirst hrest)
      · exact .none

theorem parameters : List.Forall₂ Commented node.parameters other.parameters :=
  h.namedOf (by decide)

theorem parameterLabel (hkind : node.kind = "parameter") :
    node.parameterLabel = other.parameterLabel := by
  have hlabel : Option.Rel node.Keeps
      (node.children.find? fun child =>
        child.isOneOf ["simple_identifier", "wildcard_pattern"] || child.text == "_")
      (other.children.find? fun child =>
        child.isOneOf ["simple_identifier", "wildcard_pattern"] || child.text == "_") := by
    refine h.children.find? (fun left right hchild => ?_) fun comment hcomment => ?_
    · rw [hchild.1.sameLook.isOneOf, hchild.1.sameLook.text]
    · rw [isOneOf_of_isComment hcomment.isComment (by decide), Bool.false_or]
      exact beq_eq_false_iff_ne.mpr (hcomment.label hkind)
  unfold Node.parameterLabel
  generalize node.children.find? _ = left at hlabel
  generalize other.children.find? _ = right at hlabel
  cases hlabel with
  | none => rfl
  | some hlabel => exact hlabel.1.sameLook.text

theorem throwing? : node.throwing? = other.throwing? := by
  unfold Node.throwing?
  refine map_eq_of_rel (h.scattered.find? (fun left right hchild => hchild.sameLook.isOneOf _)
    fun comment hcomment => isOneOf_of_isComment hcomment (by decide)) fun _ _ hlook => ?_
  rw [hlook.text]

theorem failability? : node.failability? = other.failability? := by
  have hhead : Scattered Commented (fun comment => comment.isComment)
      (node.children.takeWhile (!·.isToken "(")) (other.children.takeWhile (!·.isToken "(")) := by
    refine h.scattered.takeWhile (fun left right hchild => ?_) fun comment hcomment => ?_
    · rw [hchild.sameLook.isToken]
    · rw [isToken_of_isComment hcomment, Bool.not_false]
  unfold Node.failability?
  rw [← List.head?_filterMap, ← List.head?_filterMap]
  refine congrArg List.head? (hhead.filterMap_eq (fun left right hchild => ?_)
    fun comment hcomment => ?_)
  · simp only [failabilityMark?, hchild.sameLook.kind, hchild.sameLook.isOneOf]
  · rw [failabilityMark?, isOneOf_of_isComment hcomment (by decide),
      beq_eq_false_iff_ne.mpr (kind_ne_of_isComment hcomment (by decide))]
    rfl

theorem importPath? : node.importPath? = other.importPath? :=
  map_eq_of_rel (h.firstNamedOf? (by decide)) fun _ _ hlook => hlook.text

end Node.Commented

end WordGrid
