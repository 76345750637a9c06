import WordGrid.Proofs.Results
import WordGrid.Outline.Walk

/-!
# A dropped declaration is as good as absent

`root.without path` is the tree without the node at a path. `Leads` says which nodes a walk may
come to: it goes through the named children of nodes that are no declarations, and through the
blocks of members of types and extensions. Read `Node.outline_without_dropped` first: to remove a
declaration that is dropped changes nothing in what the walk gives.

A declaration with a member removed is not the same node, and a drop holds the node that caused it,
so results are compared by `settled`, which forgets why something was dropped.
-/

namespace WordGrid

/-! ## Trees with a node removed -/

/-- The positions in a label when the child at a position is gone. -/
def Label.withoutPosition (position : Nat) (label : Label) : Label :=
  { label with
    fields := label.fields.map fun (role, positions) =>
      (role, (positions.filter (· != position)).map fun other =>
        if position < other then other - 1 else other) }

namespace Node

/-- A node without one of its children. -/
def withoutChild (position : Nat) (node : Node) : Node :=
  ⟨node.label.withoutPosition position, node.children.eraseIdx position⟩

/-- A tree without the node at a path. The root has no parent and stays. -/
def without : List Nat → Node → Node
  | [], node => node
  | [position], node => node.withoutChild position
  | position :: next :: path, node =>
      ⟨node.label, node.children.modify position (without (next :: path))⟩

/-- The places that a walk from a root may come to, each with the path to it and the scope it is
walked in. -/
inductive Leads : Scope → Node → List Nat → Scope → Node → Prop where
  | here (scope : Scope) (node : Node) : Leads scope node [] scope node
  | child {scope inner : Scope} {node child target : Node} {position : Nat} {path : List Nat} :
      scope.declForm? node.kind = none → node.children[position]? = some child →
      child.isNamed → Leads scope child path inner target →
      Leads scope node (position :: path) inner target
  | member {scope inner : Scope} {node block target : Node} {position : Nat} {path : List Nat} :
      scope.declForm? node.kind = some .nominal → node.children[position]? = some block →
      block.isNamed → block.isMemberBlock →
      Leads { scope with nested := true } block path inner target →
      Leads scope node (position :: path) inner target

end Node

/-! ## Results up to the cause of a drop -/

/-- What is left of a result when it does not matter why something was dropped. -/
def settled {α : Type} : Except Failure α → Option (Except Failure α)
  | .error (.drop _) => none
  | result => some result

/-- Two computations in a row settle on what the second settles on, unless the first fails. -/
theorem settled_bind {α β : Type} (first : Except Failure α) (next : α → Except Failure β) :
    settled (first >>= next) =
      (settled first).bind fun result =>
        match result with
        | .ok value => settled (next value)
        | .error failure => some (.error failure) := by
  rcases first with (cause | error | error) | value <;> rfl

theorem settled_bind_congr {α β : Type} {left right : Except Failure α}
    {leftNext rightNext : α → Except Failure β} (h : settled left = settled right)
    (hnext : ∀ value, settled (leftNext value) = settled (rightNext value)) :
    settled (left >>= leftNext) = settled (right >>= rightNext) := by
  simp only [settled_bind, h, hnext]

namespace Progress

/-- What a walk gives, without its notices. -/
def outcome (progress : Progress) : List Entity × Option Failure :=
  (progress.entities, progress.abort)

/-- The outcome of two walks in a row is told by their outcomes. -/
theorem outcome_append_congr {first second first' second' : Progress}
    (hfirst : first.outcome = first'.outcome) (hsecond : second.outcome = second'.outcome) :
    (first.append second).outcome = (first'.append second').outcome := by
  simp only [outcome, Prod.mk.injEq] at hfirst hsecond
  obtain ⟨hentities, habort⟩ := hfirst
  obtain ⟨hentities', habort'⟩ := hsecond
  unfold append
  rw [← habort]
  cases first.abort <;> simp [outcome, hentities, hentities', habort, habort']

/-- A walk that gives nothing and is not ended leaves no trace in front of another one. -/
theorem outcome_append_of_nothing {first second : Progress} (h : first.outcome = ([], none)) :
    (first.append second).outcome = second.outcome := by
  simp only [outcome, Prod.mk.injEq] at h
  simp [append, outcome, h.1, h.2]

/-- The result of reading off a walk is told by its outcome. -/
theorem result_reading_congr {left right : Progress} (h : left.outcome = right.outcome) :
    left.reading.result = right.reading.result := by
  simp only [outcome, Prod.mk.injEq] at h
  rw [result_reading, result_reading, h.1, h.2]

/-- The outcome of an attempt is told by what its reading settles on. -/
theorem outcome_attempt (subject : Attempt) (reading : Reading (List Entity)) :
    (attempt subject reading).outcome =
      match settled reading.result with
      | none => ([], none)
      | some (.ok entities) => (entities, none)
      | some (.error failure) => ([], some failure) := by
  obtain ⟨notices, (cause | error | error) | entities⟩ := reading <;> rfl

end Progress

/-! ## Nodes that differ in a block of members only -/

namespace Node

/-- Two nodes that look the same to the declaration they belong to, which does not look into a
block of members when it reads its own parts. -/
structure Alike (left right : Node) : Prop where
  kind : left.kind = right.kind
  named : left.isNamed = right.isNamed
  text : left.text = right.text
  same : left.isMemberBlock = false → left = right

theorem Alike.refl (node : Node) : node.Alike node :=
  ⟨rfl, rfl, rfl, fun _ => rfl⟩

/-- Two declarations that are the same outside of their blocks of members. -/
structure SameButMembers (left right : Node) : Prop where
  label : left.label = right.label
  children : List.Forall₂ Alike left.children right.children

/-- No block of members is a type. -/
theorem isMemberBlock_of_isType {node : Node} (h : node.isType) : node.isMemberBlock = false := by
  unfold isType typeForm? TypeForm.ofKind? at h
  unfold isMemberBlock isOneOf
  split at h <;> simp_all

section

variable {left right : List Node} (h : List.Forall₂ Alike left right)
include h

/-- What is picked out by its looks, and never is a block of members, is picked out of both. -/
theorem filter_eq_of_alike {pick : Node → Bool}
    (hpick : ∀ node, pick node → node.isMemberBlock = false) :
    left.filter pick = right.filter pick := by
  induction h with
  | nil => rfl
  | @cons first other leftRest rightRest halike _ ih =>
      cases hblock : first.isMemberBlock with
      | false => rw [halike.same hblock, List.filter_cons, List.filter_cons, ih]
      | true =>
          -- The nodes may differ here, but neither is picked.
          have hother : other.isMemberBlock = true := by
            simpa [isMemberBlock, isOneOf, halike.kind] using hblock
          have hnone (node : Node) (hnode : node.isMemberBlock = true) : pick node = false := by
            cases hp : pick node with
            | false => rfl
            | true => exact absurd (hpick node hp) (by simp [hnode])
          rw [List.filter_cons, List.filter_cons, hnone first hblock, hnone other hother]
          exact ih

/-- The looks of the first node that is picked by its looks are the same in both. -/
theorem map_find?_eq_of_alike {α : Type} {pick : Node → Bool} {look : Node → α}
    (hpick : ∀ first other : Node, first.Alike other → pick first = pick other)
    (hlook : ∀ first other : Node, first.Alike other → look first = look other) :
    (left.find? pick).map look = (right.find? pick).map look := by
  induction h with
  | nil => rfl
  | @cons first other leftRest rightRest halike _ ih =>
      rw [List.find?_cons, List.find?_cons, hpick first other halike]
      cases pick other with
      | true => simp [hlook first other halike]
      | false => exact ih

/-- Nodes at the same position look alike. -/
theorem getElem?_alike (position : Nat) : Option.Rel Alike left[position]? right[position]? := by
  induction h generalizing position with
  | nil => exact .none
  | cons halike _ ih =>
      cases position with
      | zero => exact .some halike
      | succ position => simpa using ih position

end

/-- The kinds of blocks of members. -/
def memberBlockKinds : List String :=
  ["class_body", "enum_class_body", "protocol_body"]

/-- No node of a kind that is not listed among the blocks of members is one. -/
theorem isMemberBlock_of_isOneOf {kinds : List String} {node : Node}
    (hkinds : ∀ kind ∈ kinds, kind ∉ memberBlockKinds)
    (h : node.isOneOf kinds) : node.isMemberBlock = false := by
  have hkind := hkinds node.kind (List.contains_iff_mem.mp h)
  unfold isMemberBlock isOneOf
  rw [Bool.eq_false_iff]
  exact fun hblock => hkind (List.contains_iff_mem.mp hblock)

namespace SameButMembers

variable {left right : Node} (h : left.SameButMembers right)
include h

theorem kind_eq : left.kind = right.kind :=
  congrArg Label.kind h.label

/-- The children in a role are both missing, or they look alike. -/
theorem fieldChild?_cases (role : String) :
    (left.fieldChild? role = none ∧ right.fieldChild? role = none) ∨
      ∃ child other, left.fieldChild? role = some child ∧ right.fieldChild? role = some other ∧
        child.Alike other := by
  unfold fieldChild?
  rw [h.label]
  cases right.label.fields.lookup role with
  | none => exact .inl ⟨rfl, rfl⟩
  | some positions =>
      cases positions with
      | nil => exact .inl ⟨rfl, rfl⟩
      | cons position rest =>
          have hposition := getElem?_alike h.children position
          simp only [List.head?_cons, Option.bind_eq_bind, Option.bind_some]
          revert hposition
          rcases left.children[position]? with _ | child <;>
            rcases right.children[position]? with _ | other <;> intro hposition <;> cases hposition
          · exact .inl ⟨rfl, rfl⟩
          · next halike => exact .inr ⟨child, other, rfl, rfl, halike⟩

/-- Named children of kinds that are no blocks of members. -/
theorem namedOf_eq {kinds : List String}
    (hkinds : ∀ kind ∈ kinds, kind ∉ memberBlockKinds) :
    left.namedOf kinds = right.namedOf kinds := by
  unfold namedOf namedChildren
  rw [List.filter_filter, List.filter_filter]
  refine filter_eq_of_alike h.children fun node hnode => isMemberBlock_of_isOneOf hkinds ?_
  exact (Bool.and_eq_true_iff.mp hnode).1

theorem firstNamedOf?_eq {kinds : List String}
    (hkinds : ∀ kind ∈ kinds, kind ∉ memberBlockKinds) :
    left.firstNamedOf? kinds = right.firstNamedOf? kinds := by
  have hnamed := h.namedOf_eq hkinds
  unfold namedOf at hnamed
  rw [firstNamedOf?, firstNamedOf?, ← List.head?_filter, ← List.head?_filter, hnamed]

theorem firstType?_eq : left.firstType? = right.firstType? := by
  unfold firstType? namedChildren
  rw [← List.head?_filter, ← List.head?_filter, List.filter_filter, List.filter_filter,
    filter_eq_of_alike h.children]
  intro node hnode
  exact isMemberBlock_of_isType (Bool.and_eq_true_iff.mp hnode).1

theorem nominalKeyword?_eq : left.nominalKeyword? = right.nominalKeyword? := by
  unfold nominalKeyword?
  rw [h.kind_eq]
  split
  · rfl
  · rcases h.fieldChild?_cases "declaration_kind" with
      ⟨hleft, hright⟩ | ⟨child, other, hleft, hright, halike⟩
    · rw [hleft, hright]
      refine map_find?_eq_of_alike h.children ?_ fun _ _ halike => halike.kind
      intro first other halike
      rw [halike.named, isOneOf, isOneOf, halike.kind]
    · rw [hleft, hright]
      exact congrArg some halike.text

theorem identifier?_eq : left.identifier? = right.identifier? := by
  have hfirst : left.firstNamedOf? ["simple_identifier", "type_identifier"] =
      right.firstNamedOf? ["simple_identifier", "type_identifier"] := h.firstNamedOf?_eq (by decide)
  unfold identifier? nameNode?
  rcases h.fieldChild?_cases "name" with
    ⟨hleft, hright⟩ | ⟨child, other, hleft, hright, halike⟩
  · rw [hleft, hright, hfirst]
  · have hidentifier : child.isIdentifier = other.isIdentifier := by
      simp only [isIdentifier, isOneOf, halike.kind]
    rw [hleft, hright, hfirst]
    simp only [hidentifier, halike.named, apply_ite (Option.map text), Option.map_some, halike.text]

theorem extendedType?_eq : left.extendedType? = right.extendedType? := by
  unfold extendedType?
  rcases h.fieldChild?_cases "name" with
    ⟨hleft, hright⟩ | ⟨child, other, hleft, hright, halike⟩
  · rw [hleft, hright, h.firstType?_eq]
  · have htype : child.isType = other.isType := by simp only [isType, typeForm?, halike.kind]
    rw [hleft, hright, h.firstType?_eq]
    show (if child.isType then some child else right.firstType?) =
      if other.isType then some other else right.firstType?
    rw [← htype]
    cases hchild : child.isType with
    | false => rfl
    | true => rw [halike.same (isMemberBlock_of_isType hchild)]

theorem genericParameters_eq : left.genericParameters = right.genericParameters := by
  unfold genericParameters
  rw [h.firstNamedOf?_eq (by decide)]

theorem whereConstraints_eq : left.whereConstraints = right.whereConstraints := by
  unfold whereConstraints
  rw [h.firstNamedOf?_eq (by decide), h.namedOf_eq (by decide)]

theorem requirements_eq : left.requirements = right.requirements := by
  unfold requirements boundRequirements whereRequirements
  rw [h.genericParameters_eq, h.whereConstraints_eq]

theorem descriptors_eq : left.descriptors = right.descriptors := by
  have htokens : left.children.filter (isToken "indirect") =
      right.children.filter (isToken "indirect") := by
    refine filter_eq_of_alike h.children fun node hnode => ?_
    have hkind : node.kind = "indirect" := eq_of_beq (Bool.and_eq_true_iff.mp hnode).2
    simp [isMemberBlock, isOneOf, hkind]
  unfold descriptors modifierKeywords
  rw [h.namedOf_eq (by decide), htokens]

/-- Only an associated type may list its bounds without a specifier. -/
theorem inheritance_eq (hkind : right.kind ≠ "associatedtype_declaration") :
    left.inheritance = right.inheritance := by
  have hentries : left.inheritedTypes? = right.inheritedTypes? := by
    simp only [inheritedTypes?, h.kind_eq, beq_eq_false_iff_ne.mpr hkind]
    rw [h.namedOf_eq (by decide)]
    rfl
  unfold inheritance
  rw [hentries]

/-- Declarations without a name are dropped alike. -/
theorem declaredName_settled : settled left.declaredName = settled right.declaredName := by
  unfold declaredName
  rw [h.identifier?_eq]
  cases right.identifier? <;> rfl

variable {members other : Reading (List Entity)}

theorem extensionEntities_settled (scope : Scope)
    (hkind : right.kind ≠ "associatedtype_declaration") (hmembers : members.result = other.result) :
    settled (left.extensionEntities scope members).result =
      settled (right.extensionEntities scope other).result := by
  unfold extensionEntities
  split
  · rfl
  · simp only [Reading.result_bind, Reading.result_ofResult]
    -- The members are read before the extended type, and are lost if there is none.
    refine settled_bind_congr (by rw [h.inheritance_eq hkind]) fun predicates => ?_
    refine settled_bind_congr (by rw [hmembers]) fun children => ?_
    rw [h.extendedType?_eq]
    cases right.extendedType? <;> rfl

theorem nominalEntity_settled (kind : EntityKind)
    (hkind : right.kind ≠ "associatedtype_declaration") (hmembers : members.result = other.result) :
    settled (left.nominalEntity kind members).result =
      settled (right.nominalEntity kind other).result := by
  simp only [nominalEntity, Reading.result_bind, Reading.result_ofResult]
  refine settled_bind_congr h.declaredName_settled fun name => ?_
  refine settled_bind_congr (by rw [h.requirements_eq]) fun requirements => ?_
  refine settled_bind_congr (by rw [h.inheritance_eq hkind]) fun predicates => ?_
  refine settled_bind_congr (by rw [hmembers]) fun children => ?_
  rw [genericArguments, genericArguments, h.genericParameters_eq, h.descriptors_eq]

/-- Types and extensions that are the same outside of their blocks of members, and whose members
give the same, settle on the same. -/
theorem nominalEntities_settled (scope : Scope)
    (hkind : right.kind ≠ "associatedtype_declaration") (hmembers : members.result = other.result) :
    settled (left.nominalEntities scope members).result =
      settled (right.nominalEntities scope other).result := by
  unfold nominalEntities
  rw [h.nominalKeyword?_eq]
  split
  · exact h.extensionEntities_settled scope hkind hmembers
  · split
    · exact h.nominalEntity_settled _ hkind hmembers
    · rfl
  · rfl

end SameButMembers

/-! ## Walks -/

/-- Walks over nodes with the same outcomes have the same outcome. -/
theorem walkAll_outcome_congr {scope : Scope} {left right : List Node}
    (h : List.Forall₂ (fun node other => node.isNamed = other.isNamed ∧
      (node.walk scope).outcome = (other.walk scope).outcome) left right) :
    (walkAll scope left).outcome = (walkAll scope right).outcome := by
  induction h with
  | nil => rfl
  | cons hfirst _ ih =>
      obtain ⟨hnamed, houtcome⟩ := hfirst
      rw [walkAll, walkAll, hnamed]
      split
      · exact Progress.outcome_append_congr houtcome ih
      · exact ih

/-- A node that gives nothing may be left out of a list. -/
theorem walkAll_outcome_of_nothing {scope : Scope} {node : Node} (before after : List Node)
    (h : (node.walk scope).outcome = ([], none)) :
    (walkAll scope (before ++ after)).outcome =
      (walkAll scope (before ++ node :: after)).outcome := by
  induction before with
  | nil =>
      rw [List.nil_append, List.nil_append, walkAll]
      split
      · exact (Progress.outcome_append_of_nothing h).symm
      · rfl
  | cons first rest ih =>
      rw [List.cons_append, List.cons_append, walkAll, walkAll]
      split
      · exact Progress.outcome_append_congr rfl ih
      · exact ih

/-- The first block of members decides what the members give. -/
theorem walkMembers_outcome_congr {scope : Scope} {left right : List Node}
    (h : List.Forall₂ (fun node other => node.isNamed = other.isNamed ∧
      node.isMemberBlock = other.isMemberBlock ∧
      (node.walk { scope with nested := true }).outcome =
        (other.walk { scope with nested := true }).outcome) left right) :
    (walkMembers scope left).outcome = (walkMembers scope right).outcome := by
  induction h with
  | nil => rfl
  | cons hfirst _ ih =>
      obtain ⟨hnamed, hblock, houtcome⟩ := hfirst
      rw [walkMembers, walkMembers, hnamed, hblock]
      split
      · exact houtcome
      · exact ih

/-- A walk goes on below a node that is no declaration. -/
theorem walk_of_declForm?_none {scope : Scope} {node : Node}
    (h : scope.declForm? node.kind = none) : node.walk scope = walkAll scope node.children := by
  obtain ⟨label, children⟩ := node
  have hkind : scope.declForm? label.kind = none := h
  rw [walk, hkind]

/-- A walk tries to summarise a declaration. -/
theorem walk_of_declForm? {scope : Scope} {node : Node} {form : DeclForm}
    (h : scope.declForm? node.kind = some form) :
    node.walk scope = .attempt (.declaration node)
      (node.declarationEntities scope form (walkMembers scope node.children).reading) := by
  obtain ⟨label, children⟩ := node
  have hkind : scope.declForm? label.kind = some form := h
  rw [walk, hkind]

/-- A block of members is no declaration. -/
theorem declForm?_of_isMemberBlock {scope : Scope} {node : Node} (h : node.isMemberBlock) :
    scope.declForm? node.kind = none := by
  have hkind := List.contains_iff_mem.mp h
  simp only [List.mem_cons, List.not_mem_nil, or_false] at hkind
  rcases hkind with hkind | hkind | hkind <;> rw [hkind] <;> rfl

/-- No type and no extension is an associated type. -/
theorem kind_of_nominal {scope : Scope} {node : Node}
    (h : scope.declForm? node.kind = some .nominal) :
    node.kind ≠ "associatedtype_declaration" := by
  intro hkind
  rw [hkind] at h
  cases h

/-! ## Removing a node -/

section

variable {node : Node} {path : List Nat}

@[simp]
theorem kind_without : (node.without path).kind = node.kind := by
  rcases path with _ | ⟨position, _ | ⟨next, path⟩⟩ <;> rfl

@[simp]
theorem isNamed_without : (node.without path).isNamed = node.isNamed := by
  rcases path with _ | ⟨position, _ | ⟨next, path⟩⟩ <;> rfl

@[simp]
theorem text_without : (node.without path).text = node.text := by
  rcases path with _ | ⟨position, _ | ⟨next, path⟩⟩ <;> rfl

@[simp]
theorem isMemberBlock_without : (node.without path).isMemberBlock = node.isMemberBlock := by
  simp [isMemberBlock, isOneOf]

/-- A declaration does not see what is removed from a block of its members. -/
theorem without_alike (h : node.isMemberBlock) : (node.without path).Alike node :=
  ⟨kind_without, isNamed_without, text_without, fun hblock => by simp [h] at hblock⟩

/-- A list falls apart at a position into what stands before and after. -/
theorem exists_split {nodes : List Node} {position : Nat} (h : nodes[position]? = some node) :
    ∃ before after, nodes = before ++ node :: after ∧ before.length = position := by
  obtain ⟨hlt, hnode⟩ := List.getElem?_eq_some_iff.mp h
  refine ⟨nodes.take position, nodes.drop (position + 1), ?_, by simp; omega⟩
  rw [← hnode, ← List.drop_eq_getElem_cons hlt, List.take_append_drop]

theorem modify_split (change : Node → Node) (before after : List Node) :
    (before ++ node :: after).modify before.length change = before ++ change node :: after :=
  List.modifyTailIdx_add _ 0 before (node :: after)

theorem eraseIdx_split (before after : List Node) :
    (before ++ node :: after).eraseIdx before.length = before ++ after := by
  rw [List.eraseIdx_append_of_length_le (Nat.le_refl _), Nat.sub_self, List.eraseIdx_cons_zero]

/-- Lists that differ at one place agree everywhere if they agree there. -/
theorem forall₂_split {R : Node → Node → Prop} {other : Node} (hrefl : ∀ node, R node node)
    (h : R other node) (before after : List Node) :
    List.Forall₂ R (before ++ other :: after) (before ++ node :: after) := by
  have hsame (nodes : List Node) : List.Forall₂ R nodes nodes :=
    List.forall₂_same.mpr fun node _ => hrefl node
  exact List.rel_append (hsame before) (.cons h (hsame after))

end

/-- To remove a declaration that gives nothing changes no outcome. -/
theorem walk_outcome_without {scope inner : Scope} {root declaration : Node} {path : List Nat}
    (hleads : Leads scope root path inner declaration) (hparent : path ≠ [])
    (hform : inner.declForm? declaration.kind ≠ none)
    (hnothing : (declaration.walk inner).outcome = ([], none)) :
    ((root.without path).walk scope).outcome = (root.walk scope).outcome := by
  induction hleads with
  | here => exact absurd rfl hparent
  | @child scope inner node child target position path hnone hchild hnamed hleads ih =>
      obtain ⟨before, after, hchildren, rfl⟩ := exists_split hchild
      rw [walk_of_declForm?_none hnone, walk_of_declForm?_none (by rwa [kind_without]), hchildren]
      -- Either the declaration is this child, or it is removed from further down.
      rcases path with _ | ⟨next, path⟩
      · cases hleads
        rw [without, withoutChild, hchildren, eraseIdx_split]
        exact walkAll_outcome_of_nothing before after hnothing
      · rw [without, hchildren, modify_split]
        refine walkAll_outcome_congr (forall₂_split (fun _ => ⟨rfl, rfl⟩) ?_ before after)
        exact ⟨isNamed_without, ih (by simp) hform hnothing⟩
  | @member scope inner node block target position path hnominal hchild hnamed hblock hleads ih =>
      obtain ⟨before, after, hchildren, rfl⟩ := exists_split hchild
      -- A block of members is no declaration, so the path goes on.
      rcases path with _ | ⟨next, path⟩
      · cases hleads
        exact absurd (declForm?_of_isMemberBlock hblock) hform
      · have hsame : (node.without (before.length :: next :: path)).SameButMembers node := by
          refine ⟨rfl, ?_⟩
          rw [without, hchildren, modify_split]
          exact forall₂_split Alike.refl (without_alike hblock) before after
        have hmembers :
            (walkMembers scope (node.without (before.length :: next :: path)).children).outcome =
              (walkMembers scope node.children).outcome := by
          rw [without, hchildren, modify_split]
          refine walkMembers_outcome_congr
            (forall₂_split (fun _ => ⟨rfl, rfl, rfl⟩) ?_ before after)
          exact ⟨isNamed_without, isMemberBlock_without, ih (by simp) hform hnothing⟩
        rw [walk_of_declForm? hnominal, walk_of_declForm? (by rwa [kind_without]),
          Progress.outcome_attempt, Progress.outcome_attempt]
        rw [declarationEntities, declarationEntities, hsame.nominalEntities_settled scope
          (kind_of_nominal hnominal) (Progress.result_reading_congr hmembers)]

/-- A declaration that is dropped may be removed from its parent: the walk gives the same entities
at every depth, or is ended by the same failure. -/
theorem outline_without_dropped {scope inner : Scope} {root declaration : Node} {path : List Nat}
    {form : DeclForm} {cause : Drop} (hleads : Leads scope root path inner declaration)
    (hparent : path ≠ []) (hform : inner.declForm? declaration.kind = some form)
    (hdrop : (declaration.declarationEntities inner form
      (walkMembers inner declaration.children).reading).result = .error (.drop cause)) :
    ((root.without path).outline scope).result = (root.outline scope).result := by
  have hnothing : (declaration.walk inner).outcome = ([], none) := by
    rw [walk_of_declForm? hform, Progress.outcome_attempt, hdrop]
    rfl
  refine Progress.result_reading_congr (walk_outcome_without hleads hparent ?_ hnothing)
  rw [hform]
  exact Option.some_ne_none form

/-- A named node with a text. -/
def worded (kind text : String) (children : List Node) : Node :=
  ⟨{ kind, span := ⟨0, 0⟩, text }, children⟩

/-- An alias that does not say what it stands for. -/
def openAlias : Node :=
  worded "typealias_declaration" "typealias B" [worded "type_identifier" "B" []]

/-- A file with a class that has an open alias in front of its deinitializer. -/
def classWithOpenAlias : Node :=
  worded "source_file" "" [worded "class_declaration" "" [
    ⟨{ kind := "class", span := ⟨0, 0⟩, named := false }, []⟩,
    worded "type_identifier" "A" [],
    worded "class_body" "" [openAlias, worded "deinit_declaration" "deinit" []]]]

/-- The open alias of the class is dropped, and the class is the same without it. -/
theorem outline_without_openAlias :
    Leads ⟨false, false⟩ classWithOpenAlias [0, 2, 0] ⟨false, true⟩ openAlias ∧
    (openAlias.declarationEntities ⟨false, true⟩ .typeAlias
      (walkMembers ⟨false, true⟩ openAlias.children).reading).result =
        .error (.drop ⟨.incompleteSource, some openAlias⟩) ∧
    ((classWithOpenAlias.without [0, 2, 0]).outline ⟨false, false⟩).result =
      (classWithOpenAlias.outline ⟨false, false⟩).result := by
  have hleads : Leads ⟨false, false⟩ classWithOpenAlias [0, 2, 0] ⟨false, true⟩ openAlias :=
    .child rfl rfl rfl (.member rfl rfl rfl rfl (.child rfl rfl rfl (.here _ _)))
  have hdrop : (openAlias.declarationEntities ⟨false, true⟩ .typeAlias
      (walkMembers ⟨false, true⟩ openAlias.children).reading).result =
        .error (.drop ⟨.incompleteSource, some openAlias⟩) := rfl
  exact ⟨hleads, hdrop, outline_without_dropped hleads (by decide) rfl hdrop⟩

end Node

end WordGrid
