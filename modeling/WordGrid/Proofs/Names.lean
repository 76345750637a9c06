import WordGrid.Proofs.Recovery
import WordGrid.Proofs.TypeImage

/-!
# Where names come from

Every entity of a document, at every depth, is given by a declaration of its tree
(`Node.walk_everywhere`). An initializer, a subscript and a deinitializer are named by a word, and
an extension by the type it extends, so that these always have a name. Every other entity has the
text of a node that stands for the name (`Node.nameNodes`). A declaration without such a node is
dropped, but a parser may make up a node that covers no byte, and then the entity has an empty
name. Read `Document.nameless_iff_silent` first.
-/

namespace WordGrid

/-- Have the entities of a kind a name without having a node for it? -/
def EntityKind.namesItself : EntityKind → Bool
  | .extension | .initializer | .subscript | .deinitializer => true
  | _ => false

namespace Entity

/-- A property of an entity and of all entities below it. -/
inductive Everywhere (P : Entity → Prop) : Entity → Prop where
  | intro {entity : Entity} :
      P entity → (∀ child ∈ entity.children, Everywhere P child) → Everywhere P entity

theorem Everywhere.imp {P Q : Entity → Prop} {entity : Entity} (h : entity.Everywhere P)
    (himp : ∀ part, P part → Q part) : entity.Everywhere Q := by
  induction h with
  | intro hentity _ ih => exact .intro (himp _ hentity) ih

/-- The entity is one of those that a declaration of a form gives, with some members. -/
def GivenBy (imports : Bool) (declaration : Node) (form : DeclForm) (entity : Entity) : Prop :=
  ∃ (nested : Bool) (members : Reading (List Entity)) (found : List Entity),
    Scope.declForm? ⟨imports, nested⟩ declaration.kind = some form ∧
    (declaration.declarationEntities ⟨imports, nested⟩ form members).result = .ok found ∧
    entity ∈ found

/-- The entity has a name that needs no node, or the text of one of these nodes. -/
def NamedBy (names : List Node) (entity : Entity) : Prop :=
  (entity.kind.namesItself = true ∧ entity.name ≠ "") ∨
    (entity.kind.namesItself = false ∧ ∃ name ∈ names, name.text = entity.name)

theorem NamedBy.mono {names others : List Node} {entity : Entity} (h : entity.NamedBy names)
    (hsubset : ∀ name ∈ names, name ∈ others) : entity.NamedBy others := by
  rcases h with hitself | ⟨hkind, name, hmem, htext⟩
  · exact .inl hitself
  · exact .inr ⟨hkind, name, hsubset name hmem, htext⟩

end Entity

/-! ## Nodes that stand for a name -/

namespace Node

/-- The nodes that have the names of the entities of a declaration. -/
def nameNodes (form : DeclForm) (node : Node) : List Node :=
  match form with
  | .nominal | .function | .associatedType | .typeAlias => node.nameNode?.toList
  | .property => node.bindings.filterMap (·.pattern.boundNode?)
  | .enumCase => (entryNodes node.children).filter (·.kind == "simple_identifier")
  | .importing => (node.firstNamedOf? ["identifier"]).toList
  | .initializer | .deinitializer | .subscript => []

/-- Must a declaration of a form have a node for its name? An extension need not. -/
def requiresName (form : DeclForm) (node : Node) : Bool :=
  match form with
  | .function | .associatedType | .typeAlias | .importing => true
  | .nominal => (node.nominalKeyword?.bind EntityKind.ofNominalKeyword?).isSome
  | .initializer | .deinitializer | .subscript | .enumCase | .property => false

theorem inside_of_boundNode? {pattern name : Node} (h : pattern.boundNode? = some name) :
    name.Inside pattern := by
  unfold boundNode? at h
  split at h
  · exact Option.some.inj h ▸ .self pattern
  · have hpart := List.mem_filter.mp (mem_of_soleName? h)
    exact (below_of_mem_namedChildren hpart.1).inside

/-- The names of a declaration lie in it. -/
theorem below_of_mem_nameNodes {form : DeclForm} {root name : Node}
    (hmem : name ∈ root.nameNodes form) : name.Below root := by
  cases form with
  | nominal | function | associatedType | typeAlias =>
      exact below_of_nameNode? (Option.mem_toList.mp hmem)
  | property =>
      obtain ⟨binding, hbinding, hname⟩ := List.mem_filterMap.mp hmem
      exact (inside_of_boundNode? hname).trans_below (below_of_mem_bindings hbinding).1
  | enumCase =>
      obtain ⟨entry, hentry, rfl⟩ := List.mem_map.mp (List.mem_filter.mp hmem).1
      exact below_of_mem_children (mem_of_mem_entries hentry)
  | importing => exact below_of_firstNamedOf? (Option.mem_toList.mp hmem)
  | initializer | deinitializer | subscript => cases hmem

/-- A case element has its name from an identifier among the nodes. -/
theorem name_of_mem_caseElementsAmong {nodes : List Node} {element : CaseElement}
    (hmem : element ∈ caseElementsAmong nodes) :
    ∃ name ∈ nodes, name.kind = "simple_identifier" ∧ name.text = element.name := by
  induction nodes with
  | nil => cases hmem
  | cons first rest ih =>
      have htail (hrest : element ∈ caseElementsAmong rest) :
          ∃ name ∈ first :: rest, name.kind = "simple_identifier" ∧ name.text = element.name := by
        obtain ⟨name, hname, htext⟩ := ih hrest
        exact ⟨name, List.mem_cons_of_mem _ hname, htext⟩
      rw [caseElementsAmong] at hmem
      split at hmem
      · next hfirst =>
        rcases List.mem_cons.mp hmem with rfl | hrest
        · exact ⟨first, List.mem_cons_self, beq_iff_eq.mp hfirst, rfl⟩
        · exact htail hrest
      · exact htail hmem

end Node

/-! ## The names that declarations give -/

namespace Entity

/-- An entity is named by the nodes, and has no members but the ones that were handed in. -/
structure NamedWith (names : List Node) (members : Reading (List Entity)) (entity : Entity) :
    Prop where
  named : entity.NamedBy names
  children : entity.children = [] ∨ members.result = .ok entity.children

end Entity

namespace Node

variable {node : Node} {members : Reading (List Entity)} {entity : Entity} {entities : List Entity}

theorem functionEntity_named (h : node.functionEntity = .ok entity) :
    entity.NamedWith (node.nameNodes .function) members := by
  obtain ⟨name, hname, h⟩ := bind_eq_ok.mp h
  obtain ⟨requirements, _, h⟩ := bind_eq_ok.mp h
  obtain ⟨parameters, _, h⟩ := bind_eq_ok.mp h
  obtain ⟨result, _, h⟩ := bind_eq_ok.mp h
  cases h
  exact ⟨.inr ⟨rfl, name_of_declaredName hname⟩, .inl rfl⟩

theorem associatedTypeEntity_named (h : node.associatedTypeEntity = .ok entity) :
    entity.NamedWith (node.nameNodes .associatedType) members := by
  obtain ⟨name, hname, h⟩ := bind_eq_ok.mp h
  obtain ⟨bounds, _, h⟩ := bind_eq_ok.mp h
  obtain ⟨constraints, _, h⟩ := bind_eq_ok.mp h
  cases h
  exact ⟨.inr ⟨rfl, name_of_declaredName hname⟩, .inl rfl⟩

theorem typeAliasEntity_named (h : node.typeAliasEntity = .ok entity) :
    entity.NamedWith (node.nameNodes .typeAlias) members := by
  obtain ⟨name, hname, h⟩ := bind_eq_ok.mp h
  obtain ⟨requirements, _, h⟩ := bind_eq_ok.mp h
  obtain ⟨aliased, _, h⟩ := bind_eq_ok.mp h
  cases h
  exact ⟨.inr ⟨rfl, name_of_declaredName hname⟩, .inl rfl⟩

theorem importEntity_named (h : node.importEntity = .ok entity) :
    entity.NamedWith (node.nameNodes .importing) members := by
  unfold importEntity at h
  split at h
  · next path hpath =>
    cases h
    obtain ⟨name, hname, htext⟩ := Option.map_eq_some_iff.mp hpath
    exact ⟨.inr ⟨rfl, name, Option.mem_toList.mpr hname, htext⟩, .inl rfl⟩
  · cases h

/-- A word followed by something in parentheses is not empty. -/
theorem labelled_ne_empty (word labels : String) : word ++ "(" ++ labels ++ ")" ≠ "" := by
  intro h
  have hlength := congrArg String.length h
  simp at hlength

theorem initializerEntity_named (h : node.initializerEntity = .ok entity) :
    entity.NamedWith (node.nameNodes .initializer) members := by
  obtain ⟨requirements, _, h⟩ := bind_eq_ok.mp h
  obtain ⟨parameters, _, h⟩ := bind_eq_ok.mp h
  cases h
  exact ⟨.inl ⟨rfl, labelled_ne_empty "init" node.parameterLabels⟩, .inl rfl⟩

theorem subscriptEntity_named (h : node.subscriptEntity = .ok entity) :
    entity.NamedWith (node.nameNodes .subscript) members := by
  obtain ⟨requirements, _, h⟩ := bind_eq_ok.mp h
  obtain ⟨parameters, _, h⟩ := bind_eq_ok.mp h
  obtain ⟨result, _, h⟩ := bind_eq_ok.mp h
  cases h
  exact ⟨.inl ⟨rfl, labelled_ne_empty "subs" node.parameterLabels⟩, .inl rfl⟩

theorem deinitializerEntity_named :
    node.deinitializerEntity.NamedWith (node.nameNodes .deinitializer) members := by
  have hname : node.deinitializerEntity.name = "deinit" := rfl
  exact ⟨.inl ⟨rfl, by simp [hname]⟩, .inl rfl⟩

theorem extensionEntities_named {scope : Scope}
    (h : (node.extensionEntities scope members).result = .ok entities) :
    ∀ entity ∈ entities, entity.NamedWith (node.nameNodes .nominal) members := by
  unfold extensionEntities at h
  split at h
  · cases h
  · simp only [Reading.result_bind, Reading.result_ofResult] at h
    obtain ⟨predicates, _, h⟩ := bind_eq_ok.mp h
    obtain ⟨children, hchildren, h⟩ := bind_eq_ok.mp h
    split at h
    · cases h
    · simp only [Reading.result_bind, Reading.result_ofResult] at h
      obtain ⟨type, htype, h⟩ := bind_eq_ok.mp h
      split at h
      · next name arguments =>
        cases h
        intro entity hmem
        obtain rfl := List.mem_singleton.mp hmem
        -- A type without a name would have ended the walk.
        cases typeToDepth_readable _ htype with
        | named hname _ => exact ⟨.inl ⟨rfl, hname⟩, .inr hchildren⟩
      · cases h
        simp

theorem nominalEntity_named {kind : EntityKind}
    (hkind : kind ∈ [EntityKind.struct, .classType, .enum, .protocol])
    (h : (node.nominalEntity kind members).result = .ok entities) :
    ∀ entity ∈ entities, entity.NamedWith (node.nameNodes .nominal) members := by
  simp only [nominalEntity, Reading.result_bind, Reading.result_ofResult] at h
  obtain ⟨name, hname, h⟩ := bind_eq_ok.mp h
  obtain ⟨requirements, _, h⟩ := bind_eq_ok.mp h
  obtain ⟨predicates, _, h⟩ := bind_eq_ok.mp h
  obtain ⟨children, hchildren, h⟩ := bind_eq_ok.mp h
  cases h
  intro entity hmem
  obtain rfl := List.mem_singleton.mp hmem
  have hnode : kind.namesItself = false := by
    revert hkind
    cases kind <;> decide
  exact ⟨.inr ⟨hnode, name_of_declaredName hname⟩, .inr hchildren⟩

theorem nominalEntities_named {scope : Scope}
    (h : (node.nominalEntities scope members).result = .ok entities) :
    ∀ entity ∈ entities, entity.NamedWith (node.nameNodes .nominal) members := by
  unfold nominalEntities at h
  split at h
  · exact extensionEntities_named h
  · split at h
    · next kind hkind => exact nominalEntity_named (EntityKind.of_nominalKeyword hkind) h
    · cases h
  · cases h

end Node

theorem Binding.entities_named {kind : EntityKind} {descriptors : List Descriptor}
    {binding : Binding} {entities : List Entity} {members : Reading (List Entity)}
    (hkind : kind = .mutable ∨ kind = .constant)
    (h : binding.entities kind descriptors = .ok entities) :
    ∀ entity ∈ entities, entity.NamedWith binding.pattern.boundNode?.toList members := by
  unfold Binding.entities Node.boundName? at h
  split at h
  · next name slot hname _ =>
    obtain ⟨type, _, h⟩ := bind_eq_ok.mp h
    cases h
    intro entity hmem
    obtain rfl := List.mem_singleton.mp hmem
    obtain ⟨origin, horigin, htext⟩ := Option.map_eq_some_iff.mp hname
    have hnode : kind.namesItself = false := by
      rcases hkind with rfl | rfl <;> rfl
    exact ⟨.inr ⟨hnode, origin, Option.mem_toList.mpr horigin, htext⟩, .inl rfl⟩
  · cases h
    simp

theorem CaseElement.entities_named {descriptors : List Descriptor} {element : CaseElement}
    {entities : List Entity} {members : Reading (List Entity)} {names : List Node}
    (hname : ∃ name ∈ names, name.text = element.name)
    (h : element.entities descriptors = .ok entities) :
    ∀ entity ∈ entities, entity.NamedWith names members := by
  unfold CaseElement.entities at h
  split at h
  · cases h
    intro entity hmem
    obtain rfl := List.mem_singleton.mp hmem
    exact ⟨.inr ⟨rfl, hname⟩, .inl rfl⟩
  · obtain ⟨types, _, h⟩ := bind_eq_ok.mp h
    cases h
    intro entity hmem
    obtain rfl := List.mem_singleton.mp hmem
    exact ⟨.inr ⟨rfl, hname⟩, .inl rfl⟩

namespace Node

variable {node : Node} {members : Reading (List Entity)} {entities : List Entity}

theorem propertyEntities_named (h : node.propertyEntities.result = .ok entities) :
    ∀ entity ∈ entities, entity.NamedWith (node.nameNodes .property) members := by
  unfold propertyEntities at h
  split at h
  · next kind hkeyword =>
    obtain ⟨keyword, _, hkind⟩ := Option.bind_eq_some_iff.mp hkeyword
    obtain ⟨_, rfl⟩ := Progress.reading_eq_ok.mp h
    intro entity hmem
    obtain ⟨walk, hwalk, hentity⟩ := Progress.mem_entities_concat hmem
    obtain ⟨binding, hbinding, rfl⟩ := List.mem_map.mp hwalk
    obtain ⟨found, hfound, hentity⟩ := Progress.mem_entities_attempt hentity
    have hentity : entity.NamedWith binding.pattern.boundNode?.toList members :=
      Binding.entities_named (EntityKind.of_bindingKeyword hkind) hfound entity hentity
    refine ⟨hentity.named.mono fun name hname => ?_, hentity.children⟩
    exact List.mem_filterMap.mpr ⟨binding, hbinding, Option.mem_toList.mp hname⟩
  · cases h

theorem enumCaseEntities_named (h : node.enumCaseEntities.result = .ok entities) :
    ∀ entity ∈ entities, entity.NamedWith (node.nameNodes .enumCase) members := by
  obtain ⟨_, rfl⟩ := Progress.reading_eq_ok.mp h
  intro entity hmem
  obtain ⟨walk, hwalk, hentity⟩ := Progress.mem_entities_concat hmem
  obtain ⟨element, helement, rfl⟩ := List.mem_map.mp hwalk
  obtain ⟨found, hfound, hentity⟩ := Progress.mem_entities_attempt hentity
  obtain ⟨name, hname, hkind, htext⟩ := name_of_mem_caseElementsAmong helement
  have horigin : name ∈ node.nameNodes .enumCase :=
    List.mem_filter.mpr ⟨hname, beq_iff_eq.mpr hkind⟩
  exact CaseElement.entities_named ⟨name, horigin, htext⟩ hfound entity hentity

/-- The entities of a declaration of any form are named by its nodes for names. -/
theorem declarationEntities_named {scope : Scope} {form : DeclForm}
    (h : (node.declarationEntities scope form members).result = .ok entities) :
    ∀ entity ∈ entities, entity.NamedWith (node.nameNodes form) members := by
  cases form with
  | nominal => exact nominalEntities_named h
  | function => exact forall_mem_of_map_singleton (fun _ => functionEntity_named) h
  | initializer => exact forall_mem_of_map_singleton (fun _ => initializerEntity_named) h
  | deinitializer =>
      cases h
      simpa using deinitializerEntity_named
  | subscript => exact forall_mem_of_map_singleton (fun _ => subscriptEntity_named) h
  | enumCase => exact enumCaseEntities_named h
  | associatedType => exact forall_mem_of_map_singleton (fun _ => associatedTypeEntity_named) h
  | typeAlias => exact forall_mem_of_map_singleton (fun _ => typeAliasEntity_named) h
  | property => exact propertyEntities_named h
  | importing => exact forall_mem_of_map_singleton (fun _ => importEntity_named) h

/-! ## Walks -/

/-- Every entity that a walk collects, at every depth, is given by a declaration of the tree. -/
theorem walk_everywhere (scope : Scope) (root : Node) :
    ∀ entity ∈ (root.walk scope).entities, entity.Everywhere fun part =>
      ∃ (declaration : Node) (form : DeclForm),
        declaration.Inside root ∧ part.GivenBy scope.imports declaration form := by
  refine walk_induction (P := fun scope root progress =>
    ∀ entity ∈ progress.entities, entity.Everywhere fun part =>
      ∃ (declaration : Node) (form : DeclForm),
        declaration.Inside root ∧ part.GivenBy scope.imports declaration form)
    ⟨?_, ?_, ?_, ?_⟩ scope root
  · intro scope root entity hmem
    cases hmem
  · intro scope root first second hfirst hsecond entity hmem
    rcases Progress.mem_entities_append hmem with h | h
    · exact hfirst entity h
    · exact hsecond entity h
  · intro scope root child progress hchild hprogress entity hmem
    refine (hprogress entity hmem).imp fun part hpart => ?_
    obtain ⟨declaration, form, hinside, hgiven⟩ := hpart
    exact ⟨declaration, form, hinside.trans (below_of_mem_children hchild).inside, hgiven⟩
  · intro scope root form members hform hmembers entity hmem
    obtain ⟨found, hfound, hentity⟩ := Progress.mem_entities_attempt hmem
    refine .intro ⟨root, form, .self root, scope.nested, _, found, hform, hfound, hentity⟩ ?_
    -- What lies below the entity was collected when the members were walked.
    intro child hchild
    rcases (declarationEntities_named hfound entity hentity).children with hnone | hsome
    · rw [hnone] at hchild
      cases hchild
    · obtain ⟨_, hcollected⟩ := Progress.reading_eq_ok.mp hsome
      exact hmembers child (hcollected ▸ hchild)

/-- A declaration that must have a node for its name and has none is incomplete, whatever its
members. -/
theorem declarationEntities_of_no_name {scope : Scope} {form : DeclForm}
    (hrequires : node.requiresName form) (hnone : node.nameNodes form = []) :
    node.declarationEntities scope form members =
      .ofResult (.error (.incompleteSource (some node))) := by
  have hdeclared (h : node.nameNode?.toList = []) :
      node.declaredName = .error (.incompleteSource (some node)) := by
    rw [declaredName, identifier?, Option.toList_eq_nil_iff.mp h]
    rfl
  cases form with
  | function =>
      rw [declarationEntities, functionEntity, hdeclared hnone]
      rfl
  | associatedType =>
      rw [declarationEntities, associatedTypeEntity, hdeclared hnone]
      rfl
  | typeAlias =>
      rw [declarationEntities, typeAliasEntity, hdeclared hnone]
      rfl
  | importing =>
      rw [declarationEntities, importEntity, importPath?, Option.toList_eq_nil_iff.mp hnone]
      rfl
  | nominal =>
      obtain ⟨kind, hkind⟩ := Option.isSome_iff_exists.mp hrequires
      obtain ⟨keyword, hkeyword, hkind⟩ := Option.bind_eq_some_iff.mp hkind
      rw [declarationEntities, nominalEntities, hkeyword]
      split
      · next heq =>
        cases heq
        cases hkind
      · next heq =>
        cases heq
        rw [hkind]
        simp only [nominalEntity, hdeclared hnone]
        rfl
      · next heq => cases heq
  | initializer | deinitializer | subscript | enumCase | property => cases hrequires

/-- A declaration that must have a node for its name and has none is dropped. -/
theorem walk_of_no_name {scope : Scope} {form : DeclForm}
    (hform : scope.declForm? node.kind = some form) (hrequires : node.requiresName form)
    (hnone : node.nameNodes form = []) :
    node.walk scope =
      ⟨[], [.dropped (.declaration node) ⟨.incompleteSource, some node⟩], none⟩ := by
  obtain ⟨label, children⟩ := node
  rw [walk, show scope.declForm? label.kind = some form from hform]
  simp only [declarationEntities_of_no_name hrequires hnone]
  rfl

end Node

namespace Document

/-- Every entity of a document, at every depth, is given by a declaration of its tree. It names
itself and has a name, or it has the text of a node of the declaration: it is nameless when this
node covers no byte of the source. A declaration without such a node where one is required gives no
entity and is dropped as incomplete. -/
theorem nameless_iff_silent (document : Document) (imports : Bool) (path : Option String) :
    (∀ entities, (document.entities imports path).result = .ok entities →
      ∀ entity ∈ entities, entity.Everywhere fun part =>
        ∃ (declaration : Node) (form : DeclForm),
          declaration.Inside document.root ∧ part.GivenBy imports declaration form ∧
          ((part.kind.namesItself = true ∧ part.name ≠ "") ∨
            (part.kind.namesItself = false ∧ ∃ name ∈ declaration.nameNodes form,
              name.text = part.name ∧
              (part.name = "" ↔ document.source.slice name.span = [])))) ∧
      ∀ (declaration : Node) (form : DeclForm) (nested : Bool),
        Scope.declForm? ⟨imports, nested⟩ declaration.kind = some form →
        declaration.requiresName form → declaration.nameNodes form = [] →
        declaration.walk ⟨imports, nested⟩ =
          ⟨[], [.dropped (.declaration declaration) ⟨.incompleteSource, some declaration⟩],
            none⟩ := by
  constructor
  · intro entities h entity hmem
    rw [result_entities, Node.outline, Progress.reading_eq_ok] at h
    obtain ⟨_, rfl⟩ := h
    refine (Node.walk_everywhere _ _ entity hmem).imp fun part hpart => ?_
    obtain ⟨declaration, form, hinside, hgiven⟩ := hpart
    refine ⟨declaration, form, hinside, hgiven, ?_⟩
    obtain ⟨nested, members, found, hform, hfound, hpart⟩ := hgiven
    rcases (Node.declarationEntities_named hfound part hpart).named with
      hitself | ⟨hkind, name, hname, htext⟩
    · exact .inl hitself
    · have hplace : name.Inside document.root :=
        (Node.below_of_mem_nameNodes hname).inside.trans hinside
      exact .inr ⟨hkind, name, hname, htext, htext ▸ text_eq_empty_iff hplace⟩
  · intro declaration form nested hform hrequires hnone
    exact Node.walk_of_no_name hform hrequires hnone

/-- A name that the parser had to make up, at a place where the source has none. -/
def madeUpName (kind : String) (position : Nat) : Node :=
  ⟨{ kind, span := ⟨position, position⟩, missing := true }, []⟩

/-- The source `enum E{case a,}` with its tree. The second element of the case has no name. -/
def enumWithGap : Document where
  source := .ofString "enum E\x7bcase a,\x7d"
  tree := .over "source_file" 0 15 [.over "class_declaration" 0 15 [
    .tokenOver "enum" 0 4,
    .over "type_identifier" 5 6 [],
    .over "enum_class_body" 6 15 [.tokenOver "\x7b" 6 7,
      .over "enum_entry" 7 14 [.tokenOver "case" 7 11, .over "simple_identifier" 12 13 [],
        .tokenOver "," 13 14, madeUpName "simple_identifier" 14],
      .tokenOver "\x7d" 14 15]]]

/-- The second case of the enum is nameless, and a node for its name covers no byte. An alias
without a node for its name is dropped. -/
theorem nameless_iff_silent_enumWithGap :
    (∃ entity part : Entity, (enumWithGap.entities false none).result = .ok [entity] ∧
      part ∈ entity.children ∧ part.name = "" ∧
      ∃ declaration form, part.GivenBy false declaration form ∧
        ∃ name ∈ declaration.nameNodes form, enumWithGap.source.slice name.span = []) ∧
      ∃ node : Node, node.kind = "typealias_declaration" ∧
        node.walk ⟨false, false⟩ =
          ⟨[], [.dropped (.declaration node) ⟨.incompleteSource, some node⟩], none⟩ := by
  obtain ⟨hentities, hdropped⟩ := nameless_iff_silent enumWithGap false none
  constructor
  · obtain ⟨entity, first, part, hentity, hchildren, hname, hkind⟩ : ∃ entity first part : Entity,
        (enumWithGap.entities false none).result = .ok [entity] ∧
        entity.children = [first, part] ∧ part.name = "" ∧ part.kind.namesItself = false :=
      ⟨_, _, _, rfl, rfl, rfl, rfl⟩
    have hpart : part ∈ entity.children := by simp [hchildren]
    cases hentities [entity] hentity entity (List.mem_singleton_self entity) with
    | intro _ hbelow =>
        cases hbelow part hpart with
        | intro horigin _ =>
            obtain ⟨declaration, form, _, hgiven, hnamed⟩ := horigin
            refine ⟨entity, part, hentity, hpart, hname, declaration, form, hgiven, ?_⟩
            rcases hnamed with ⟨hitself, _⟩ | ⟨_, name, hmem, _, hiff⟩
            · rw [hkind] at hitself
              cases hitself
            · exact ⟨name, hmem, hiff.mp hname⟩
  · have halias := hdropped (.over "typealias_declaration" 0 9 [.tokenOver "typealias" 0 9])
      .typeAlias false rfl rfl rfl
    exact ⟨_, rfl, halias⟩

/-- The source `typealias = Int` with its tree. -/
def aliasWithoutName : Document where
  source := .ofString "typealias = Int"
  tree := ⟨{ kind := "source_file", span := ⟨0, 15⟩, hasError := true }, [
    ⟨{ kind := "typealias_declaration", span := ⟨0, 15⟩, hasError := true }, [
      .tokenOver "typealias" 0 9, madeUpName "type_identifier" 9, .tokenOver "=" 10 11,
      .over "user_type" 12 15 [.over "type_identifier" 12 15 []]]⟩]⟩

/-- The alias is not dropped: it gives an entity without a name. -/
theorem entities_aliasWithoutName :
    (aliasWithoutName.entities false none).result =
      .ok [{ name := "", kind := .typeAlias
             predicates := [.ofTypes "HAS" [.named "Int" []]] }] :=
  rfl

end Document

end WordGrid
