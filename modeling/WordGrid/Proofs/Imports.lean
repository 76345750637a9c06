import WordGrid.Proofs.Absence
import WordGrid.Proofs.Displacement
import WordGrid.Proofs.EntityShape
import WordGrid.Proofs.Recovery

/-!
# Imports are only filtered

Whether imports are summarised changes which nodes a walk takes for declarations, at every depth. If
no import holds another declaration, the walk without imports gives what the walk with imports gives
less the imports: `Entity.dropImports` removes them from a forest and from the members below, and
the notices differ by those about imports. Both walks are ended by the same failure. Read
`Document.entities_without_imports` first.

`withoutImports` is this change to entities, readings and progress. It commutes with everything a
walk is put together from (`Progress.withoutImports_append`, `Progress.withoutImports_attempt`), and
a declaration that is no import does not see the switch (`Node.declarationEntities_withoutImports`).
-/

namespace WordGrid

/-! ## Forests without imports -/

namespace Entity

mutual

/-- The entity without the imports among its members, at any depth. -/
def withoutImports : Entity → Entity
  | ⟨name, kind, genericArguments, children, descriptors, requirements, predicates⟩ =>
      ⟨name, kind, genericArguments, dropImports children, descriptors, requirements, predicates⟩

/-- The entities that are no imports, without the imports among their members. -/
def dropImports : List Entity → List Entity
  | [] => []
  | entity :: rest =>
      if entity.kind == .importing then dropImports rest
      else entity.withoutImports :: dropImports rest

end

theorem dropImports_append (first second : List Entity) :
    dropImports (first ++ second) = dropImports first ++ dropImports second := by
  induction first with
  | nil => rfl
  | cons entity rest ih =>
      rw [List.cons_append, dropImports, dropImports, ih]
      split <;> rfl

/-- An entity that is no import and has no members. -/
def IsLeaf (entity : Entity) : Prop :=
  entity.kind ≠ .importing ∧ entity.children = []

/-- There is nothing to remove from leaves. -/
theorem dropImports_of_isLeaf {entities : List Entity} (h : ∀ entity ∈ entities, entity.IsLeaf) :
    dropImports entities = entities := by
  induction entities with
  | nil => rfl
  | cons entity rest ih =>
      obtain ⟨⟨hkind, hchildren⟩, hrest⟩ := List.forall_mem_cons.mp h
      have hsame : entity.withoutImports = entity := by
        obtain ⟨name, kind, genericArguments, children, descriptors, requirements, predicates⟩ :=
          entity
        obtain rfl : children = [] := hchildren
        rfl
      rw [dropImports, if_neg (by simpa using hkind), hsame, ih hrest]

/-- A single entity that is no import stays, with fewer members. -/
theorem dropImports_singleton {entity : Entity} (h : entity.kind ≠ .importing) :
    dropImports [entity] = [entity.withoutImports] := by
  rw [dropImports, if_neg (by simpa using h), dropImports]

end Entity

/-! ## Walks without imports -/

/-- Does an event tell that an import was dropped? -/
def Event.tellsOfImport (event : Event) : Bool :=
  event.name == "translate.dropped" &&
    (event.data.lookup "node_type").bind Json.string? == some "import_declaration"

/-- Is a notice about something other than a dropped import? -/
def Notice.isKept (notice : Notice) : Bool :=
  !notice.event.tellsOfImport

/-- A drop is told of an import exactly if a node of that kind was being summarised. -/
theorem Notice.isKept_dropped (subject : Attempt) (cause : Drop) :
    (Notice.dropped subject cause).isKept = (subject.kind? != some "import_declaration") := by
  have hlookup : (Notice.dropped subject cause).event.data.lookup "node_type" =
      some (.ofString? subject.kind?) := rfl
  have hname : ((Notice.dropped subject cause).event.name == "translate.dropped") = true := rfl
  rw [Notice.isKept, Event.tellsOfImport, hlookup, hname, Bool.true_and]
  cases subject.kind? <;> rfl

/-- Notices about bindings are kept. -/
theorem Notice.isKept_dropped_binding (binding : Binding) (cause : Drop) :
    (Notice.dropped (.binding binding) cause).isKept := by
  rw [Notice.isKept_dropped]
  rfl

/-- Notices about case elements are kept. -/
theorem Notice.isKept_dropped_element (element : CaseElement) (cause : Drop) :
    (Notice.dropped (.element element) cause).isKept := by
  rw [Notice.isKept_dropped]
  rfl

/-- What a reading gives without imports. -/
def Reading.withoutImports (reading : Reading (List Entity)) : Reading (List Entity) :=
  ⟨reading.notices.filter Notice.isKept, reading.result.map Entity.dropImports⟩

/-- What a walk gives without imports. -/
def Progress.withoutImports (progress : Progress) : Progress :=
  ⟨Entity.dropImports progress.entities, progress.notices.filter Notice.isKept, progress.abort⟩

namespace Progress

theorem withoutImports_append (first second : Progress) :
    (first.append second).withoutImports =
      first.withoutImports.append second.withoutImports := by
  obtain ⟨entities, notices, _ | failure⟩ := first
  · simp [append, withoutImports, Entity.dropImports_append]
  · rfl

theorem withoutImports_reading (progress : Progress) :
    progress.withoutImports.reading = progress.reading.withoutImports := by
  obtain ⟨entities, notices, _ | failure⟩ := progress <;> rfl

/-- An attempt at something that is no import. -/
theorem withoutImports_attempt {subject : Attempt} (reading : Reading (List Entity))
    (h : subject.kind? ≠ some "import_declaration") :
    (attempt subject reading).withoutImports = attempt subject reading.withoutImports := by
  have hkept (cause : Drop) : (Notice.dropped subject cause).isKept = true := by
    rw [Notice.isKept_dropped]
    simpa using h
  obtain ⟨notices, (cause | error | error) | entities⟩ := reading
  · simp [attempt, withoutImports, Reading.withoutImports, Except.map, hkept, Entity.dropImports]
  · rfl
  · rfl
  · rfl

end Progress

/-! ## Declarations that do not see the switch -/

/-- The switch decides about imports and about nothing else. -/
theorem Scope.declForm?_switch (nested : Bool) (kind : String) :
    (kind = "import_declaration" ∧ Scope.declForm? ⟨true, nested⟩ kind = some .importing ∧
        Scope.declForm? ⟨false, nested⟩ kind = none) ∨
      (Scope.declForm? ⟨false, nested⟩ kind = Scope.declForm? ⟨true, nested⟩ kind ∧
        Scope.declForm? ⟨true, nested⟩ kind ≠ some .importing) := by
  by_cases hkind : kind = "import_declaration"
  · subst hkind
    exact .inl ⟨rfl, rfl, rfl⟩
  · have hform : DeclForm.ofKind? kind ≠ some .importing := by
      unfold DeclForm.ofKind?
      split <;> simp_all
    refine .inr ?_
    unfold Scope.declForm?
    cases hother : DeclForm.ofKind? kind with
    | none => exact ⟨rfl, by simp⟩
    | some form => cases form <;> simp_all

namespace Reading

/-- A reading of leaves, with no notice about an import. -/
structure Unswitched (reading : Reading (List Entity)) : Prop where
  leaves : ∀ entities, reading.result = .ok entities → ∀ entity ∈ entities, entity.IsLeaf
  notices : ∀ notice ∈ reading.notices, notice.isKept

/-- Nothing is removed from such a reading. -/
theorem Unswitched.withoutImports_eq {reading : Reading (List Entity)} (h : reading.Unswitched) :
    reading.withoutImports = reading := by
  obtain ⟨notices, result⟩ := reading
  have hnotices : notices.filter Notice.isKept = notices := List.filter_eq_self.mpr h.notices
  have hresult : result.map Entity.dropImports = result := by
    cases result with
    | error failure => rfl
    | ok entities =>
        exact congrArg Except.ok (Entity.dropImports_of_isLeaf (h.leaves entities rfl))
  rw [withoutImports, hnotices, hresult]

/-- A reader of a single leaf. -/
theorem unswitched_single {result : Except Failure Entity}
    (h : ∀ entity, result = .ok entity → entity.IsLeaf) :
    (ofResult (result.map ([·]))).Unswitched where
  leaves _ := Node.forall_mem_of_map_singleton h
  notices _ hmem := by cases hmem

/-- Attempts at leaves one after the other. -/
theorem unswitched_attempts {α : Type} {items : List α} {subject : α → Attempt}
    {result : α → Except Failure (List Entity)}
    (hleaves : ∀ item entities, result item = .ok entities → ∀ entity ∈ entities, entity.IsLeaf)
    (hkept : ∀ item cause, (Notice.dropped (subject item) cause).isKept) :
    (Progress.concat (items.map fun item =>
      .attempt (subject item) (.ofResult (result item)))).reading.Unswitched where
  leaves entities hentities entity hmem := by
    obtain ⟨_, rfl⟩ := Progress.reading_eq_ok.mp hentities
    obtain ⟨walk, hwalk, hentity⟩ := Progress.mem_entities_concat hmem
    obtain ⟨item, _, rfl⟩ := List.mem_map.mp hwalk
    obtain ⟨found, hfound, hentity⟩ := Progress.mem_entities_attempt hentity
    exact hleaves item found hfound entity hentity
  notices notice hmem := by
    rw [Progress.notices_reading] at hmem
    obtain ⟨walk, hwalk, hnotice⟩ := Progress.mem_notices_concat hmem
    obtain ⟨item, _, rfl⟩ := List.mem_map.mp hwalk
    rcases Progress.mem_notices_attempt hnotice with hnone | ⟨cause, _, rfl⟩
    · cases hnone
    · exact hkept item cause

/-- Going on with members from which the imports are removed. -/
theorem withoutImports_bind {members : Reading (List Entity)}
    {next other : List Entity → Reading (List Entity)}
    (h : ∀ children, other (Entity.dropImports children) = (next children).withoutImports) :
    (members.withoutImports >>= other) = (members >>= next).withoutImports := by
  obtain ⟨notices, failure | children⟩ := members
  · rfl
  · have hnext := h children
    simp only [withoutImports] at hnext
    simp [bind, Reading.bind, withoutImports, Except.map, hnext]

/-- Going on with a result. -/
theorem withoutImports_ofResult_bind {α : Type} {result : Except Failure α}
    {next other : α → Reading (List Entity)}
    (h : ∀ value, other value = (next value).withoutImports) :
    (ofResult result >>= other) = (ofResult result >>= next).withoutImports := by
  cases result with
  | error failure => rfl
  | ok value =>
      have hnext := h value
      simp only [withoutImports] at hnext
      simp [bind, Reading.bind, ofResult, withoutImports, hnext]

end Reading

theorem Binding.isLeaf_of_entities {kind : EntityKind} {descriptors : List Descriptor}
    {binding : Binding} {entities : List Entity} (hkind : kind ≠ .importing)
    (h : binding.entities kind descriptors = .ok entities) :
    ∀ entity ∈ entities, entity.IsLeaf := by
  unfold Binding.entities at h
  split at h
  · obtain ⟨type, _, h⟩ := bind_eq_ok.mp h
    cases h
    exact List.forall_mem_singleton.mpr ⟨hkind, rfl⟩
  · cases h
    simp

theorem CaseElement.isLeaf_of_entities {descriptors : List Descriptor} {element : CaseElement}
    {entities : List Entity} (h : element.entities descriptors = .ok entities) :
    ∀ entity ∈ entities, entity.IsLeaf := by
  unfold CaseElement.entities at h
  split at h
  · cases h
    exact List.forall_mem_singleton.mpr ⟨by simp, rfl⟩
  · obtain ⟨types, _, h⟩ := bind_eq_ok.mp h
    cases h
    exact List.forall_mem_singleton.mpr ⟨by simp, rfl⟩

namespace Node

variable {node : Node} {entity : Entity}

theorem isLeaf_of_functionEntity (h : node.functionEntity = .ok entity) : entity.IsLeaf := by
  obtain ⟨name, _, h⟩ := bind_eq_ok.mp h
  obtain ⟨requirements, _, h⟩ := bind_eq_ok.mp h
  obtain ⟨parameters, _, h⟩ := bind_eq_ok.mp h
  obtain ⟨result, _, h⟩ := bind_eq_ok.mp h
  cases h
  exact ⟨by simp, rfl⟩

theorem isLeaf_of_initializerEntity (h : node.initializerEntity = .ok entity) : entity.IsLeaf := by
  obtain ⟨requirements, _, h⟩ := bind_eq_ok.mp h
  obtain ⟨parameters, _, h⟩ := bind_eq_ok.mp h
  cases h
  exact ⟨by simp, rfl⟩

theorem isLeaf_of_subscriptEntity (h : node.subscriptEntity = .ok entity) : entity.IsLeaf := by
  obtain ⟨requirements, _, h⟩ := bind_eq_ok.mp h
  obtain ⟨parameters, _, h⟩ := bind_eq_ok.mp h
  obtain ⟨result, _, h⟩ := bind_eq_ok.mp h
  cases h
  exact ⟨by simp, rfl⟩

theorem isLeaf_of_associatedTypeEntity (h : node.associatedTypeEntity = .ok entity) :
    entity.IsLeaf := by
  obtain ⟨name, _, h⟩ := bind_eq_ok.mp h
  obtain ⟨bounds, _, h⟩ := bind_eq_ok.mp h
  obtain ⟨constraints, _, h⟩ := bind_eq_ok.mp h
  cases h
  exact ⟨by simp, rfl⟩

theorem isLeaf_of_typeAliasEntity (h : node.typeAliasEntity = .ok entity) : entity.IsLeaf := by
  obtain ⟨name, _, h⟩ := bind_eq_ok.mp h
  obtain ⟨requirements, _, h⟩ := bind_eq_ok.mp h
  obtain ⟨aliased, _, h⟩ := bind_eq_ok.mp h
  cases h
  exact ⟨by simp, rfl⟩

theorem enumCaseEntities_unswitched (node : Node) : node.enumCaseEntities.Unswitched :=
  Reading.unswitched_attempts (fun _ _ => CaseElement.isLeaf_of_entities)
    Notice.isKept_dropped_element

theorem propertyEntities_unswitched (node : Node) : node.propertyEntities.Unswitched := by
  unfold propertyEntities
  split
  · next kind hkeyword =>
    obtain ⟨keyword, _, hkind⟩ := Option.bind_eq_some_iff.mp hkeyword
    have himport : kind ≠ .importing := by
      rcases EntityKind.of_bindingKeyword hkind with rfl | rfl <;> simp
    exact Reading.unswitched_attempts (fun _ _ => Binding.isLeaf_of_entities himport)
      Notice.isKept_dropped_binding
  · refine ⟨fun entities h => ?_, fun notice h => ?_⟩ <;> cases h

/-! ## Types and extensions -/

variable (nested : Bool) (members : Reading (List Entity))

theorem extensionEntities_withoutImports (node : Node) :
    node.extensionEntities ⟨false, nested⟩ members.withoutImports =
      (node.extensionEntities ⟨true, nested⟩ members).withoutImports := by
  cases nested with
  | true => rfl
  | false =>
      refine Reading.withoutImports_ofResult_bind fun predicates => ?_
      refine Reading.withoutImports_bind fun children => ?_
      cases node.extendedType? with
      | none => rfl
      | some extended =>
          refine Reading.withoutImports_ofResult_bind fun type => ?_
          cases type <;> rfl

theorem nominalEntity_withoutImports {kind : EntityKind} (hkind : kind ≠ .importing) (node : Node) :
    node.nominalEntity kind members.withoutImports =
      (node.nominalEntity kind members).withoutImports := by
  refine Reading.withoutImports_ofResult_bind fun name => ?_
  refine Reading.withoutImports_ofResult_bind fun requirements => ?_
  refine Reading.withoutImports_ofResult_bind fun predicates => ?_
  refine Reading.withoutImports_bind fun children => ?_
  show Reading.mk [] (.ok _) = Reading.mk [] (.ok (Entity.dropImports _))
  rw [Entity.dropImports_singleton hkind]
  rfl

theorem nominalEntities_withoutImports (node : Node) :
    node.nominalEntities ⟨false, nested⟩ members.withoutImports =
      (node.nominalEntities ⟨true, nested⟩ members).withoutImports := by
  unfold nominalEntities
  split
  · exact extensionEntities_withoutImports nested members node
  · split
    · next kind hkind =>
      have himport : kind ≠ .importing := by
        intro heq
        have hmem := EntityKind.of_nominalKeyword hkind
        simp [heq] at hmem
      exact nominalEntity_withoutImports members himport node
    · rfl
  · rfl

/-- A declaration that is no import gives the same with and without imports, but for those among
its members. -/
theorem declarationEntities_withoutImports {form : DeclForm} (hform : form ≠ .importing)
    (node : Node) :
    node.declarationEntities ⟨false, nested⟩ form members.withoutImports =
      (node.declarationEntities ⟨true, nested⟩ form members).withoutImports := by
  cases form with
  | nominal => exact nominalEntities_withoutImports nested members node
  | function =>
      exact (Reading.unswitched_single fun _ => isLeaf_of_functionEntity).withoutImports_eq.symm
  | initializer =>
      exact (Reading.unswitched_single fun _ => isLeaf_of_initializerEntity).withoutImports_eq.symm
  | deinitializer => rfl
  | subscript =>
      exact (Reading.unswitched_single fun _ => isLeaf_of_subscriptEntity).withoutImports_eq.symm
  | enumCase => exact node.enumCaseEntities_unswitched.withoutImports_eq.symm
  | associatedType =>
      exact (Reading.unswitched_single
        fun _ => isLeaf_of_associatedTypeEntity).withoutImports_eq.symm
  | typeAlias =>
      exact (Reading.unswitched_single fun _ => isLeaf_of_typeAliasEntity).withoutImports_eq.symm
  | property => exact node.propertyEntities_unswitched.withoutImports_eq.symm
  | importing => exact absurd rfl hform

/-- Nothing is left of an attempt at an import. -/
theorem attempt_import_withoutImports (hkind : node.kind = "import_declaration") :
    (Progress.attempt (.declaration node)
      (.ofResult (node.importEntity.map ([·])))).withoutImports = .empty := by
  have hdropped (cause : Drop) : (Notice.dropped (.declaration node) cause).isKept = false := by
    rw [Notice.isKept_dropped, Attempt.kind?, hkind]
    rfl
  unfold importEntity
  cases node.importPath? with
  | some path => rfl
  | none =>
      show (⟨[], [_].filter Notice.isKept, none⟩ : Progress) = .empty
      rw [List.filter_cons_of_neg (by simp [hdropped])]
      rfl

/-! ## Trees -/

/-- No import of the tree holds a declaration of another form among the named nodes below it. -/
def ImportsAreBare (root : Node) : Prop :=
  ∀ node : Node, node.Inside root → node.kind = "import_declaration" →
    ∀ inner : Node, inner.Below node → inner.isNamed →
      Scope.declForm? ⟨false, false⟩ inner.kind = none

/-- The imports of a part of the tree are bare too. -/
theorem ImportsAreBare.of_mem {root child : Node} (h : root.ImportsAreBare)
    (hmem : child ∈ root.children) : child.ImportsAreBare :=
  fun node hinside => h node (hinside.trans (.child hmem (.self root)))

/-- The imports of a tree are bare if the root and the imports below it are. -/
theorem ImportsAreBare.of_children {root : Node}
    (hroot : root.kind = "import_declaration" → ∀ inner : Node, inner.Below root →
      inner.isNamed → Scope.declForm? ⟨false, false⟩ inner.kind = none)
    (hchildren : ∀ child ∈ root.children, child.ImportsAreBare) : root.ImportsAreBare := by
  intro node hinside
  rcases hinside.eq_or_below with rfl | ⟨child, hmem, hinside⟩
  · exact hroot
  · exact hchildren child hmem node hinside

mutual

/-- A walk over a tree without declarations gives nothing. -/
theorem walk_of_undeclared {scope : Scope} : (root : Node) →
    (∀ inner : Node, inner.Inside root → inner.isNamed → scope.declForm? inner.kind = none) →
    root.isNamed → root.walk scope = .empty
  | ⟨label, children⟩, h, hnamed => by
      rw [walk_of_declForm?_none (h _ (.self _) hnamed)]
      exact walkAll_of_undeclared children fun node hmem inner hinside =>
        h inner (hinside.trans (.child hmem (.self _)))

theorem walkAll_of_undeclared {scope : Scope} : (nodes : List Node) →
    (∀ node ∈ nodes, ∀ inner : Node, inner.Inside node → inner.isNamed →
      scope.declForm? inner.kind = none) → walkAll scope nodes = .empty
  | [], _ => rfl
  | node :: rest, h => by
      obtain ⟨hnode, hrest⟩ := List.forall_mem_cons.mp h
      rw [walkAll, walkAll_of_undeclared rest hrest]
      split
      · next hnamed =>
        rw [walk_of_undeclared node hnode hnamed]
        rfl
      · rfl

end

mutual

/-- A walk without imports gives what a walk with imports gives, less the imports. -/
theorem walk_withoutImports (nested : Bool) : (root : Node) → root.ImportsAreBare →
    root.walk ⟨false, nested⟩ = (root.walk ⟨true, nested⟩).withoutImports
  | ⟨label, children⟩, hbare => by
      have hall := walkAll_withoutImports nested children fun node hmem => hbare.of_mem hmem
      have hmembers := walkMembers_withoutImports nested children fun node hmem => hbare.of_mem hmem
      rcases Scope.declForm?_switch nested label.kind with
        ⟨hkind, hwith, hnone⟩ | ⟨hsame, hform⟩
      · -- Without imports the walk goes on below an import and finds nothing.
        have hempty : walkAll ⟨false, nested⟩ children = .empty :=
          walkAll_of_undeclared children fun node hmem inner hinside hnamed =>
            hbare ⟨label, children⟩ (.self _) hkind inner ⟨node, hmem, hinside⟩ hnamed
        rw [walk, walk, hnone, hwith]
        exact hempty.trans (@attempt_import_withoutImports ⟨label, children⟩ hkind).symm
      · rw [walk, walk, hsame]
        cases hother : Scope.declForm? ⟨true, nested⟩ label.kind with
        | none => exact hall
        | some form =>
            have himport : form ≠ .importing := fun heq => hform (hother.trans (congrArg some heq))
            have hsubject :
                (Attempt.declaration ⟨label, children⟩).kind? ≠ some "import_declaration" := by
              intro hsome
              have hkind : label.kind = "import_declaration" := Option.some.inj hsome
              rw [hkind] at hother
              exact himport (Option.some.inj hother).symm
            simp only [hmembers, Progress.withoutImports_reading,
              Progress.withoutImports_attempt _ hsubject,
              declarationEntities_withoutImports nested _ himport]

theorem walkAll_withoutImports (nested : Bool) : (nodes : List Node) →
    (∀ node ∈ nodes, node.ImportsAreBare) →
    walkAll ⟨false, nested⟩ nodes = (walkAll ⟨true, nested⟩ nodes).withoutImports
  | [], _ => rfl
  | node :: rest, h => by
      obtain ⟨hnode, hrest⟩ := List.forall_mem_cons.mp h
      rw [walkAll, walkAll, walkAll_withoutImports nested rest hrest,
        walk_withoutImports nested node hnode, ← Progress.withoutImports_append]
      split <;> rfl

theorem walkMembers_withoutImports (nested : Bool) : (nodes : List Node) →
    (∀ node ∈ nodes, node.ImportsAreBare) →
    walkMembers ⟨false, nested⟩ nodes = (walkMembers ⟨true, nested⟩ nodes).withoutImports
  | [], _ => rfl
  | node :: rest, h => by
      obtain ⟨hnode, hrest⟩ := List.forall_mem_cons.mp h
      rw [walkMembers, walkMembers, walkMembers_withoutImports nested rest hrest,
        walk_withoutImports true node hnode]
      split <;> rfl

end

/-- The imports of a tree with texts are those of the tree. -/
theorem ImportsAreBare.annotate {tree : Node} (h : tree.ImportsAreBare) (source : Source) :
    (source.annotate tree).ImportsAreBare := by
  have hkind (node : Node) : (node.relabel source.annotateLabel).kind = node.kind := by
    rw [kind, label_relabel]
    rfl
  have hnamed (node : Node) : (node.relabel source.annotateLabel).isNamed = node.isNamed := by
    rw [isNamed, label_relabel]
    rfl
  rintro node hinside himport inner ⟨child, hmem, hbelow⟩ hinner
  obtain ⟨origin, horigin, rfl⟩ := hinside.of_relabel
  rw [children_relabel] at hmem
  obtain ⟨originChild, horiginChild, rfl⟩ := List.mem_map.mp hmem
  obtain ⟨originInner, horiginInner, rfl⟩ := hbelow.of_relabel
  rw [hkind] at himport ⊢
  rw [hnamed] at hinner
  exact h origin horigin himport originInner ⟨originChild, horiginChild, horiginInner⟩ hinner

end Node

namespace Document

/-- Without imports a document gives what it gives with imports, less the imports at every depth.
It fails in one case exactly if it fails in the other, and for the same reason. The events differ
by those that tell of dropped imports. -/
theorem entities_without_imports (document : Document) (path : Option String)
    (hbare : document.tree.ImportsAreBare) :
    (document.entities false path).result =
        (document.entities true path).result.map Entity.dropImports ∧
      (∀ failure, (document.entities false path).result = .error failure ↔
        (document.entities true path).result = .error failure) ∧
      (document.entities false path).notices.map Notice.event =
        ((document.entities true path).notices.map Notice.event).filter (!·.tellsOfImport) := by
  have hwalk : document.root.outline ⟨false, false⟩ =
      (document.root.outline ⟨true, false⟩).withoutImports := by
    rw [Node.outline, Node.outline,
      Node.walk_withoutImports false document.root (hbare.annotate document.source),
      Progress.withoutImports_reading]
  have hresult : (document.entities false path).result =
      (document.entities true path).result.map Entity.dropImports := by
    rw [result_entities, result_entities, hwalk]
    rfl
  refine ⟨hresult, fun failure => ?_, ?_⟩
  · rw [hresult, map_eq_error]
  · have hsyntax : (document.syntaxNotices path).filter Notice.isKept =
        document.syntaxNotices path := by
      unfold syntaxNotices
      split <;> rfl
    have hnotices : (document.entities false path).notices =
        (document.entities true path).notices.filter Notice.isKept := by
      rw [notices_entities, notices_entities, hwalk, List.filter_append, hsyntax]
      rfl
    rw [hnotices, List.filter_map]
    rfl

/-- The source `import A;class B{import C}` with its tree. -/
def importsAroundB : Document where
  source := .ofString "import A;class B{import C}"
  tree := .over "source_file" 0 26 [
    .over "import_declaration" 0 8 [.over "identifier" 7 8 []],
    .over "class_declaration" 9 26 [
      ⟨{ kind := "class", span := ⟨9, 14⟩, named := false }, []⟩,
      .over "type_identifier" 15 16 [],
      .over "class_body" 16 26 [.over "import_declaration" 17 25 [.over "identifier" 24 25 []]]]]

/-- With imports the source gives two entities and the class has a member; without imports it gives
a class without members. -/
theorem entities_without_imports_of_b :
    importsAroundB.tree.ImportsAreBare ∧
      (importsAroundB.entities true none).result =
        .ok [{ name := "A", kind := .importing },
          { name := "B", kind := .classType, children := [{ name := "C", kind := .importing }] }] ∧
      (importsAroundB.entities false none).result =
        .ok [{ name := "B", kind := .classType }] := by
  have hleaf (node : Node) (hkind : node.kind ≠ "import_declaration") (h : node.children = []) :
      node.ImportsAreBare :=
    .of_children (fun himport => absurd himport hkind) (by simp [h])
  have himport (start stop inner : Nat) : (Node.over "import_declaration" start stop
      [.over "identifier" inner stop []]).ImportsAreBare := by
    have hkind : (Node.over "identifier" inner stop []).kind ≠ "import_declaration" := by
      simp [Node.over, Node.kind]
    refine .of_children (fun _ => ?_) (List.forall_mem_singleton.mpr (hleaf _ hkind rfl))
    rintro node ⟨child, hmem, hinside⟩ _
    obtain rfl := List.mem_singleton.mp hmem
    rcases hinside.eq_or_below with rfl | ⟨child, hmem, _⟩
    · rfl
    · cases hmem
  have hbare : importsAroundB.tree.ImportsAreBare := by
    refine .of_children (fun h => absurd h (by decide)) (List.forall_mem_cons.mpr
      ⟨himport 0 8 7, List.forall_mem_singleton.mpr ?_⟩)
    refine .of_children (fun h => absurd h (by decide)) (List.forall_mem_cons.mpr
      ⟨hleaf _ (by decide) rfl, List.forall_mem_cons.mpr ⟨hleaf _ (by decide) rfl,
        List.forall_mem_singleton.mpr ?_⟩⟩)
    exact .of_children (fun h => absurd h (by decide))
      (List.forall_mem_singleton.mpr (himport 17 25 24))
  refine ⟨hbare, rfl, ?_⟩
  rw [(entities_without_imports importsAroundB none hbare).1]
  rfl

end Document

end WordGrid
