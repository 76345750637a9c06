import WordGrid.Outline.Document
import WordGrid.Proofs.Descent
import WordGrid.Proofs.Results
import WordGrid.Proofs.WalkInduction

/-!
# The shape of entities

An entity of a kind has the predicates of that kind, with the arguments that go with their words,
only types and extensions have members, and an initializer or a subscript has the labels of the
parameters of its declaration in its name. `Entity.FitsKind` says so about one entity of a tree and
`Entity.WellFormed` about an entity and everything below it. Every reader of a declaration gives
well-formed entities, hence so does a walk (`Node.walk_wellFormed`).
-/

namespace WordGrid

/-- Is the argument a type? -/
def Argument.isType : Argument → Bool
  | .type _ => true
  | _ => false

/-- Is the argument a descriptor? -/
def Argument.isDescriptor : Argument → Bool
  | .descriptor _ => true
  | _ => false

/-- The words that the predicates of a kind may have, in their order. -/
def EntityKind.Admits (kind : EntityKind) (words : List String) : Prop :=
  match kind with
  | .struct | .classType | .enum | .protocol | .extension => words = [] ∨ words = ["ISA"]
  | .function => words.Sublist ["TAKES", "RETURN", "CAN"]
  | .initializer => words.Sublist ["TAKES", "CAN"]
  | .subscript => words = ["HAS"] ∨ words = ["TAKES", "HAS"]
  | .constant | .mutable | .typeAlias => words = ["HAS"]
  | .enumCase => words = [] ∨ words = ["HAS"]
  | .associatedType | .importing | .deinitializer => words = []

/-- The arguments that a predicate of a kind may have, by its word. Only a case may have any
number of types. -/
def Predicate.Fits (kind : EntityKind) (predicate : Predicate) : Prop :=
  match predicate.name with
  | "ISA" | "TAKES" =>
      predicate.arguments ≠ [] ∧ ∀ argument ∈ predicate.arguments, argument.isType
  | "CAN" => predicate.arguments ≠ [] ∧ ∀ argument ∈ predicate.arguments, argument.isDescriptor
  | "RETURN" =>
      predicate.arguments.length = 1 ∧ ∀ argument ∈ predicate.arguments, argument.isType
  | "HAS" =>
      (kind ≠ .enumCase → predicate.arguments.length = 1) ∧
        ∀ argument ∈ predicate.arguments, argument.isType
  | _ => False

namespace Entity

/-- The number of types that an entity takes; zero if it does not say. -/
def takenCount (entity : Entity) : Nat :=
  match entity.predicates.find? (·.name == "TAKES") with
  | some predicate => predicate.arguments.length
  | none => 0

/-- The name is a word followed, in parentheses, by the labels of the parameters of a declaration in
the tree, each with a colon. One type is taken for each parameter. -/
def IsLabelled (root : Node) (form : DeclForm) (word : String) (entity : Entity) : Prop :=
  ∃ declaration : Node, declaration.Inside root ∧
    DeclForm.ofKind? declaration.kind = some form ∧
    declaration.parameters.length = entity.takenCount ∧
    entity.name = word ++ "(" ++
      String.join (declaration.parameters.map (·.parameterLabel ++ ":")) ++ ")"

/-- An entity of a tree has what its kind may have, at the top level or nested in another one. -/
structure FitsKind (root : Node) (nested : Bool) (entity : Entity) : Prop where
  extension_top : entity.kind = .extension → nested = false
  extension_bare : entity.kind = .extension →
    entity.genericArguments = [] ∧ entity.descriptors = [] ∧ entity.requirements = []
  members : entity.children ≠ [] →
    entity.kind ∈ [EntityKind.struct, .classType, .enum, .protocol, .extension]
  words : entity.kind.Admits (entity.predicates.map Predicate.name)
  arguments : ∀ predicate ∈ entity.predicates, predicate.Fits entity.kind
  initializer_name : entity.kind = .initializer → entity.IsLabelled root .initializer "init"
  subscript_name : entity.kind = .subscript → entity.IsLabelled root .subscript "subs"

/-- An entity of a tree and all entities below it have what their kinds may have. -/
inductive WellFormed (root : Node) : Bool → Entity → Prop where
  | intro {nested : Bool} {entity : Entity} :
      entity.FitsKind root nested → (∀ child ∈ entity.children, WellFormed root true child) →
      WellFormed root nested entity

variable {part root : Node} {nested : Bool} {form : DeclForm} {word : String} {entity : Entity}

theorem IsLabelled.mono (h : entity.IsLabelled part form word) (hinside : part.Inside root) :
    entity.IsLabelled root form word := by
  obtain ⟨declaration, hdeclaration, hname⟩ := h
  exact ⟨declaration, hdeclaration.trans hinside, hname⟩

/-- An entity that is well formed in a part of a tree is well formed in the tree. -/
theorem WellFormed.mono (h : entity.WellFormed part nested) (hinside : part.Inside root) :
    entity.WellFormed root nested := by
  induction h with
  | intro hfits _ ih =>
      refine .intro { hfits with initializer_name := ?_, subscript_name := ?_ } ih
      · exact fun hkind => (hfits.initializer_name hkind).mono hinside
      · exact fun hkind => (hfits.subscript_name hkind).mono hinside

end Entity

/-! ## Predicates -/

namespace Predicate

theorem isType_of_mem_ofTypes {word : String} {types : List TypeExpr} {argument : Argument}
    (hmem : argument ∈ (ofTypes word types).arguments) : argument.isType := by
  obtain ⟨type, _, rfl⟩ := List.mem_map.mp hmem
  rfl

theorem isDescriptor_of_mem_ofDescriptors {word : String} {descriptors : List Descriptor}
    {argument : Argument} (hmem : argument ∈ (ofDescriptors word descriptors).arguments) :
    argument.isDescriptor := by
  obtain ⟨descriptor, _, rfl⟩ := List.mem_map.mp hmem
  rfl

theorem fits_isa {kind : EntityKind} {types : List TypeExpr} (h : types ≠ []) :
    (ofTypes "ISA" types).Fits kind :=
  ⟨by simpa [ofTypes] using h, fun _ => isType_of_mem_ofTypes⟩

/-- A predicate with one type fits every kind that has it. -/
theorem fits_of_mem_has {kind : EntityKind} {type : TypeExpr} {predicate : Predicate}
    (hmem : predicate ∈ [ofTypes "HAS" [type]]) : predicate.Fits kind := by
  obtain rfl := List.mem_singleton.mp hmem
  exact ⟨fun _ => rfl, fun _ => isType_of_mem_ofTypes⟩

theorem fits_has_of_enumCase {types : List TypeExpr} : (ofTypes "HAS" types).Fits .enumCase :=
  ⟨fun h => absurd rfl h, fun _ => isType_of_mem_ofTypes⟩

/-- A predicate that may be left out is there only with arguments. -/
theorem mem_unlessEmpty {predicate other : Predicate} :
    other ∈ predicate.unlessEmpty ↔ other = predicate ∧ predicate.arguments ≠ [] := by
  unfold unlessEmpty
  split <;> simp_all

theorem fits_of_mem_takes {kind : EntityKind} {types : List TypeExpr} {predicate : Predicate}
    (hmem : predicate ∈ (ofTypes "TAKES" types).unlessEmpty) : predicate.Fits kind := by
  obtain ⟨rfl, harguments⟩ := mem_unlessEmpty.mp hmem
  exact ⟨harguments, fun _ => isType_of_mem_ofTypes⟩

theorem fits_of_mem_returns {kind : EntityKind} {types : List TypeExpr} {predicate : Predicate}
    (hlength : types.length ≤ 1) (hmem : predicate ∈ (ofTypes "RETURN" types).unlessEmpty) :
    predicate.Fits kind := by
  obtain ⟨rfl, harguments⟩ := mem_unlessEmpty.mp hmem
  refine ⟨?_, fun _ => isType_of_mem_ofTypes⟩
  have hpos : 0 < (ofTypes "RETURN" types).arguments.length := List.length_pos_iff.mpr harguments
  have hsame : (ofTypes "RETURN" types).arguments.length = types.length := List.length_map _
  omega

theorem fits_of_mem_can {kind : EntityKind} {descriptors : List Descriptor} {predicate : Predicate}
    (hmem : predicate ∈ (ofDescriptors "CAN" descriptors).unlessEmpty) : predicate.Fits kind := by
  obtain ⟨rfl, harguments⟩ := mem_unlessEmpty.mp hmem
  exact ⟨harguments, fun _ => isDescriptor_of_mem_ofDescriptors⟩

/-- A predicate that may be left out contributes its word at most. -/
theorem words_unlessEmpty (predicate : Predicate) :
    (predicate.unlessEmpty.map name).Sublist [predicate.name] := by
  unfold unlessEmpty
  split
  · exact List.nil_sublist _
  · exact List.Sublist.refl _

end Predicate

/-! ## Entities without members -/

namespace Entity

/-- An entity without members that is neither an extension nor named by labels. -/
theorem WellFormed.of_plain {root : Node} {nested : Bool} {entity : Entity}
    (hkind : entity.kind ∉ [EntityKind.extension, .initializer, .subscript])
    (hchildren : entity.children = [])
    (hwords : entity.kind.Admits (entity.predicates.map Predicate.name))
    (harguments : ∀ predicate ∈ entity.predicates, predicate.Fits entity.kind) :
    entity.WellFormed root nested := by
  simp only [List.mem_cons, List.not_mem_nil, or_false, not_or] at hkind
  obtain ⟨hextension, hinitializer, hsubscript⟩ := hkind
  refine .intro ⟨?_, ?_, ?_, hwords, harguments, ?_, ?_⟩ ?_
  · exact fun h => absurd h hextension
  · exact fun h => absurd h hextension
  · exact fun h => absurd hchildren h
  · exact fun h => absurd h hinitializer
  · exact fun h => absurd h hsubscript
  · simp [hchildren]

/-- The number of types taken is the length of the list that `TAKES` was made of, be it empty. -/
theorem takenCount_eq {entity : Entity} {types : List TypeExpr} {rest : List Predicate}
    (hpredicates : entity.predicates = (Predicate.ofTypes "TAKES" types).unlessEmpty ++ rest)
    (hrest : ∀ predicate ∈ rest, predicate.name ≠ "TAKES") : entity.takenCount = types.length := by
  unfold takenCount
  rw [hpredicates]
  cases types with
  | nil =>
      -- `TAKES` is left out, and nothing after it has that word.
      have hnone : rest.find? (·.name == "TAKES") = none := by
        simpa [List.find?_eq_none] using hrest
      simp [Predicate.unlessEmpty, Predicate.ofTypes, hnone]
  | cons first others => simp [Predicate.unlessEmpty, Predicate.ofTypes]

/-- A name made of the labels of a declaration's parameters is labelled by that declaration. -/
theorem isLabelled_of_parameters {node : Node} {form : DeclForm} {word : String} {entity : Entity}
    {types : List TypeExpr} (hform : DeclForm.ofKind? node.kind = some form)
    (htypes : node.parameterTypes = .ok types) (hcount : entity.takenCount = types.length)
    (hname : entity.name = word ++ "(" ++ node.parameterLabels ++ ")") :
    entity.IsLabelled node form word := by
  refine ⟨node, .self node, hform, ?_, hname⟩
  rw [hcount, length_of_mapM_eq_ok htypes]

end Entity

namespace Node

variable {root node : Node} {entity : Entity} {nested : Bool}

theorem functionEntity_wellFormed (h : node.functionEntity = .ok entity) :
    entity.WellFormed root nested := by
  obtain ⟨name, _, h⟩ := bind_eq_ok.mp h
  obtain ⟨requirements, _, h⟩ := bind_eq_ok.mp h
  obtain ⟨parameters, _, h⟩ := bind_eq_ok.mp h
  obtain ⟨result, hresult, h⟩ := bind_eq_ok.mp h
  cases h
  have hlength : result.length ≤ 1 := by
    rw [length_of_mapM_eq_ok hresult]
    cases node.returnSlot? <;> simp
  refine .of_plain (by simp) rfl ?_ ?_
  · simp only [List.map_append]
    exact ((Predicate.words_unlessEmpty _).append (Predicate.words_unlessEmpty _)).append
      (Predicate.words_unlessEmpty _)
  · intro predicate hmem
    simp only [List.mem_append] at hmem
    rcases hmem with (htakes | hreturns) | hcan
    · exact Predicate.fits_of_mem_takes htakes
    · exact Predicate.fits_of_mem_returns hlength hreturns
    · exact Predicate.fits_of_mem_can hcan

theorem initializerEntity_wellFormed (hform : DeclForm.ofKind? node.kind = some .initializer)
    (h : node.initializerEntity = .ok entity) : entity.WellFormed node nested := by
  obtain ⟨requirements, _, h⟩ := bind_eq_ok.mp h
  obtain ⟨parameters, hparameters, h⟩ := bind_eq_ok.mp h
  cases h
  refine .intro ⟨by simp, by simp, by simp, ?_, ?_, fun _ => ?_, by simp⟩ (by simp)
  · simp only [List.map_append]
    exact (Predicate.words_unlessEmpty _).append (Predicate.words_unlessEmpty _)
  · intro predicate hmem
    rcases List.mem_append.mp hmem with htakes | hcan
    · exact Predicate.fits_of_mem_takes htakes
    · exact Predicate.fits_of_mem_can hcan
  · refine Entity.isLabelled_of_parameters hform hparameters (Entity.takenCount_eq rfl ?_) rfl
    intro predicate hmem
    obtain ⟨rfl, _⟩ := Predicate.mem_unlessEmpty.mp hmem
    simp [Predicate.ofDescriptors]

theorem subscriptEntity_wellFormed (hform : DeclForm.ofKind? node.kind = some .subscript)
    (h : node.subscriptEntity = .ok entity) : entity.WellFormed node nested := by
  obtain ⟨requirements, _, h⟩ := bind_eq_ok.mp h
  obtain ⟨parameters, hparameters, h⟩ := bind_eq_ok.mp h
  obtain ⟨result, _, h⟩ := bind_eq_ok.mp h
  cases h
  refine .intro ⟨by simp, by simp, by simp, ?_, ?_, by simp, fun _ => ?_⟩ (by simp)
  · cases parameters with
    | nil => exact .inl rfl
    | cons first rest => exact .inr rfl
  · intro predicate hmem
    rcases List.mem_append.mp hmem with htakes | hhas
    · exact Predicate.fits_of_mem_takes htakes
    · exact Predicate.fits_of_mem_has hhas
  · refine Entity.isLabelled_of_parameters hform hparameters (Entity.takenCount_eq rfl ?_) rfl
    simp [Predicate.ofTypes]

theorem deinitializerEntity_wellFormed : node.deinitializerEntity.WellFormed root nested :=
  .of_plain (by simp [deinitializerEntity]) rfl rfl (by simp [deinitializerEntity])

theorem associatedTypeEntity_wellFormed (h : node.associatedTypeEntity = .ok entity) :
    entity.WellFormed root nested := by
  obtain ⟨name, _, h⟩ := bind_eq_ok.mp h
  obtain ⟨bounds, _, h⟩ := bind_eq_ok.mp h
  obtain ⟨constraints, _, h⟩ := bind_eq_ok.mp h
  cases h
  exact .of_plain (by simp) rfl rfl (by simp)

theorem typeAliasEntity_wellFormed (h : node.typeAliasEntity = .ok entity) :
    entity.WellFormed root nested := by
  obtain ⟨name, _, h⟩ := bind_eq_ok.mp h
  obtain ⟨requirements, _, h⟩ := bind_eq_ok.mp h
  obtain ⟨aliased, _, h⟩ := bind_eq_ok.mp h
  cases h
  exact .of_plain (by simp) rfl rfl fun predicate => Predicate.fits_of_mem_has

theorem importEntity_wellFormed (h : node.importEntity = .ok entity) :
    entity.WellFormed root nested := by
  unfold importEntity at h
  split at h
  · cases h
    exact .of_plain (by simp) rfl rfl (by simp)
  · cases h

end Node

/-- Only the keywords of constants and variables have a kind. -/
theorem EntityKind.of_bindingKeyword {keyword : String} {kind : EntityKind}
    (h : EntityKind.ofBindingKeyword? keyword = some kind) :
    kind = .mutable ∨ kind = .constant := by
  unfold EntityKind.ofBindingKeyword? at h
  split at h <;> simp_all

/-- Only the keywords of types with members have a kind. -/
theorem EntityKind.of_nominalKeyword {keyword : String} {kind : EntityKind}
    (h : EntityKind.ofNominalKeyword? keyword = some kind) :
    kind ∈ [EntityKind.struct, .classType, .enum, .protocol] := by
  unfold EntityKind.ofNominalKeyword? at h
  split at h <;> simp_all

theorem Binding.entities_wellFormed {kind : EntityKind} {descriptors : List Descriptor}
    {binding : Binding} {entities : List Entity} {root : Node} {nested : Bool}
    (hkind : kind = .mutable ∨ kind = .constant)
    (h : binding.entities kind descriptors = .ok entities) :
    ∀ entity ∈ entities, entity.WellFormed root nested := by
  unfold Binding.entities at h
  split at h
  · obtain ⟨type, _, h⟩ := bind_eq_ok.mp h
    cases h
    intro entity hmem
    obtain rfl := List.mem_singleton.mp hmem
    rcases hkind with rfl | rfl
    · exact .of_plain (by simp) rfl rfl fun predicate => Predicate.fits_of_mem_has
    · exact .of_plain (by simp) rfl rfl fun predicate => Predicate.fits_of_mem_has
  · cases h
    simp

theorem CaseElement.entities_wellFormed {descriptors : List Descriptor} {element : CaseElement}
    {entities : List Entity} {root : Node} {nested : Bool}
    (h : element.entities descriptors = .ok entities) :
    ∀ entity ∈ entities, entity.WellFormed root nested := by
  unfold CaseElement.entities at h
  split at h
  · cases h
    intro entity hmem
    obtain rfl := List.mem_singleton.mp hmem
    exact .of_plain (by simp) rfl (.inl rfl) (by simp)
  · obtain ⟨types, _, h⟩ := bind_eq_ok.mp h
    cases h
    intro entity hmem
    obtain rfl := List.mem_singleton.mp hmem
    refine .of_plain (by simp) rfl (.inr rfl) fun predicate hpredicate => ?_
    obtain rfl := List.mem_singleton.mp hpredicate
    exact Predicate.fits_has_of_enumCase

/-! ## Types and extensions -/

namespace Node

variable {root node : Node} {nested : Bool}

/-- An inheritance clause gives one predicate with at least one type, and no clause gives none. -/
theorem inheritance_shape {predicates : List Predicate} (h : node.inheritance = .ok predicates) :
    predicates = [] ∨ ∃ types ≠ [], predicates = [Predicate.ofTypes "ISA" types] := by
  unfold inheritance at h
  split at h
  · cases h
    exact .inl rfl
  · next entries hentries =>
    obtain ⟨types, htypes, h⟩ := bind_eq_ok.mp h
    cases h
    refine .inr ⟨types, ?_, rfl⟩
    have hentries : 0 < entries.length := List.length_pos_iff.mpr (of_inheritedTypes? hentries).1
    rw [← length_of_mapM_eq_ok htypes] at hentries
    exact List.length_pos_iff.mp hentries

/-- What an inheritance clause gives fits every kind that has such a clause. -/
theorem inheritance_fits {predicates : List Predicate} (kind : EntityKind)
    (h : node.inheritance = .ok predicates) :
    (predicates.map Predicate.name = [] ∨ predicates.map Predicate.name = ["ISA"]) ∧
      ∀ predicate ∈ predicates, predicate.Fits kind := by
  rcases inheritance_shape h with rfl | ⟨types, htypes, rfl⟩
  · simp
  · refine ⟨.inr rfl, fun predicate hmem => ?_⟩
    obtain rfl := List.mem_singleton.mp hmem
    exact Predicate.fits_isa htypes

variable {members : Reading (List Entity)} {entities : List Entity}

/-- An extension with well-formed members is well formed, and stands at the top level. -/
theorem extensionEntities_wellFormed {scope : Scope}
    (hmembers : ∀ children, members.result = .ok children →
      ∀ child ∈ children, child.WellFormed root true)
    (h : (node.extensionEntities scope members).result = .ok entities) :
    ∀ entity ∈ entities, entity.WellFormed root scope.nested := by
  unfold extensionEntities at h
  -- A nested extension is dropped before anything in it is read.
  split at h
  · cases h
  · next hnested =>
    simp only [Reading.result_bind, Reading.result_ofResult] at h
    obtain ⟨predicates, hpredicates, h⟩ := bind_eq_ok.mp h
    obtain ⟨children, hchildren, h⟩ := bind_eq_ok.mp h
    split at h
    · cases h
    · simp only [Reading.result_bind, Reading.result_ofResult] at h
      obtain ⟨type, _, h⟩ := bind_eq_ok.mp h
      split at h
      · cases h
        intro entity hmem
        obtain rfl := List.mem_singleton.mp hmem
        obtain ⟨hwords, hfits⟩ := inheritance_fits .extension hpredicates
        refine .intro ⟨fun _ => by simpa using hnested, by simp, by simp, hwords, hfits, by simp,
          by simp⟩ (hmembers children hchildren)
      · cases h
        simp

/-- A type with well-formed members is well formed. -/
theorem nominalEntity_wellFormed {kind : EntityKind}
    (hkind : kind ∈ [EntityKind.struct, .classType, .enum, .protocol])
    (hmembers : ∀ children, members.result = .ok children →
      ∀ child ∈ children, child.WellFormed root true)
    (h : (node.nominalEntity kind members).result = .ok entities) :
    ∀ entity ∈ entities, entity.WellFormed root nested := by
  simp only [nominalEntity, Reading.result_bind, Reading.result_ofResult] at h
  obtain ⟨name, _, h⟩ := bind_eq_ok.mp h
  obtain ⟨requirements, _, h⟩ := bind_eq_ok.mp h
  obtain ⟨predicates, hpredicates, h⟩ := bind_eq_ok.mp h
  obtain ⟨children, hchildren, h⟩ := bind_eq_ok.mp h
  cases h
  intro entity hmem
  obtain rfl := List.mem_singleton.mp hmem
  obtain ⟨hwords, hfits⟩ := inheritance_fits kind hpredicates
  refine .intro ?_ (hmembers children hchildren)
  simp only [List.mem_cons, List.not_mem_nil, or_false] at hkind
  rcases hkind with rfl | rfl | rfl | rfl
  all_goals exact ⟨by simp, by simp, by simp, hwords, hfits, by simp, by simp⟩

/-- A type or an extension with well-formed members is well formed. -/
theorem nominalEntities_wellFormed {scope : Scope}
    (hmembers : ∀ children, members.result = .ok children →
      ∀ child ∈ children, child.WellFormed root true)
    (h : (node.nominalEntities scope members).result = .ok entities) :
    ∀ entity ∈ entities, entity.WellFormed root scope.nested := by
  unfold nominalEntities at h
  split at h
  · exact extensionEntities_wellFormed hmembers h
  · split at h
    · next kind hkind =>
      exact nominalEntity_wellFormed (EntityKind.of_nominalKeyword hkind) hmembers h
    · cases h
  · cases h

/-! ## Walks -/

theorem propertyEntities_wellFormed (h : node.propertyEntities.result = .ok entities) :
    ∀ entity ∈ entities, entity.WellFormed root nested := by
  unfold propertyEntities at h
  split at h
  · next kind hkeyword =>
    obtain ⟨keyword, _, hkind⟩ := Option.bind_eq_some_iff.mp hkeyword
    obtain ⟨_, rfl⟩ := Progress.reading_eq_ok.mp h
    intro entity hmem
    obtain ⟨walk, hwalk, hentity⟩ := Progress.mem_entities_concat hmem
    obtain ⟨binding, _, rfl⟩ := List.mem_map.mp hwalk
    obtain ⟨found, hfound, hentity⟩ := Progress.mem_entities_attempt hentity
    exact Binding.entities_wellFormed (EntityKind.of_bindingKeyword hkind) hfound entity hentity
  · cases h

theorem enumCaseEntities_wellFormed (h : node.enumCaseEntities.result = .ok entities) :
    ∀ entity ∈ entities, entity.WellFormed root nested := by
  obtain ⟨_, rfl⟩ := Progress.reading_eq_ok.mp h
  intro entity hmem
  obtain ⟨walk, hwalk, hentity⟩ := Progress.mem_entities_concat hmem
  obtain ⟨element, _, rfl⟩ := List.mem_map.mp hwalk
  obtain ⟨found, hfound, hentity⟩ := Progress.mem_entities_attempt hentity
  exact CaseElement.entities_wellFormed hfound entity hentity

/-- A reader of a single entity gives a list of one. -/
theorem forall_mem_of_map_singleton {result : Except Failure Entity} {P : Entity → Prop}
    (h : ∀ entity, result = .ok entity → P entity) (hresult : result.map ([·]) = .ok entities) :
    ∀ entity ∈ entities, P entity := by
  obtain ⟨entity, hentity, rfl⟩ := map_eq_ok.mp hresult
  simpa using h entity hentity

/-- A declaration of any form gives well-formed entities if its members do. -/
theorem declarationEntities_wellFormed {scope : Scope} {form : DeclForm}
    (hform : DeclForm.ofKind? node.kind = some form)
    (hmembers : ∀ children, members.result = .ok children →
      ∀ child ∈ children, child.WellFormed node true)
    (h : (node.declarationEntities scope form members).result = .ok entities) :
    ∀ entity ∈ entities, entity.WellFormed node scope.nested := by
  cases form with
  | nominal => exact nominalEntities_wellFormed hmembers h
  | function => exact forall_mem_of_map_singleton (fun _ => functionEntity_wellFormed) h
  | initializer => exact forall_mem_of_map_singleton (fun _ => initializerEntity_wellFormed hform) h
  | deinitializer =>
      cases h
      simpa using deinitializerEntity_wellFormed
  | subscript => exact forall_mem_of_map_singleton (fun _ => subscriptEntity_wellFormed hform) h
  | enumCase => exact enumCaseEntities_wellFormed h
  | associatedType => exact forall_mem_of_map_singleton (fun _ => associatedTypeEntity_wellFormed) h
  | typeAlias => exact forall_mem_of_map_singleton (fun _ => typeAliasEntity_wellFormed) h
  | property => exact propertyEntities_wellFormed h
  | importing => exact forall_mem_of_map_singleton (fun _ => importEntity_wellFormed) h

end Node

/-- The form of a kind in a scope is its form anywhere. -/
theorem Scope.ofKind?_of_declForm? (scope : Scope) {kind : String} {form : DeclForm}
    (h : scope.declForm? kind = some form) : DeclForm.ofKind? kind = some form := by
  unfold declForm? at h
  split at h
  · next himport =>
    split at h
    · exact himport.trans h
    · cases h
  · exact h

namespace Node

/-- Every entity that a walk collects is well formed. -/
theorem walk_wellFormed (scope : Scope) (root : Node) :
    ∀ entity ∈ (root.walk scope).entities, entity.WellFormed root scope.nested := by
  refine walk_induction (P := fun scope root progress =>
    ∀ entity ∈ progress.entities, entity.WellFormed root scope.nested) ⟨?_, ?_, ?_, ?_⟩ scope root
  · intro scope root entity hmem
    cases hmem
  · intro scope root first second hfirst hsecond entity hmem
    rcases Progress.mem_entities_append hmem with h | h
    · exact hfirst entity h
    · exact hsecond entity h
  · intro scope root child progress hchild h entity hmem
    exact (h entity hmem).mono (below_of_mem_children hchild).inside
  · intro scope root form members hform hmembers entity hmem
    obtain ⟨found, hfound, hentity⟩ := Progress.mem_entities_attempt hmem
    have hkind := scope.ofKind?_of_declForm? hform
    refine declarationEntities_wellFormed hkind (fun children hchildren => ?_) hfound entity hentity
    obtain ⟨_, rfl⟩ := Progress.reading_eq_ok.mp hchildren
    exact hmembers

end Node

/-- A named node over a span of the source. -/
def Node.over (kind : String) (start stop : Nat) (children : List Node) : Node :=
  ⟨{ kind, span := ⟨start, stop⟩ }, children⟩

/-- A token over a span of the source. -/
def Node.tokenOver (kind : String) (start stop : Nat) : Node :=
  ⟨{ kind, span := ⟨start, stop⟩, named := false }, []⟩

namespace Document

/-- The entities of a document are those that a walk over its tree collects. -/
theorem result_entities (document : Document) (imports : Bool) (path : Option String) :
    (document.entities imports path).result = (document.root.outline ⟨imports, false⟩).result := by
  rw [entities, Reading.result_bind]
  rfl

/-- All entities of a document, at every depth, have the shape of their kind. An initializer and a
subscript are named by the labels of the parameters of a declaration in the tree. -/
theorem forest_wellFormed (document : Document) (imports : Bool) (path : Option String)
    {entities : List Entity} (h : (document.entities imports path).result = .ok entities) :
    ∀ entity ∈ entities, entity.WellFormed document.root false := by
  rw [result_entities, Node.outline, Progress.reading_eq_ok] at h
  obtain ⟨_, rfl⟩ := h
  exact Node.walk_wellFormed ⟨imports, false⟩ document.root

/-- The source `extension A:B{init(b:C)}` with its tree. -/
def extensionOfA : Document where
  source := .ofString "extension A:B{init(b:C)}"
  tree := .over "source_file" 0 24 [.over "class_declaration" 0 24 [
    ⟨{ kind := "extension", span := ⟨0, 9⟩, named := false }, []⟩,
    .over "user_type" 10 11 [.over "type_identifier" 10 11 []],
    .over "inheritance_specifier" 12 13 [
      .over "user_type" 12 13 [.over "type_identifier" 12 13 []]],
    .over "class_body" 13 24 [.over "init_declaration" 14 23 [.over "parameter" 19 22 [
      .over "simple_identifier" 19 20 [],
      .over "user_type" 21 22 [.over "type_identifier" 21 22 []]]]]]]

/-- The entity of the extension of `A`, with the one of its initializer. -/
def entityOfA : Entity where
  name := "A"
  kind := .extension
  children := [
    { name := "init(b:)", kind := .initializer
      predicates := [.ofTypes "TAKES" [.named "C" []]] }]
  predicates := [.ofTypes "ISA" [.named "B" []]]

/-- The extension of `A` gives its entity, which has the shape of an extension. -/
theorem forest_wellFormed_extensionOfA :
    (extensionOfA.entities false none).result = .ok [entityOfA] ∧
      entityOfA.WellFormed extensionOfA.root false := by
  have hentities : (extensionOfA.entities false none).result = .ok [entityOfA] := rfl
  exact ⟨hentities, forest_wellFormed extensionOfA false none hentities entityOfA
    (List.mem_singleton_self entityOfA)⟩

end Document

end WordGrid
