import WordGrid.Proofs.EntityShape
import WordGrid.Proofs.Failures
import WordGrid.Proofs.Notices

/-!
# Where drops are located

A walk gives notice of what it drops: a declaration, or one of the bindings or case elements that a
declaration tries on their own. The event that tells it names the kind and the line of the node
that could not be summarised. That node lies in the declaration (`Node.walk_dropsIn`), or else
there is no node to name: an item of a tuple or of the parameters of a function type is read for no
owner, so an item without a type is told without its place. Read `Document.drop_located` first.
-/

namespace WordGrid

/-- The attempt was at the declaration, or at a part of it that is tried on its own. -/
inductive Attempt.IsOf (declaration : Node) : Attempt → Prop where
  | whole : IsOf declaration (.declaration declaration)
  | binding {binding : Binding} :
      binding ∈ declaration.bindings → IsOf declaration (.binding binding)
  | element {element : CaseElement} :
      element ∈ declaration.caseElements → IsOf declaration (.element element)

/-- A declaration of the tree, or a part of one, was tried, and the drop arises in it. -/
def Drop.HappensIn (scope : Scope) (root : Node) (subject : Attempt) (cause : Drop) : Prop :=
  ∃ declaration : Node, declaration.Inside root ∧ (scope.declForm? declaration.kind).isSome ∧
    subject.IsOf declaration ∧ cause.ArisesIn declaration

namespace Node

/-- The drop of a part of a declaration arises in the declaration. -/
theorem DropsPart.arisesIn {node : Node} {subject : Attempt} {cause : Drop}
    (h : node.DropsPart subject cause) : subject.IsOf node ∧ cause.ArisesIn node := by
  cases h with
  | binding hmem hdrop =>
      obtain ⟨hpattern, hslot⟩ := below_of_mem_bindings hmem
      have hfails := Binding.entities_failsIn hpattern.inside
        (fun slot hgiven => (hslot slot hgiven).inside) (.drop cause) hdrop
      exact ⟨.binding hmem, hfails⟩
  | element hmem hdrop =>
      have hfails := CaseElement.entities_failsIn
        (fun values hvalues => (below_of_mem_caseElements hmem hvalues).inside) (.drop cause) hdrop
      exact ⟨.element hmem, hfails⟩

/-- An attempt at a declaration gives notice of drops in it, if its members do. -/
theorem dropsIn_of_attempt {scope : Scope} {root : Node} {form : DeclForm} {members : Progress}
    (hform : scope.declForm? root.kind = some form) (haborts : members.AbortsIn root)
    (hmembers : ∀ subject cause, .dropped subject cause ∈ members.notices →
      cause.HappensIn scope root subject) {subject : Attempt} {cause : Drop}
    (h : .dropped subject cause ∈ (Progress.attempt (.declaration root)
      (declarationEntities scope form members.reading root)).notices) :
    cause.HappensIn scope root subject := by
  have hdeclared : (scope.declForm? root.kind).isSome := by simp [hform]
  rcases Progress.mem_notices_attempt h with hpart | ⟨other, hdrop, heq⟩
  · rcases mem_notices_declarationEntities hpart with hmember | ⟨other, reason, hpart, heq⟩
    · rw [Progress.notices_reading] at hmember
      exact hmembers subject cause hmember
    · cases heq
      exact ⟨root, .self root, hdeclared, hpart.arisesIn⟩
  · cases heq
    have hfails := declarationEntities_failsIn haborts.reading_failsIn (.drop cause) hdrop
    exact ⟨root, .self root, hdeclared, .whole, hfails⟩

/-- Every drop that a walk gives notice of happens in a declaration of the tree. -/
theorem walk_dropsIn (scope : Scope) (root : Node) {subject : Attempt} {cause : Drop}
    (h : .dropped subject cause ∈ (root.walk scope).notices) :
    cause.HappensIn scope root subject := by
  -- The members of a declaration must not end in a drop, or it would be told of the declaration.
  refine (walk_induction (P := fun scope root progress => progress.AbortsIn root ∧
    ∀ subject cause, .dropped subject cause ∈ progress.notices →
      cause.HappensIn scope root subject) ⟨?_, ?_, ?_, ?_⟩ scope root).2 subject cause h
  · intro scope root
    exact ⟨.empty root, fun subject cause hmem => by cases hmem⟩
  · intro scope root first second hfirst hsecond
    refine ⟨hfirst.1.append hsecond.1, fun subject cause hmem => ?_⟩
    rcases Progress.mem_notices_append hmem with h | h
    · exact hfirst.2 subject cause h
    · exact hsecond.2 subject cause h
  · intro scope root child progress hchild hprogress
    have hinside := (below_of_mem_children hchild).inside
    refine ⟨hprogress.1.mono hinside, fun subject cause hmem => ?_⟩
    obtain ⟨declaration, hdeclaration, hrest⟩ := hprogress.2 subject cause hmem
    exact ⟨declaration, hdeclaration.trans hinside, hrest⟩
  · intro scope root form members hform hmembers
    refine ⟨.attempt (declarationEntities_failsIn hmembers.1.reading_failsIn), ?_⟩
    intro subject cause hmem
    exact dropsIn_of_attempt hform hmembers.1 hmembers.2 hmem

end Node

namespace Document

/-- Every drop that a document gives notice of is that of a declaration of its tree, or of a part of
one. It tells the kind and the line of a node inside the declaration, unless there is no such node:
then a tuple or function type in the declaration has an item without a type. -/
theorem drop_located (document : Document) (imports : Bool) (path : Option String)
    {subject : Attempt} {cause : Drop}
    (h : .dropped subject cause ∈ (document.entities imports path).notices) :
    ∃ declaration : Node, declaration.Inside document.root ∧
      (Scope.declForm? ⟨imports, false⟩ declaration.kind).isSome ∧ subject.IsOf declaration ∧
      ((∃ node : Node, cause.node = some node ∧ node.Inside declaration ∧
          ("failed_at", .string node.kind) ∈ (Notice.dropped subject cause).event.data ∧
          ("line", .integer node.line) ∈ (Notice.dropped subject cause).event.data) ∨
        (cause.node = none ∧ cause.reason = .incompleteSource ∧
          ∃ type : Node, type.Inside declaration ∧ type.hasGap)) := by
  rw [notices_entities] at h
  rcases List.mem_append.mp h with hsyntax | hwalk
  · unfold syntaxNotices at hsyntax
    split at hsyntax <;> simp at hsyntax
  · rw [Node.outline, Progress.notices_reading] at hwalk
    obtain ⟨declaration, hinside, hdeclared, hsubject, harises⟩ := Node.walk_dropsIn _ _ hwalk
    refine ⟨declaration, hinside, hdeclared, hsubject, ?_⟩
    obtain ⟨reason, _ | node⟩ := cause
    · exact .inr ⟨rfl, harises⟩
    · exact .inl ⟨node, rfl, harises, by simp [Notice.event, Json.ofString?, Json.ofNat?]⟩

/-- The source `struct S{` and, on a second line, `let a:B.C}`, with its tree. -/
def structOfMemberType : Document where
  source := .ofString "struct S\x7b\nlet a:B.C\x7d"
  tree := .over "source_file" 0 20 [.over "class_declaration" 0 20 [
    .tokenOver "struct" 0 6,
    .over "type_identifier" 7 8 [],
    .over "class_body" 8 20 [.tokenOver "\x7b" 8 9,
      .over "property_declaration" 10 19 [
        .over "value_binding_pattern" 10 13 [.tokenOver "let" 10 13],
        .over "pattern" 14 15 [.over "simple_identifier" 14 15 []],
        .over "type_annotation" 15 19 [.tokenOver ":" 15 16,
          .over "user_type" 16 19 [.over "type_identifier" 16 17 [], .tokenOver "." 17 18,
            .over "type_identifier" 18 19 []]]],
      .tokenOver "\x7d" 19 20]]]

/-- The binding of the member is dropped at its type, which stands on the second line. -/
theorem drop_located_structOfMemberType :
    ∃ (subject : Attempt) (type declaration : Node),
      .dropped subject ⟨.unsupportedType, some type⟩ ∈
        (structOfMemberType.entities false none).notices ∧
      type.kind = "user_type" ∧ type.line = 2 ∧
      subject.IsOf declaration ∧ type.Inside declaration := by
  obtain ⟨subject, type, hnotices, hkind, hline⟩ : ∃ (subject : Attempt) (type : Node),
      (structOfMemberType.entities false none).notices =
        [.dropped subject ⟨.unsupportedType, some type⟩] ∧
      type.kind = "user_type" ∧ type.line = 2 := ⟨_, _, rfl, rfl, rfl⟩
  have hmem : .dropped subject ⟨.unsupportedType, some type⟩ ∈
      (structOfMemberType.entities false none).notices := by
    rw [hnotices]
    exact List.mem_singleton_self _
  obtain ⟨declaration, _, _, hsubject, hplace⟩ := drop_located structOfMemberType false none hmem
  rcases hplace with ⟨node, hnode, hinside, _⟩ | ⟨hnone, _⟩
  · cases hnode
    exact ⟨subject, type, declaration, hmem, hkind, hline, hsubject, hinside⟩
  · cases hnone

/-- The source `typealias A=(b:)` with its tree. The item of the tuple has a label and no type. -/
def aliasOfGap : Document where
  source := .ofString "typealias A=(b:)"
  tree := .over "source_file" 0 16 [.over "typealias_declaration" 0 16 [
    .tokenOver "typealias" 0 9,
    .over "type_identifier" 10 11 [],
    .tokenOver "=" 11 12,
    .over "tuple_type" 12 16 [.tokenOver "(" 12 13,
      .over "tuple_type_item" 13 15 [.over "simple_identifier" 13 14 [], .tokenOver ":" 14 15],
      .tokenOver ")" 15 16]]]

/-- The alias is dropped, and the event that tells it names neither a node nor a line. -/
theorem drop_of_aliasOfGap_unlocated :
    ∃ subject : Attempt,
      (aliasOfGap.entities false none).notices = [.dropped subject ⟨.incompleteSource, none⟩] ∧
      (Notice.dropped subject ⟨.incompleteSource, none⟩).event.data =
        [("reason", .string "incomplete source"), ("node_type", .string "typealias_declaration"),
          ("failed_at", .null), ("line", .null)] :=
  ⟨_, rfl, rfl⟩

end Document

end WordGrid
