import WordGrid.Outline.Document
import WordGrid.Proofs.Results
import WordGrid.Proofs.WalkInduction

/-!
# What a walk gives notice of

A walk gives notice of drops and of nothing else. A declaration has the notices of its members and
those of the bindings or case elements that it tries one by one
(`Node.mem_notices_declarationEntities`), and the walk adds one when it drops the declaration.
-/

namespace WordGrid

/-- Two readings in a row give the notices of the first, and those of the second if it comes to
it. -/
theorem Reading.mem_notices_bind {α β : Type} {reading : Reading α} {next : α → Reading β}
    {notice : Notice} (h : notice ∈ (reading >>= next).notices) :
    notice ∈ reading.notices ∨
      ∃ value, reading.result = .ok value ∧ notice ∈ (next value).notices := by
  obtain ⟨notices, failure | value⟩ := reading
  · exact .inl h
  · rcases List.mem_append.mp h with hfirst | hsecond
    · exact .inl hfirst
    · exact .inr ⟨value, rfl, hsecond⟩

/-- A result gives no notice of its own. -/
theorem Reading.mem_notices_ofResult_bind {α β : Type} {result : Except Failure α}
    {next : α → Reading β} {notice : Notice}
    (h : notice ∈ (Reading.ofResult result >>= next).notices) :
    ∃ value, result = .ok value ∧ notice ∈ (next value).notices := by
  rcases Reading.mem_notices_bind h with hnone | hnext
  · cases hnone
  · exact hnext

namespace Progress

theorem notices_reading (progress : Progress) : progress.reading.notices = progress.notices := by
  obtain ⟨entities, notices, _ | failure⟩ := progress <;> rfl

/-- Two walks in a row give no notice that neither of them gives. -/
theorem mem_notices_append {first second : Progress} {notice : Notice}
    (h : notice ∈ (first.append second).notices) :
    notice ∈ first.notices ∨ notice ∈ second.notices := by
  unfold append at h
  split at h
  · exact List.mem_append.mp h
  · exact .inl h

/-- Walks in a row give no notice that none of them gives. -/
theorem mem_notices_concat {walks : List Progress} {notice : Notice}
    (h : notice ∈ (concat walks).notices) : ∃ walk ∈ walks, notice ∈ walk.notices := by
  induction walks with
  | nil => simp [concat, empty] at h
  | cons first rest ih =>
      rcases mem_notices_append h with hfirst | hrest
      · exact ⟨first, List.mem_cons_self, hfirst⟩
      · obtain ⟨walk, hmem, hwalk⟩ := ih hrest
        exact ⟨walk, List.mem_cons_of_mem _ hmem, hwalk⟩

/-- An attempt gives the notices of its reading, and one more if that ends in a drop. -/
theorem mem_notices_attempt {subject : Attempt} {reading : Reading (List Entity)} {notice : Notice}
    (h : notice ∈ (attempt subject reading).notices) :
    notice ∈ reading.notices ∨
      ∃ cause, reading.result = .error (.drop cause) ∧ notice = .dropped subject cause := by
  obtain ⟨notices, (cause | error | error) | entities⟩ := reading
  · rcases List.mem_append.mp h with hreading | hdrop
    · exact .inl hreading
    · exact .inr ⟨cause, rfl, List.mem_singleton.mp hdrop⟩
  · exact .inl h
  · exact .inl h
  · exact .inl h

end Progress

/-- The notice tells of a drop. -/
def Notice.IsDrop (notice : Notice) : Prop :=
  ∃ subject cause, notice = .dropped subject cause

namespace Node

/-- The declaration has a part that is tried on its own, a binding or a case element, and trying it
ends in a drop. -/
inductive DropsPart (node : Node) : Attempt → Drop → Prop where
  | binding {kind : EntityKind} {binding : Binding} {cause : Drop} :
      binding ∈ node.bindings → binding.entities kind node.descriptors = .error (.drop cause) →
      DropsPart node (.binding binding) cause
  | element {element : CaseElement} {cause : Drop} :
      element ∈ node.caseElements → element.entities node.descriptors = .error (.drop cause) →
      DropsPart node (.element element) cause

/-- Attempts at results of their own give notice of those that end in a drop. -/
theorem of_mem_attempts {α : Type} {items : List α} {subject : α → Attempt}
    {result : α → Except Failure (List Entity)} {notice : Notice}
    (h : notice ∈ (Progress.concat (items.map fun item =>
      .attempt (subject item) (.ofResult (result item)))).reading.notices) :
    ∃ item ∈ items, ∃ cause, result item = .error (.drop cause) ∧
      notice = .dropped (subject item) cause := by
  rw [Progress.notices_reading] at h
  obtain ⟨walk, hwalk, hnotice⟩ := Progress.mem_notices_concat h
  obtain ⟨item, hmem, rfl⟩ := List.mem_map.mp hwalk
  rcases Progress.mem_notices_attempt hnotice with hnone | hdrop
  · cases hnone
  · exact ⟨item, hmem, hdrop⟩

variable {scope : Scope} {members : Reading (List Entity)} {node : Node} {notice : Notice}

theorem mem_notices_extensionEntities
    (h : notice ∈ (node.extensionEntities scope members).notices) : notice ∈ members.notices := by
  unfold extensionEntities at h
  split at h
  · cases h
  · obtain ⟨predicates, _, h⟩ := Reading.mem_notices_ofResult_bind h
    rcases Reading.mem_notices_bind h with hmembers | ⟨children, _, h⟩
    · exact hmembers
    · split at h
      · cases h
      · obtain ⟨type, _, h⟩ := Reading.mem_notices_ofResult_bind h
        split at h <;> cases h

theorem mem_notices_nominalEntity {kind : EntityKind}
    (h : notice ∈ (node.nominalEntity kind members).notices) : notice ∈ members.notices := by
  obtain ⟨name, _, h⟩ := Reading.mem_notices_ofResult_bind h
  obtain ⟨requirements, _, h⟩ := Reading.mem_notices_ofResult_bind h
  obtain ⟨predicates, _, h⟩ := Reading.mem_notices_ofResult_bind h
  rcases Reading.mem_notices_bind h with hmembers | ⟨children, _, h⟩
  · exact hmembers
  · cases h

/-- A type or an extension gives the notices of its members. -/
theorem mem_notices_nominalEntities (h : notice ∈ (node.nominalEntities scope members).notices) :
    notice ∈ members.notices := by
  unfold nominalEntities at h
  split at h
  · exact mem_notices_extensionEntities h
  · split at h
    · exact mem_notices_nominalEntity h
    · cases h
  · cases h

/-- A declaration gives the notices of its members, or tells which part of itself it drops. -/
theorem mem_notices_declarationEntities {form : DeclForm}
    (h : notice ∈ (node.declarationEntities scope form members).notices) :
    notice ∈ members.notices ∨
      ∃ subject cause, node.DropsPart subject cause ∧ notice = .dropped subject cause := by
  cases form with
  | nominal => exact .inl (mem_notices_nominalEntities h)
  | enumCase =>
      obtain ⟨element, hmem, cause, hdrop, rfl⟩ := of_mem_attempts h
      exact .inr ⟨_, cause, .element hmem hdrop, rfl⟩
  | property =>
      simp only [declarationEntities, propertyEntities] at h
      split at h
      · obtain ⟨binding, hmem, cause, hdrop, rfl⟩ := of_mem_attempts h
        exact .inr ⟨_, cause, .binding hmem hdrop, rfl⟩
      · cases h
  | function | initializer | deinitializer | subscript | associatedType | typeAlias | importing =>
      cases h

/-- Every notice that a walk gives is that of a drop. -/
theorem walk_notices_isDrop (scope : Scope) (root : Node) :
    ∀ notice ∈ (root.walk scope).notices, notice.IsDrop := by
  refine walk_induction (P := fun _ _ progress => ∀ notice ∈ progress.notices, notice.IsDrop)
    ⟨?_, ?_, ?_, ?_⟩ scope root
  · intro scope root notice h
    cases h
  · intro scope root first second hfirst hsecond notice h
    rcases Progress.mem_notices_append h with h | h
    · exact hfirst notice h
    · exact hsecond notice h
  · intro scope root child progress _ h
    exact h
  · intro scope root form members _ hmembers notice h
    rcases Progress.mem_notices_attempt h with h | ⟨cause, _, rfl⟩
    · rcases mem_notices_declarationEntities h with h | ⟨subject, cause, _, hdrop⟩
      · rw [Progress.notices_reading] at h
        exact hmembers notice h
      · exact ⟨subject, cause, hdrop⟩
    · exact ⟨_, cause, rfl⟩

end Node

/-- A document gives notice of syntax errors, and then of what the walk over its tree drops. -/
theorem Document.notices_entities (document : Document) (imports : Bool) (path : Option String) :
    (document.entities imports path).notices =
      document.syntaxNotices path ++ (document.root.outline ⟨imports, false⟩).notices := rfl

end WordGrid
