import Mathlib.Data.List.Forall2
import WordGrid.Outline.Reading

/-!
# Results of computations that may fail

Every part of a declaration is read by a computation that gives a value or a failure. This module
takes such computations apart: `bind_eq_ok` and `bind_eq_error` for two in a row, `mapM_eq_ok_iff`
and `mapM_eq_error` for one per item of a list. The result of a `Reading` obeys the same laws, and
what a `Progress` has collected is told by its entities and its abort.
-/

namespace WordGrid

section Except

variable {α β ε : Type}

/-- Two computations in a row succeed when both do. -/
theorem bind_eq_ok {first : Except ε α} {next : α → Except ε β} {value : β} :
    (first >>= next) = .ok value ↔ ∃ middle, first = .ok middle ∧ next middle = .ok value := by
  cases first with
  | error failure => simp [bind, Except.bind]
  | ok middle => simp [bind, Except.bind]

/-- Two computations in a row fail where the first one does, or else where the second does. -/
theorem bind_eq_error {first : Except ε α} {next : α → Except ε β} {failure : ε} :
    (first >>= next) = .error failure ↔
      first = .error failure ∨ ∃ middle, first = .ok middle ∧ next middle = .error failure := by
  cases first with
  | error other => simp [bind, Except.bind]
  | ok middle => simp [bind, Except.bind]

/-- A computation that changes the value of another one fails where that one does. -/
theorem map_eq_error {change : α → β} {result : Except ε α} {failure : ε} :
    result.map change = .error failure ↔ result = .error failure := by
  cases result <;> simp [Except.map]

/-- A computation that changes the value of another one succeeds where that one does. -/
theorem map_eq_ok {change : α → β} {result : Except ε α} {value : β} :
    result.map change = .ok value ↔ ∃ middle, result = .ok middle ∧ change middle = value := by
  cases result <;> simp [Except.map]

/-- A list is read when each of its items is. -/
theorem mapM_eq_ok_iff {f : α → Except ε β} {items : List α} {values : List β} :
    items.mapM f = .ok values ↔
      List.Forall₂ (fun item value => f item = .ok value) items values := by
  induction items generalizing values with
  | nil => cases values <;> simp [pure, Except.pure]
  | cons first rest ih =>
      rw [List.mapM_cons, bind_eq_ok, List.forall₂_cons_left_iff]
      constructor
      · rintro ⟨value, hfirst, hrest⟩
        obtain ⟨tail, htail, hvalues⟩ := bind_eq_ok.mp hrest
        exact ⟨value, tail, hfirst, ih.mp htail, (Except.ok.inj hvalues).symm⟩
      · rintro ⟨value, tail, hfirst, htail, rfl⟩
        exact ⟨value, hfirst, bind_eq_ok.mpr ⟨tail, ih.mpr htail, rfl⟩⟩

/-- A list is read when what each of its items gives is a value. -/
theorem mapM_eq_ok_iff_map {f : α → Except ε β} {items : List α} {values : List β} :
    items.mapM f = .ok values ↔ items.map f = values.map .ok := by
  rw [mapM_eq_ok_iff, ← List.forall₂_eq_eq_eq, List.forall₂_map_left_iff,
    List.forall₂_map_right_iff]

/-- As many values are read as there are items. -/
theorem length_of_mapM_eq_ok {f : α → Except ε β} {items : List α} {values : List β}
    (h : items.mapM f = .ok values) : values.length = items.length :=
  (mapM_eq_ok_iff.mp h).length_eq.symm

/-- Some value is read for a list with some item. -/
theorem mapM_ne_nil {f : α → Except ε β} {items : List α} (h : items ≠ []) :
    items.mapM f ≠ .ok [] := by
  intro hnil
  exact h (List.eq_nil_of_length_eq_zero (length_of_mapM_eq_ok hnil).symm)

/-- A list is read when every item can be read, and its values have what each of them has. -/
theorem mapM_total_forall {f : α → Except ε β} {property : β → Prop} {items : List α}
    (h : ∀ item ∈ items, ∃ value, f item = .ok value ∧ property value) :
    ∃ values, items.mapM f = .ok values ∧ ∀ value ∈ values, property value := by
  induction items with
  | nil => exact ⟨[], rfl, by simp⟩
  | cons first rest ih =>
      obtain ⟨value, hvalue, hproperty⟩ := h first List.mem_cons_self
      obtain ⟨values, hvalues, hall⟩ := ih fun item hmem => h item (List.mem_cons_of_mem _ hmem)
      refine ⟨value :: values, ?_, List.forall_mem_cons.mpr ⟨hproperty, hall⟩⟩
      rw [mapM_eq_ok_iff] at hvalues ⊢
      exact .cons hvalue hvalues

/-- A list is read when every item can be read. -/
theorem mapM_total {f : α → Except ε β} {items : List α}
    (h : ∀ item ∈ items, ∃ value, f item = .ok value) : ∃ values, items.mapM f = .ok values := by
  have hvalue (item : α) (hmem : item ∈ items) : ∃ value, f item = .ok value ∧ True := by
    simpa using h item hmem
  obtain ⟨values, hvalues, -⟩ := mapM_total_forall hvalue
  exact ⟨values, hvalues⟩

/-- A value that is read for a list is read for one of its items. -/
theorem exists_of_mem_mapM {f : α → Except ε β} {items : List α} {values : List β} {value : β}
    (h : items.mapM f = .ok values) (hmem : value ∈ values) :
    ∃ item ∈ items, f item = .ok value := by
  have hvalue : Except.ok value ∈ items.map f := by
    rw [mapM_eq_ok_iff_map.mp h]
    exact List.mem_map_of_mem hmem
  exact List.mem_map.mp hvalue

/-- A list that cannot be read has an item that cannot be read, for the same reason. -/
theorem mapM_eq_error {f : α → Except ε β} {items : List α} {failure : ε}
    (h : items.mapM f = .error failure) : ∃ item ∈ items, f item = .error failure := by
  induction items with
  | nil => simp [pure, Except.pure] at h
  | cons first rest ih =>
      rw [List.mapM_cons] at h
      obtain hfirst | ⟨value, _, hrest⟩ := bind_eq_error.mp h
      · exact ⟨first, List.mem_cons_self, hfirst⟩
      · obtain hrest | ⟨tail, _, hpure⟩ := bind_eq_error.mp hrest
        · obtain ⟨item, hmem, hitem⟩ := ih hrest
          exact ⟨item, List.mem_cons_of_mem _ hmem, hitem⟩
        · simp [pure, Except.pure] at hpure

/-- A reader that changes the values of another one changes the values of a list. -/
theorem mapM_eq_map {γ : Type} {f : α → Except ε γ} {g : α → Except ε β} {change : β → γ}
    (h : ∀ item, f item = (g item).map change) (items : List α) :
    items.mapM f = (items.mapM g).map (List.map change) := by
  induction items with
  | nil => rfl
  | cons first rest ih =>
      rw [List.mapM_cons, List.mapM_cons, h first, ih]
      cases g first with
      | error failure => rfl
      | ok value => cases rest.mapM g <;> rfl

/-- Readers that agree on the members of a list read the list alike. -/
theorem mapM_congr_of_mem {f g : α → Except ε β} {items : List α}
    (h : ∀ item ∈ items, f item = g item) : items.mapM f = items.mapM g := by
  induction items with
  | nil => rfl
  | cons first rest ih =>
      rw [List.mapM_cons, List.mapM_cons, h first List.mem_cons_self,
        ih fun item hmem => h item (List.mem_cons_of_mem _ hmem)]

end Except

namespace Reading

variable {α β : Type}

@[simp]
theorem result_ofResult (result : Except Failure α) : (ofResult result).result = result := rfl

/-- The result of two readings in a row is that of their results in a row. -/
@[simp]
theorem result_bind (reading : Reading α) (next : α → Reading β) :
    (reading >>= next).result = reading.result >>= fun value => (next value).result := by
  obtain ⟨notices, result⟩ := reading
  cases result <;> rfl

end Reading

namespace Progress

/-- A reading of what a walk has collected gives the entities, or the failure that ended it. -/
theorem result_reading (progress : Progress) :
    progress.reading.result =
      match progress.abort with
      | none => .ok progress.entities
      | some failure => .error failure := by
  obtain ⟨entities, notices, abort⟩ := progress
  cases abort <;> rfl

theorem reading_eq_ok {progress : Progress} {entities : List Entity} :
    progress.reading.result = .ok entities ↔
      progress.abort = none ∧ progress.entities = entities := by
  rw [result_reading]
  cases progress.abort <;> simp

theorem reading_eq_error {progress : Progress} {failure : Failure} :
    progress.reading.result = .error failure ↔ progress.abort = some failure := by
  rw [result_reading]
  cases progress.abort <;> simp

/-- Two walks in a row are ended by what ends one of them. -/
theorem abort_append {first second : Progress} {failure : Failure}
    (h : (first.append second).abort = some failure) :
    first.abort = some failure ∨ second.abort = some failure := by
  unfold append at h
  split at h
  · exact .inr h
  · exact .inl h

/-- Two walks in a row collect nothing that neither of them collects. -/
theorem mem_entities_append {first second : Progress} {entity : Entity}
    (h : entity ∈ (first.append second).entities) :
    entity ∈ first.entities ∨ entity ∈ second.entities := by
  unfold append at h
  split at h
  · exact List.mem_append.mp h
  · exact .inl h

/-- Walks in a row are ended by what ends one of them. -/
theorem abort_concat {walks : List Progress} {failure : Failure}
    (h : (concat walks).abort = some failure) : ∃ walk ∈ walks, walk.abort = some failure := by
  induction walks with
  | nil => simp [concat, empty] at h
  | cons first rest ih =>
      obtain hfirst | hrest := abort_append h
      · exact ⟨first, List.mem_cons_self, hfirst⟩
      · obtain ⟨walk, hmem, hwalk⟩ := ih hrest
        exact ⟨walk, List.mem_cons_of_mem _ hmem, hwalk⟩

/-- Walks in a row collect nothing that none of them collects. -/
theorem mem_entities_concat {walks : List Progress} {entity : Entity}
    (h : entity ∈ (concat walks).entities) : ∃ walk ∈ walks, entity ∈ walk.entities := by
  induction walks with
  | nil => simp [concat, empty] at h
  | cons first rest ih =>
      obtain hfirst | hrest := mem_entities_append h
      · exact ⟨first, List.mem_cons_self, hfirst⟩
      · obtain ⟨walk, hmem, hwalk⟩ := ih hrest
        exact ⟨walk, List.mem_cons_of_mem _ hmem, hwalk⟩

/-- An attempt is ended only by a failure that is no drop. -/
theorem abort_attempt {subject : Attempt} {reading : Reading (List Entity)} {failure : Failure}
    (h : (attempt subject reading).abort = some failure) :
    reading.result = .error failure ∧ ∀ cause, failure ≠ .drop cause := by
  unfold attempt at h
  split at h
  · simp at h
  · simp at h
  · next other hnot heq =>
    obtain rfl := Option.some.inj h
    exact ⟨heq, hnot⟩

/-- An attempt collects what its reading gives. -/
theorem mem_entities_attempt {subject : Attempt} {reading : Reading (List Entity)} {entity : Entity}
    (h : entity ∈ (attempt subject reading).entities) :
    ∃ entities, reading.result = .ok entities ∧ entity ∈ entities := by
  unfold attempt at h
  split at h
  · next entities heq => exact ⟨entities, heq, h⟩
  · simp at h
  · simp at h

end Progress

end WordGrid
