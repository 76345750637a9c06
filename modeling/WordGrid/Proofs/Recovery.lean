import WordGrid.Proofs.EntityShape
import WordGrid.Proofs.Failures
import WordGrid.Settings.Basic

/-!
# Recovery

A tree need not be a legal parse of its source, and most of what is wrong with it costs one
declaration only. Laying out an entity fails only for an extension among its members, and
well-formed entities have none there, so a document gives a grid unless its walk is ended; and all
that ends a walk is a type without a name (`Document.grid_or_nameless`). The text of such a name is
empty, so some node of the tree covers no byte of the source.
-/

namespace WordGrid

/-! ## Laying out -/

namespace Entity

/-- Every entity but an extension has a header. -/
theorem header_total {entity : Entity} (h : entity.kind ≠ .extension) :
    ∃ row, entity.header = .ok row := by
  unfold header
  cases hkind : entity.kind with
  | extension => exact absurd hkind h
  | _ => exact ⟨_, rfl⟩

/-- Every entity has an opening row, since an extension is opened without a header. -/
theorem opening_total (entity : Entity) : ∃ parts, entity.opening = .ok parts := by
  unfold opening
  split
  · exact ⟨_, rfl⟩
  · next hextension =>
    obtain ⟨header, hrow⟩ := header_total (by simpa [isExtension] using hextension)
    exact ⟨_, bind_eq_ok.mpr ⟨header, hrow, rfl⟩⟩

/-- An entity can be laid out with its members in one row. -/
theorem flat_total (entity : Entity) : ∃ grid, entity.flat = .ok grid := by
  unfold flat
  split
  · exact ⟨_, rfl⟩
  · next hextension =>
    obtain ⟨header, hrow⟩ := header_total (by simpa [isExtension] using hextension)
    exact ⟨_, bind_eq_ok.mpr ⟨header, hrow, rfl⟩⟩

/-- An entity without members is laid out as with its members in one row. -/
theorem hierarchical_of_no_members {entity : Entity} (h : entity.children = []) :
    entity.hierarchical = entity.flat.map (· ++ [[]]) := by
  rw [hierarchical, if_pos (by simp [h])]
  split
  · cases entity.flat <;> rfl
  · next hextension =>
    simp only [flat, hextension, predicateAndMemberRows, membersRow?, h]
    cases entity.header with
    | error failure => rfl
    | ok header => simp [bind, Except.bind, pure, Except.pure, Except.map]

/-- An entity with members is laid out as its draft without the fillers at the end. -/
theorem hierarchical_eq_draft {entity : Entity} (h : entity.children ≠ []) :
    entity.hierarchical = entity.draft.map (Grid.collapseFillers · ++ [[]]) := by
  rw [hierarchical, if_neg (by simpa using h)]
  cases entity.draft <;> rfl

/-- An entity can be laid out if none of its members is an extension. -/
theorem hierarchical_total {entity : Entity}
    (h : ∀ child ∈ entity.children, child.kind ≠ .extension) :
    ∃ grid, entity.hierarchical = .ok grid := by
  have hmembers : ∃ blocks, entity.children.mapM memberRows = .ok blocks := by
    refine mapM_total fun child hmem => ?_
    obtain ⟨header, hrow⟩ := header_total (h child hmem)
    exact ⟨_, bind_eq_ok.mpr ⟨header, hrow, rfl⟩⟩
  by_cases hchildren : entity.children = []
  · obtain ⟨rows, hrows⟩ := entity.flat_total
    exact ⟨_, (hierarchical_of_no_members hchildren).trans (map_eq_ok.mpr ⟨rows, hrows, rfl⟩)⟩
  · obtain ⟨parts, hparts⟩ := entity.opening_total
    obtain ⟨blocks, hblocks⟩ := hmembers
    obtain ⟨rows, hrows⟩ : ∃ rows, entity.draft = .ok rows :=
      ⟨_, bind_eq_ok.mpr ⟨parts, hparts, bind_eq_ok.mpr ⟨blocks, hblocks, rfl⟩⟩⟩
    exact ⟨_, (hierarchical_eq_draft hchildren).trans (map_eq_ok.mpr ⟨rows, hrows, rfl⟩)⟩

/-- No member of a well-formed entity is an extension. -/
theorem WellFormed.child_kind {root : Node} {nested : Bool} {entity child : Entity}
    (h : entity.WellFormed root nested) (hmem : child ∈ entity.children) :
    child.kind ≠ .extension := by
  intro hkind
  cases h with
  | intro _ hchildren =>
      cases hchildren child hmem with
      | intro hfits _ => exact absurd (hfits.extension_top hkind) (by simp)

end Entity

/-- Well-formed entities can be laid out as a grid. -/
theorem Grid.ofEntities_total {root : Node} {entities : List Entity} {nested : Bool} (banner : Bool)
    (h : ∀ entity ∈ entities, entity.WellFormed root nested) :
    ∃ grid, Grid.ofEntities entities banner = .ok grid := by
  obtain ⟨blocks, hblocks⟩ : ∃ blocks, entities.mapM Entity.hierarchical = .ok blocks :=
    mapM_total fun entity hmem =>
      Entity.hierarchical_total fun child hchild => (h entity hmem).child_kind hchild
  have hstacked : Grid.stacked entities = .ok ([] :: blocks.flatten) :=
    bind_eq_ok.mpr ⟨blocks, hblocks, rfl⟩
  exact ⟨_, bind_eq_ok.mpr ⟨_, hstacked, rfl⟩⟩

/-! ## Texts -/

namespace Utf8

/-- A byte read between characters completes one or begins one. -/
theorem lead_progress (byte : UInt8) : (lead byte).1 ≠ [] ∨ (lead byte).2 ≠ .start := by
  generalize hlead : lead byte = result
  simp only [lead] at hlead
  repeat' split at hlead
  all_goals subst hlead; simp

/-- A byte read anywhere completes a character or leaves one unfinished. -/
theorem step_progress (state : State) (byte : UInt8) :
    (step state byte).1 ≠ [] ∨ (step state byte).2 ≠ .start := by
  cases state with
  | start => exact lead_progress byte
  | inside owed low high value =>
      unfold step
      simp only
      split
      · cases owed <;> simp
      · simp

/-- Decoding gives no character only when there is nothing to decode. -/
theorem decodeFrom_eq_nil {state : State} {bytes : List UInt8}
    (h : decodeFrom state bytes = []) : state = .start ∧ bytes = [] := by
  induction bytes generalizing state with
  | nil =>
      cases state with
      | start => exact ⟨rfl, rfl⟩
      | inside => simp [decodeFrom] at h
  | cons byte rest ih =>
      rw [decodeFrom] at h
      obtain ⟨hchars, hrest⟩ := List.append_eq_nil_iff.mp h
      have hstart := (ih hrest).1
      rcases step_progress state byte with hmore | hinside
      · exact absurd hchars hmore
      · exact absurd hstart hinside

/-- Only no bytes at all have an empty text. -/
theorem decode_eq_empty {bytes : List UInt8} (h : decode bytes = "") : bytes = [] := by
  have hchars : decodeFrom .start bytes = [] := by
    simpa [decode] using h
  exact (decodeFrom_eq_nil hchars).2

end Utf8

namespace Node

/-- A node inside a tree with other labels was inside the tree before. -/
theorem Inside.of_relabel {change : Label → Label} {node root : Node}
    (h : node.Inside (root.relabel change)) :
    ∃ origin : Node, origin.Inside root ∧ node = origin.relabel change := by
  generalize htree : root.relabel change = tree at h
  induction h with
  | self => exact ⟨root, .self root, htree.symm⟩
  | child hmem _ ih =>
      obtain ⟨⟨label, children⟩, hinside, rfl⟩ := ih htree
      simp only [relabel, relabelAll_eq_map] at hmem
      obtain ⟨origin, horigin, rfl⟩ := List.mem_map.mp hmem
      exact ⟨origin, .child horigin hinside, rfl⟩

end Node

/-! ## Documents -/

namespace Document

/-- A node of an annotated tree has an empty text when it covers no byte of the source. -/
theorem text_eq_empty_iff {document : Document} {node : Node} (h : node.Inside document.root) :
    node.text = "" ↔ document.source.slice node.span = [] := by
  obtain ⟨⟨label, children⟩, _, rfl⟩ := h.of_relabel
  constructor
  · exact Utf8.decode_eq_empty
  · intro hslice
    show Utf8.decode (document.source.slice label.span) = ""
    rw [show document.source.slice label.span = [] from hslice]
    rfl

/-- A node without text covers no byte in the tree as it was parsed. -/
theorem silent_of_empty_text {document : Document} {node : Node}
    (hinside : node.Inside document.root) (htext : node.text = "") :
    ∃ origin : Node, origin.Inside document.tree ∧ document.source.slice origin.span = [] := by
  have hslice := (text_eq_empty_iff hinside).mp htext
  obtain ⟨⟨label, children⟩, horigin, rfl⟩ := hinside.of_relabel
  exact ⟨_, horigin, hslice⟩

/-- A document gives a grid under all settings, unless it has a type without a name, and then some
node of its tree covers no byte of its source. -/
theorem grid_or_nameless (document : Document) (settings : Settings) (path : Option String) :
    (∃ grid, (document.grid settings.includeImports settings.banner path).result = .ok grid) ∨
      ((document.grid settings.includeImports settings.banner path).result =
          .error (.shape .nameless) ∧
        (Failure.shape .nameless).message = ": Value error, named types need a name" ∧
        ∃ node : Node, node.Inside document.tree ∧ document.source.slice node.span = []) := by
  have hgrid : (document.grid settings.includeImports settings.banner path).result =
      (document.root.walk ⟨settings.includeImports, false⟩).reading.result >>= fun entities =>
        (Grid.ofEntities entities settings.banner).mapError .layout := by
    rw [grid, Reading.result_bind, result_entities]
    rfl
  rw [hgrid]
  cases habort : (document.root.walk ⟨settings.includeImports, false⟩).abort with
  | none =>
      obtain ⟨grid, hlayout⟩ := Grid.ofEntities_total settings.banner
        (Node.walk_wellFormed ⟨settings.includeImports, false⟩ document.root)
      refine .inl ⟨grid, bind_eq_ok.mpr ⟨_, Progress.reading_eq_ok.mpr ⟨habort, rfl⟩, ?_⟩⟩
      rw [hlayout]
      rfl
  | some failure =>
      -- The walk ended before anything was laid out.
      obtain ⟨rfl, node, hinside, htext⟩ :=
        (Node.walk_abortsIn ⟨settings.includeImports, false⟩ document.root).nameless habort
      refine .inr ⟨bind_eq_error.mpr (.inl (Progress.reading_eq_error.mpr habort)), rfl, ?_⟩
      exact silent_of_empty_text hinside htext

end Document

end WordGrid
