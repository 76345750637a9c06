import WordGrid.Command.Run
import WordGrid.Proofs.Coverage
import WordGrid.Proofs.FillerSuffix
import WordGrid.Proofs.LastMember
import WordGrid.Proofs.Relabelling

/-!
# What there is to draw

The command draws a grid unless it has no cell at all. Every entity leaves a cell in its rows but an
extension that adds neither members nor a conformance, and neither blanking fillers nor the banner
changes that. So just the documents that have nothing but such extensions are refused, and the
picture of any other document has a positive size. Read `Document.refused_iff_invisible` first.
-/

namespace WordGrid

/-! ## Grids without a cell -/

namespace Grid

variable {grid : Grid}

theorem isBlank_iff : grid.isBlank ↔ ∀ row ∈ grid, row = [] := by
  simp [isBlank]

theorem isBlank_append {first second : Grid} :
    Grid.isBlank (first ++ second) ↔ first.isBlank ∧ second.isBlank := by
  simp only [isBlank_iff, List.forall_mem_append]

theorem not_isBlank_of_mem {row : Row} (hmem : row ∈ grid) (hne : row ≠ []) : ¬ grid.isBlank :=
  fun h => hne (isBlank_iff.mp h row hmem)

/-- A grid without a cell is one without a column. -/
theorem isBlank_iff_width : grid.isBlank ↔ grid.width = 0 := by
  rw [isBlank_iff, ← Nat.le_zero, width_le_iff]
  simp only [Nat.le_zero, List.length_eq_zero_iff]

/-- The banner is only written where there are cells. -/
theorem isBlank_withBanner : grid.withBanner.isBlank ↔ grid.isBlank := by
  by_cases hroom : grid.hasRoomForBanner
  · rw [isBlank_iff_width, isBlank_iff_width, width_withBanner hroom]
  · rw [withBanner_of_no_room hroom]

/-- A grid with a cell has a row and a column, so its squares take up some room. -/
theorem area_pos (h : ¬ grid.isBlank) (settings : Settings) :
    0 < settings.cellSize * grid.width ∧ 0 < settings.cellSize * grid.length := by
  have hwidth : 0 < grid.width :=
    Nat.pos_of_ne_zero fun hzero => h (isBlank_iff_width.mpr hzero)
  have hlength : 0 < grid.length := by
    refine List.length_pos_iff.mpr fun hnil => h ?_
    rw [hnil]
    rfl
  exact ⟨Nat.mul_pos settings.cellSize_pos hwidth, Nat.mul_pos settings.cellSize_pos hlength⟩

/-- The row that opens a list of members is no filler, so it is there when the fillers are
blanked. -/
theorem not_isBlank_collapseFillers (first : Row) (rest : Grid) :
    ¬ Grid.isBlank (collapseFillers (first :: [Cell.hasWord] :: rest)) := by
  have hrows := forall₂_length_collapseFillers (first :: [Cell.hasWord] :: rest)
  generalize collapseFillers (first :: [Cell.hasWord] :: rest) = rows at hrows
  cases hrows with
  | cons _ hrest =>
      cases hrest with
      | @cons _ opening _ _ hopening _ =>
          have hlength : opening.length = 1 := hopening (by decide)
          have hne : opening ≠ [] := List.ne_nil_of_length_pos (by omega)
          exact not_isBlank_of_mem (List.mem_cons_of_mem _ List.mem_cons_self) hne

end Grid

/-! ## Entities without a cell -/

namespace Entity

/-- Nothing of the entity is shown: it is an extension without members that does not say what it
inherits. -/
def IsInvisible (entity : Entity) : Prop :=
  entity.kind = .extension ∧ entity.children = [] ∧
    ∀ predicate ∈ entity.predicates, predicate.name ≠ "ISA"

/-- An extension has no descriptors, so its rows are those of its predicates. -/
theorem FitsKind.predicateRows_of_extension {entity : Entity} {root : Node} {nested : Bool}
    (h : entity.FitsKind root nested) (hkind : entity.kind = .extension) :
    entity.predicateRows = entity.predicates.map fun predicate =>
      entity.nameCell :: predicate.cells := by
  obtain ⟨-, hdescriptors, -⟩ := h.extension_bare hkind
  simp [predicateRows, hdescriptors]

/-- An extension has no predicate, or one that says what it inherits. -/
theorem FitsKind.predicates_of_extension {entity : Entity} {root : Node} {nested : Bool}
    (h : entity.FitsKind root nested) (hkind : entity.kind = .extension) :
    entity.predicates = [] ∨ ∃ predicate, entity.predicates = [predicate] ∧
      predicate.name = "ISA" := by
  have hwords := h.words
  rw [hkind] at hwords
  rcases hwords with hnone | hone
  · exact .inl (List.map_eq_nil_iff.mp hnone)
  · obtain ⟨predicate, hpredicate, hname⟩ := List.map_eq_singleton_iff.mp hone
    exact .inr ⟨predicate, hpredicate, hname⟩

/-- The rows of an extension without members have no cell when it does not say what it inherits. -/
theorem isBlank_extension_iff {entity : Entity} {root : Node} {nested : Bool}
    (h : entity.FitsKind root nested) (hkind : entity.kind = .extension)
    (hchildren : entity.children = []) :
    Grid.isBlank (entity.predicateAndMemberRows.intersperse [] ++ [[]]) ↔ entity.IsInvisible := by
  have hrows : entity.predicateAndMemberRows = entity.predicateRows := by
    simp [predicateAndMemberRows, membersRow?, hchildren]
  rw [hrows, h.predicateRows_of_extension hkind]
  rcases h.predicates_of_extension hkind with hnone | ⟨predicate, hone, hname⟩
  · rw [hnone]
    exact iff_of_true rfl ⟨hkind, hchildren, by simp [hnone]⟩
  · rw [hone]
    refine iff_of_false ?_ fun hinvisible => ?_
    · exact Grid.not_isBlank_of_mem List.mem_cons_self (List.cons_ne_nil _ _)
    · exact hinvisible.2.2 predicate (by simp [hone]) hname

/-- A header has cells. -/
theorem header_ne_nil {entity : Entity} {row : Row} (h : entity.header = .ok row) : row ≠ [] := by
  unfold header at h
  split at h
  · obtain rfl := Except.ok.inj h
    exact List.cons_ne_nil _ _
  · cases h

/-- The rows of an entity have a cell unless the entity is invisible. -/
theorem isBlank_hierarchical_iff {entity : Entity} {root : Node} {nested : Bool} {rows : Grid}
    (hfits : entity.FitsKind root nested) (h : entity.hierarchical = .ok rows) :
    rows.isBlank ↔ entity.IsInvisible := by
  by_cases hchildren : entity.children = []
  · rw [hierarchical_of_no_members hchildren] at h
    obtain ⟨inner, hinner, rfl⟩ := map_eq_ok.mp h
    by_cases hkind : entity.kind = .extension
    · rw [flat, if_pos (by simp [isExtension, hkind])] at hinner
      obtain rfl := Except.ok.inj hinner
      exact isBlank_extension_iff hfits hkind hchildren
    · rw [flat, if_neg (by simpa [isExtension] using hkind)] at hinner
      obtain ⟨header, hheader, hrows⟩ := bind_eq_ok.mp hinner
      obtain rfl := Except.ok.inj hrows
      refine iff_of_false ?_ fun hinvisible => hkind hinvisible.1
      exact Grid.not_isBlank_of_mem List.mem_cons_self (header_ne_nil hheader)
  · rw [hierarchical_eq_draft hchildren] at h
    obtain ⟨draft, hdraft, rfl⟩ := map_eq_ok.mp h
    obtain ⟨⟨first, rest⟩, -, hdraft⟩ := bind_eq_ok.mp hdraft
    obtain ⟨members, -, hdraft⟩ := bind_eq_ok.mp hdraft
    obtain rfl := Except.ok.inj hdraft
    refine iff_of_false ?_ fun hinvisible => hchildren hinvisible.2.1
    rw [Grid.isBlank_append]
    exact fun hblank => Grid.not_isBlank_collapseFillers first _ hblank.1

end Entity

/-! ## The sheet of a file -/

namespace Grid

/-- The rows of well-formed entities have a cell unless all entities are invisible. -/
theorem isBlank_blocks_iff {root : Node} {entities : List Entity} {blocks : List Grid}
    (hwell : ∀ entity ∈ entities, entity.WellFormed root false)
    (h : List.Forall₂ (fun entity block => entity.hierarchical = .ok block) entities blocks) :
    Grid.isBlank blocks.flatten ↔ ∀ entity ∈ entities, entity.IsInvisible := by
  induction h with
  | nil => simp [isBlank]
  | cons hblock _ ih =>
      obtain ⟨hfirst, hrest⟩ := List.forall_mem_cons.mp hwell
      cases hfirst with
      | intro hfits _ =>
          rw [List.flatten_cons, isBlank_append, Entity.isBlank_hierarchical_iff hfits hblock,
            ih hrest, List.forall_mem_cons]

/-- The sheet of well-formed entities, with or without a banner, has a cell unless all entities are
invisible. -/
theorem isBlank_ofEntities_iff {root : Node} {entities : List Entity} {banner : Bool} {grid : Grid}
    (hwell : ∀ entity ∈ entities, entity.WellFormed root false)
    (h : Grid.ofEntities entities banner = .ok grid) :
    grid.isBlank ↔ ∀ entity ∈ entities, entity.IsInvisible := by
  obtain ⟨sheet, hsheet, hgrid⟩ := bind_eq_ok.mp h
  obtain ⟨blocks, hblocks, hrows⟩ := bind_eq_ok.mp hsheet
  obtain rfl := Except.ok.inj hrows
  obtain rfl := Except.ok.inj hgrid
  rw [← isBlank_blocks_iff hwell (mapM_eq_ok_iff.mp hblocks)]
  -- The blank row on top has no cell.
  have htop : Grid.isBlank ([] :: blocks.flatten) ↔ Grid.isBlank blocks.flatten := by
    simp [isBlank]
  cases banner with
  | true => exact isBlank_withBanner.trans htop
  | false => exact htop

end Grid

/-! ## The command -/

namespace Summary

variable {summary : Summary} {output : String} {files : FileLookup} {available : Available}

/-- What goes wrong with drawing is never that there is nothing to draw. -/
theorem draw_error_ne (source : String) :
    (summary.draw files available output).error ≠ some (.nothingToDraw source) := by
  unfold draw
  dsimp only
  cases (summary.grid.paint summary.settings available .empty).1 with
  | error error => simp [Effect.stop]
  | ok picture =>
      cases WriteError.check files (Path.normal output) with
      | error error => simp [Effect.stop]
      | ok _ => simp

/-- The command refuses to draw a grid without a cell, and no other. -/
theorem refuses_iff (houtput : summary.request.output = some output) :
    (summary.present files available).error =
        some (.nothingToDraw (Path.normal summary.request.source)) ↔ summary.grid.isBlank := by
  simp only [present, houtput]
  by_cases hblank : summary.grid.isBlank
  · rw [if_pos hblank]
    exact iff_of_true rfl hblank
  · rw [if_neg hblank]
    exact iff_of_false (draw_error_ne _) hblank

/-- A picture is only written of a grid with a cell, and it is the one that was painted. -/
theorem paint_of_present {path : String} {picture : Picture}
    (h : (summary.present files available).picture = some (path, picture)) :
    ¬ summary.grid.isBlank ∧
      (summary.grid.paint summary.settings available .empty).1 = .ok picture := by
  unfold present at h
  split at h
  · cases h
  · split at h
    · cases h
    · next hblank =>
      refine ⟨hblank, ?_⟩
      unfold draw at h
      dsimp only at h
      cases hpaint : (summary.grid.paint summary.settings available .empty).1 with
      | error error =>
          rw [hpaint] at h
          cases h
      | ok drawn =>
          rw [hpaint] at h
          dsimp only at h
          split at h
          · cases h
          · obtain ⟨-, rfl⟩ := Prod.mk.inj (Option.some.inj h)
            rfl

end Summary

namespace Document

/-- The entities of a document are well formed, and its grid is their sheet. -/
theorem entities_of_grid {document : Document} {imports banner : Bool} {path : Option String}
    {grid : Grid} (h : (document.grid imports banner path).result = .ok grid) :
    ∃ entities, (document.entities imports path).result = .ok entities ∧
      (∀ entity ∈ entities, entity.WellFormed document.root false) ∧
      Grid.ofEntities entities banner = .ok grid := by
  rw [Document.grid, Reading.result_bind] at h
  obtain ⟨entities, hentities, h⟩ := bind_eq_ok.mp h
  refine ⟨entities, hentities, ?_, ?_⟩
  · rw [result_entities, Node.outline, Progress.reading_eq_ok] at hentities
    obtain ⟨-, rfl⟩ := hentities
    exact Node.walk_wellFormed ⟨imports, false⟩ document.root
  · exact mapError_eq_ok.mp h

/-- The grid of a document has no cell, and the command refuses to draw it, if and only if every
entity of the document is an extension without members that does not say what it inherits. The
picture of any other document has a positive size, and so has every picture that the command
writes. -/
theorem refused_iff_invisible (document : Document) (imports banner : Bool) (path : Option String)
    {grid : Grid} (h : (document.grid imports banner path).result = .ok grid) :
    ∃ entities, (document.entities imports path).result = .ok entities ∧
      (grid.isBlank ↔ ∀ entity ∈ entities, entity.IsInvisible) ∧
      (∀ (summary : Summary) (output : String) (files : FileLookup) (available : Available),
        summary.grid = grid → summary.request.output = some output →
          ((summary.present files available).error =
              some (.nothingToDraw (Path.normal summary.request.source)) ↔
            ∀ entity ∈ entities, entity.IsInvisible)) ∧
      (¬ grid.isBlank → ∀ settings : Settings,
        0 < settings.cellSize * grid.width ∧ 0 < settings.cellSize * grid.length ∧
          ∀ (available : Available) (shelf : Shelf) (picture : Picture),
            (grid.paint settings available shelf).1 = .ok picture →
              0 < picture.width ∧ 0 < picture.height) ∧
      ∀ (summary : Summary) (files : FileLookup) (available : Available) (output : String)
        (picture : Picture), summary.grid = grid →
          (summary.present files available).picture = some (output, picture) →
            picture.width = summary.settings.cellSize * grid.width ∧ 0 < picture.width ∧
              picture.height = summary.settings.cellSize * grid.length ∧ 0 < picture.height := by
  obtain ⟨entities, hentities, hwell, hsheet⟩ := entities_of_grid h
  have hblank := Grid.isBlank_ofEntities_iff hwell hsheet
  refine ⟨entities, hentities, hblank, ?_, ?_, ?_⟩
  · rintro summary output files available rfl houtput
    exact (Summary.refuses_iff houtput).trans hblank
  · intro hcells settings
    obtain ⟨hwidth, hheight⟩ := Grid.area_pos hcells settings
    refine ⟨hwidth, hheight, fun available shelf picture hpicture => ?_⟩
    obtain ⟨hwide, hhigh, -⟩ := grid.shows_of_paint settings available shelf hpicture
    rw [hwide, hhigh]
    exact ⟨hwidth, hheight⟩
  · rintro summary files available output picture rfl hwritten
    obtain ⟨hcells, hpicture⟩ := Summary.paint_of_present hwritten
    obtain ⟨hwidth, hheight⟩ := Grid.area_pos hcells summary.settings
    obtain ⟨hwide, hhigh, -⟩ := summary.grid.shows_of_paint summary.settings available _ hpicture
    rw [hwide, hhigh]
    exact ⟨rfl, hwidth, rfl, hheight⟩

/-- An extension that adds nothing, with its tree. -/
def bareExtension : Document where
  source := .ofString "extension A\x7b\x7d"
  tree := .over "source_file" 0 13 [.over "class_declaration" 0 13 [
    .tokenOver "extension" 0 9,
    .over "user_type" 10 11 [.over "type_identifier" 10 11 []],
    .over "class_body" 11 13 [.tokenOver "\x7b" 11 12, .tokenOver "\x7d" 12 13]]]

/-- The rows of an extension with an initializer. -/
def rowsOfA : Grid :=
  [[], [⟨"A"⟩, Cell.blank, ⟨"A"⟩, ⟨"ISA"⟩, ⟨"B"⟩], [Cell.hasWord],
    [⟨"init(b:)"⟩, ⟨"IS"⟩, ⟨"INIT"⟩], [],
    [Cell.blank, Cell.blank, ⟨"init(b:)"⟩, ⟨"TAKES"⟩, ⟨"C"⟩], [], []]

/-- The bare extension leaves two rows without a cell and is refused, and the extension of `A` is
drawn on eight rows of five squares. -/
theorem refused_iff_invisible_extensions :
    (bareExtension.grid false true none).result = .ok [[], []] ∧
      (∀ (summary : Summary) (output : String) (files : FileLookup) (available : Available),
        summary.grid = [[], []] → summary.request.output = some output →
          (summary.present files available).error =
            some (.nothingToDraw (Path.normal summary.request.source))) ∧
      (extensionOfA.grid false true none).result = .ok rowsOfA ∧
      ∀ settings : Settings, 0 < settings.cellSize * 5 ∧ 0 < settings.cellSize * 8 := by
  have hbare : (bareExtension.grid false true none).result = .ok [[], []] := rfl
  have hrows : (extensionOfA.grid false true none).result = .ok rowsOfA := rfl
  obtain ⟨_, -, hblank, hrefused, -⟩ := refused_iff_invisible bareExtension false true none hbare
  obtain ⟨_, -, -, -, hsize, -⟩ := refused_iff_invisible extensionOfA false true none hrows
  refine ⟨hbare, ?_, hrows, ?_⟩
  · intro summary output files available hgrid houtput
    exact (hrefused summary output files available hgrid houtput).mpr (hblank.mp rfl)
  · intro settings
    obtain ⟨hwidth, hheight, -⟩ := hsize (by decide) settings
    exact ⟨hwidth, hheight⟩

end Document

end WordGrid
