import WordGrid.Layout.EntityRows
import WordGrid.Proofs.Joining

/-!
# Reading the rows of an entity back

The header of an entity says its name, its kind, and either its generic parameters and requirements
or its descriptors; a generic entity shows its descriptors in a row of their own. All of it stands
in one run of cells without brackets. `Requirement.join_inj` reads the requirements back, which are
joined like arguments and hold two types each, and `Predicate.cells_inj` reads a predicate back.
Read `Entity.rows_determine_entity` first: the header and the predicate rows show everything that an
entity says of itself.
-/

namespace WordGrid

/-! ## Requirements -/

/-- The two relations have different cells. -/
theorem Relation.cell_inj {left right : Relation} (h : left.cell = right.cell) : left = right := by
  revert h
  cases left <;> cases right <;> decide

namespace Requirement

/-- Are both sides of a requirement plain types, with arguments that end in one list at most? -/
def isPlain (requirement : Requirement) : Bool :=
  requirement.left.isPlain 1 && requirement.right.isPlain 1

/-- Are all requirements plain, and does the right side of all but the last end in one list at
most? The left side may end in any number of lists, since the relation follows it. -/
def arePlain : List Requirement → Bool
  | [] => true
  | [last] => last.isPlain
  | requirement :: next :: rest =>
      requirement.isPlain && requirement.right.trailingDepth ≤ 1 && arePlain (next :: rest)

/-- A plain list of requirements starts with a plain requirement. -/
theorem isPlain_of_arePlain {first : Requirement} {more : List Requirement}
    (h : arePlain (first :: more)) : first.isPlain := by
  cases more with
  | nil => exact h
  | cons next more =>
      simp only [arePlain, Bool.and_eq_true] at h
      exact h.1.1

/-- A relation is taken for more of no type. -/
theorem canFollow_relation (depth : Nat) (relation : Relation) (rest : Row) :
    Row.CanFollow depth (relation.cell :: rest) := by
  cases relation <;> exact ⟨by decide, fun h => absurd h (by decide)⟩

/-- A plain requirement is determined, with its end, by cells that start with it. -/
theorem cells_append_inj {left right : Requirement} {rest other : Row} (hleft : left.isPlain)
    (hright : right.isPlain) (hrest : Row.CanFollow left.right.trailingDepth rest)
    (hother : Row.CanFollow right.right.trailingDepth other)
    (h : left.cells ++ rest = right.cells ++ other) : left = right ∧ rest = other := by
  obtain ⟨leftType, leftRelation, leftBound⟩ := left
  obtain ⟨rightType, rightRelation, rightBound⟩ := right
  rw [isPlain, Bool.and_eq_true] at hleft hright
  have hcells : leftType.cells ++ leftRelation.cell :: (leftBound.cells ++ rest) =
      rightType.cells ++ rightRelation.cell :: (rightBound.cells ++ other) := by
    simpa [cells, phrase] using h
  obtain ⟨rfl, hafter⟩ := TypeExpr.cells_append_inj leftType hleft.1 hright.1
    (canFollow_relation _ _ _) (canFollow_relation _ _ _) hcells
  obtain ⟨hrelation, hbounds⟩ := List.cons.inj hafter
  obtain rfl := Relation.cell_inj hrelation
  obtain ⟨rfl, rfl⟩ :=
    TypeExpr.cells_append_inj leftBound hleft.2 hright.2 hrest hother hbounds
  exact ⟨rfl, rfl⟩

/-- The requirements after the first one, with the separator in front of them. -/
def afterFirst (first : Requirement) (more : List Requirement) : Row :=
  first.phrase.separator ++ Phrase.join (more.map phrase)

/-- The cells of two or more requirements. -/
theorem join_cons_cons (first next : Requirement) (more : List Requirement) :
    Phrase.join ((first :: next :: more).map phrase) =
      first.cells ++ afterFirst first (next :: more) := by
  simp [Phrase.join, afterFirst, cells]

/-- The cells of requirements start with the head of the first type. -/
theorem join_eq_headCell (first : Requirement) (more : List Requirement) :
    ∃ rest, Phrase.join ((first :: more).map phrase) = first.left.headCell :: rest := by
  obtain ⟨tail, hcells⟩ := first.left.cells_eq_headCell
  cases more with
  | nil => exact ⟨_, by simp [Phrase.join, phrase, hcells]; rfl⟩
  | cons next more => exact ⟨_, by rw [join_cons_cons, cells, phrase, hcells]; rfl⟩

/-- A right side within depth one can be followed by the next requirement. -/
theorem canFollow_afterFirst {first next : Requirement} {more : List Requirement}
    (hnext : next.isPlain) (hdepth : first.right.trailingDepth ≤ 1) :
    Row.CanFollow first.right.trailingDepth (afterFirst first (next :: more)) := by
  rw [isPlain, Bool.and_eq_true] at hnext
  obtain ⟨tail, hjoin⟩ := join_eq_headCell next more
  have hhead : next.left.headCell ≠ Cell.thenWord := TypeExpr.headCell_ne hnext.1 (by decide)
  have hof : Cell.andWord ≠ Cell.ofWord := by decide
  have hseparator : first.phrase.separator = first.right.phrase.separator := rfl
  rw [afterFirst, hjoin, hseparator, TypeExpr.separator_eq]
  split
  · simp [Row.CanFollow, hof, hdepth]
  · have hzero : first.right.trailingDepth = 0 := by omega
    simp [Row.CanFollow, hof, hhead, hzero]

/-- The separator between two requirements is not empty. -/
theorem afterFirst_ne_nil (first : Requirement) (more : List Requirement) :
    afterFirst first more ≠ [] := by
  unfold afterFirst Phrase.separator
  split <;> simp

/-- Plain requirements are determined by their joined cells. -/
theorem join_inj {left right : List Requirement} (hleft : arePlain left) (hright : arePlain right)
    (h : Phrase.join (left.map phrase) = Phrase.join (right.map phrase)) : left = right := by
  have hempty {first : Requirement} {more : List Requirement} :
      Phrase.join ((first :: more).map phrase) ≠ [] := by
    obtain ⟨tail, hjoin⟩ := join_eq_headCell first more
    rw [hjoin]
    exact List.cons_ne_nil _ _
  have hend (depth : Nat) : Row.CanFollow depth [] := trivial
  have hlast (last : Requirement) : Phrase.join ([last].map phrase) = last.cells ++ [] :=
    (List.append_nil _).symm
  induction left generalizing right with
  | nil =>
      cases right with
      | nil => rfl
      | cons first more => exact absurd h.symm hempty
  | cons first more ih =>
      cases right with
      | nil => exact absurd h hempty
      | cons first' more' =>
          have hfirst := isPlain_of_arePlain hleft
          have hfirst' := isPlain_of_arePlain hright
          -- A list ends with its last requirement, so lists of different length differ there.
          cases more with
          | nil =>
              cases more' with
              | nil =>
                  rw [hlast, hlast] at h
                  rw [(cells_append_inj hfirst hfirst' (hend _) (hend _) h).1]
              | cons next' more' =>
                  simp only [arePlain, Bool.and_eq_true, decide_eq_true_eq] at hright
                  rw [hlast, join_cons_cons] at h
                  have hnil := (cells_append_inj hfirst hfirst' (hend _)
                    (canFollow_afterFirst (isPlain_of_arePlain hright.2) hright.1.2) h).2
                  exact absurd hnil.symm (afterFirst_ne_nil _ _)
          | cons next more =>
              simp only [arePlain, Bool.and_eq_true, decide_eq_true_eq] at hleft
              have hfollow : Row.CanFollow first.right.trailingDepth
                  (afterFirst first (next :: more)) :=
                canFollow_afterFirst (isPlain_of_arePlain hleft.2) hleft.1.2
              cases more' with
              | nil =>
                  rw [hlast, join_cons_cons] at h
                  exact absurd (cells_append_inj hfirst hfirst' hfollow (hend _) h).2
                    (afterFirst_ne_nil _ _)
              | cons next' more' =>
                  simp only [arePlain, Bool.and_eq_true, decide_eq_true_eq] at hright
                  rw [join_cons_cons, join_cons_cons] at h
                  obtain ⟨rfl, hafter⟩ := cells_append_inj hfirst hfirst' hfollow
                    (canFollow_afterFirst (isPlain_of_arePlain hright.2) hright.1.2) h
                  rw [ih hleft.2 hright.2 (List.append_cancel_left hafter)]

end Requirement

/-! ## Descriptors and predicates -/

/-- Descriptors take every other cell, so they are determined by their joined cells. -/
theorem Descriptor.join_inj {left right : List Descriptor}
    (h : Phrase.join (left.map phrase) = Phrase.join (right.map phrase)) : left = right := by
  have hcons (first : Descriptor) (more : List Descriptor) :
      Phrase.join ((first :: more).map phrase) =
        ⟨first.name⟩ ::
          if more.isEmpty then [] else Cell.andWord :: Phrase.join (more.map phrase) := by
    cases more <;> simp [Phrase.join, phrase, Phrase.separator]
  induction left generalizing right with
  | nil =>
      cases right with
      | nil => rfl
      | cons first more =>
          rw [hcons] at h
          cases h
  | cons first more ih =>
      cases right with
      | nil =>
          rw [hcons] at h
          cases h
      | cons first' more' =>
          rw [hcons, hcons] at h
          obtain ⟨hname, hmore⟩ := List.cons.inj h
          obtain rfl : first = first' := congrArg Descriptor.mk (Cell.mk.inj hname)
          cases more with
          | nil =>
              cases more' with
              | nil => rfl
              | cons next' more' => simp at hmore
          | cons next more =>
              cases more' with
              | nil => simp at hmore
              | cons next' more' => rw [ih (List.cons.inj hmore).2]

namespace Predicate

/-- A predicate that can be read back: `CAN` is said of descriptors, and any other word but `IS` of
plain types. -/
inductive Plain : Predicate → Prop where
  | ofTypes {name : String} {types : List TypeExpr} :
      name ≠ "IS" → name ≠ "CAN" → TypeExpr.arePlain 1 types → Plain (.ofTypes name types)
  | ofDescriptors (descriptors : List Descriptor) : Plain (.ofDescriptors "CAN" descriptors)

/-- The cells of a predicate about types. -/
theorem cells_ofTypes (name : String) (types : List TypeExpr) :
    (ofTypes name types).cells = ⟨name⟩ :: Phrase.join (TypeExpr.phrases types) := by
  rw [cells, ofTypes, List.map_map, TypeExpr.phrases_eq_map]
  rfl

/-- The cells of a predicate about descriptors. -/
theorem cells_ofDescriptors (name : String) (descriptors : List Descriptor) :
    (ofDescriptors name descriptors).cells =
      ⟨name⟩ :: Phrase.join (descriptors.map Descriptor.phrase) := by
  rw [cells, ofDescriptors, List.map_map]
  rfl

/-- Plain predicates are determined by their cells. -/
theorem cells_inj {left right : Predicate} (hleft : left.Plain) (hright : right.Plain)
    (h : left.cells = right.cells) : left = right := by
  cases hleft with
  | @ofTypes name types _ hcan htypes =>
      cases hright with
      | @ofTypes other others _ _ hothers =>
          rw [cells_ofTypes, cells_ofTypes] at h
          obtain ⟨hname, harguments⟩ := List.cons.inj h
          rw [Cell.mk.inj hname, TypeExpr.join_inj htypes hothers harguments]
      | ofDescriptors descriptors =>
          rw [cells_ofTypes, cells_ofDescriptors] at h
          exact absurd (Cell.mk.inj (List.cons.inj h).1) hcan
  | ofDescriptors descriptors =>
      cases hright with
      | ofTypes _ hcan _ =>
          rw [cells_ofTypes, cells_ofDescriptors] at h
          exact absurd (Cell.mk.inj (List.cons.inj h).1).symm hcan
      | ofDescriptors others =>
          rw [cells_ofDescriptors, cells_ofDescriptors] at h
          rw [Descriptor.join_inj (List.cons.inj h).2]

/-- No plain predicate says what something is. -/
theorem Plain.head?_ne {predicate : Predicate} (h : predicate.Plain) :
    predicate.cells.head? ≠ some Cell.isWord := by
  cases h with
  | ofTypes his _ _ =>
      rw [cells_ofTypes]
      intro hhead
      exact his (Cell.mk.inj (Option.some.inj hhead))
  | ofDescriptors descriptors =>
      rw [cells_ofDescriptors]
      exact fun hhead => absurd (Option.some.inj hhead) (by decide)

end Predicate

/-! ## Headers -/

/-- Every kind has a cell of its own. -/
theorem EntityKind.cell?_inj {left right : EntityKind} (h : left.cell? = right.cell?) :
    left = right := by
  revert h
  cases left <;> cases right <;> decide

/-- Names after the first one are read back up to a cell other than the word between them. -/
theorem flatMap_names_append_inj {word : Cell} {left right : List String} {rest other : Row}
    (hrest : rest.head? ≠ some word) (hother : other.head? ≠ some word)
    (h : (left.flatMap fun name => [word, ⟨name⟩]) ++ rest =
      (right.flatMap fun name => [word, ⟨name⟩]) ++ other) : left = right ∧ rest = other := by
  induction left generalizing right with
  | nil =>
      cases right with
      | nil => exact ⟨rfl, h⟩
      | cons name names =>
          rw [show rest = _ from h] at hrest
          exact absurd rfl hrest
  | cons name names ih =>
      cases right with
      | nil =>
          rw [show other = _ from h.symm] at hother
          exact absurd rfl hother
      | cons name' names' =>
          obtain ⟨hname, hmore⟩ := List.cons.inj (List.cons.inj h).2
          obtain ⟨hnames, hend⟩ := ih hmore
          exact ⟨by rw [Cell.mk.inj hname, hnames], hend⟩

/-- Names with their words are read back up to a cell that is neither of the words. -/
theorem wordedNames_append_inj {first word : Cell} {left right : List String} {rest other : Row}
    (hrest : rest.head? ≠ some first ∧ rest.head? ≠ some word)
    (hother : other.head? ≠ some first ∧ other.head? ≠ some word)
    (h : wordedNames first word left ++ rest = wordedNames first word right ++ other) :
    left = right ∧ rest = other := by
  cases left with
  | nil =>
      cases right with
      | nil => exact ⟨rfl, h⟩
      | cons name names =>
          rw [show rest = _ from h] at hrest
          exact absurd rfl hrest.1
  | cons name names =>
      cases right with
      | nil =>
          rw [show other = _ from h.symm] at hother
          exact absurd rfl hother.1
      | cons name' names' =>
          obtain ⟨hname, hmore⟩ := List.cons.inj (List.cons.inj h).2
          obtain ⟨hnames, hend⟩ := flatMap_names_append_inj hrest.2 hother.2 hmore
          exact ⟨by rw [Cell.mk.inj hname, hnames], hend⟩

/-- A list that is shown after a word, and not at all if it is empty, is determined by what is
shown if its cells determine it. -/
theorem eq_of_worded {α : Type} {word : Cell} {cells : List α → Row} {left right : List α}
    (hcells : cells left = cells right → left = right)
    (h : (if left.isEmpty then [] else word :: cells left) =
      if right.isEmpty then [] else word :: cells right) : left = right := by
  cases left with
  | nil =>
      cases right with
      | nil => rfl
      | cons first more => cases h
  | cons first more =>
      cases right with
      | nil => cases h
      | cons first' more' => exact hcells (List.cons.inj h).2

namespace Entity

/-- An entity that can be read back from its rows: it is no extension, and its requirements and
predicates are plain. -/
structure Plain (entity : Entity) : Prop where
  kind : entity.kind ≠ .extension
  requirements : Requirement.arePlain entity.requirements
  predicates : ∀ predicate ∈ entity.predicates, predicate.Plain

/-- The part of a header about requirements. -/
def requirementCells (entity : Entity) : Row :=
  if entity.requirements.isEmpty then []
  else Cell.whereWord :: Phrase.join (entity.requirements.map Requirement.phrase)

/-- Requirements start with `WHERE`, which neither opens nor continues a list of names. -/
theorem head?_requirementCells (entity : Entity) :
    entity.requirementCells.head? ≠ some Cell.ofWord ∧
      entity.requirementCells.head? ≠ some Cell.andWord := by
  unfold requirementCells
  split <;> simp [Cell.whereWord, Cell.ofWord, Cell.andWord]

/-- The details of a generic entity. -/
theorem headerDetails_of_isGeneric {entity : Entity} (h : entity.isGeneric) :
    entity.headerDetails =
      wordedNames Cell.ofWord Cell.andWord entity.genericArguments ++ entity.requirementCells := by
  rw [headerDetails, if_pos h]
  rfl

/-- The details of an entity that is not generic. -/
theorem headerDetails_of_not_isGeneric {entity : Entity} (h : entity.isGeneric = false) :
    entity.headerDetails =
      if entity.descriptors.isEmpty then [] else Cell.andWord :: entity.descriptorCells := by
  rw [headerDetails, if_neg (by simp [h])]

/-- Details start with `OF` or `WHERE` exactly if the entity is generic. -/
theorem isGeneric_iff_head? (entity : Entity) :
    entity.isGeneric ↔ entity.headerDetails.head? = some Cell.ofWord ∨
      entity.headerDetails.head? = some Cell.whereWord := by
  cases hgeneric : entity.isGeneric with
  | false =>
      rw [headerDetails_of_not_isGeneric hgeneric]
      split <;> simp [Cell.andWord, Cell.ofWord, Cell.whereWord]
  | true =>
      rw [headerDetails_of_isGeneric hgeneric]
      cases harguments : entity.genericArguments with
      | cons name names => simp [wordedNames]
      | nil =>
          have hne : entity.requirements.isEmpty = false := by
            simpa [isGeneric, harguments] using hgeneric
          simp [wordedNames, requirementCells, hne]

/-- Requirements are read back from their part of a header. -/
theorem requirementCells_inj {left right : Entity} (hleft : left.Plain) (hright : right.Plain)
    (h : left.requirementCells = right.requirementCells) :
    left.requirements = right.requirements :=
  @eq_of_worded _ _ (fun requirements => Phrase.join (requirements.map Requirement.phrase)) _ _
    (Requirement.join_inj hleft.requirements hright.requirements) h

/-- Descriptors are read back from the header of an entity that is not generic. -/
theorem descriptors_inj {left right : Entity}
    (h : (if left.descriptors.isEmpty then [] else Cell.andWord :: left.descriptorCells) =
      if right.descriptors.isEmpty then [] else Cell.andWord :: right.descriptorCells) :
    left.descriptors = right.descriptors :=
  @eq_of_worded _ _ (fun descriptors => Phrase.join (descriptors.map Descriptor.phrase)) _ _
    Descriptor.join_inj h

/-- What a header shows: the name, the kind, and the details. -/
theorem header_inj {left right : Entity} (hkind : left.kind ≠ .extension)
    (h : left.header = right.header) :
    left.name = right.name ∧ left.kind = right.kind ∧
      left.headerDetails = right.headerDetails := by
  unfold header at h
  cases hcell : left.kind.cell? with
  | none =>
      have hextension : EntityKind.extension.cell? = none := rfl
      exact absurd (EntityKind.cell?_inj (hcell.trans hextension.symm)) hkind
  | some cell =>
      cases hcell' : right.kind.cell? with
      | none => simp [hcell, hcell'] at h
      | some cell' =>
          rw [hcell, hcell'] at h
          obtain ⟨hname, hmore⟩ := List.cons.inj (Except.ok.inj h)
          obtain ⟨rfl, hdetails⟩ := List.cons.inj (List.cons.inj hmore).2
          exact ⟨Cell.mk.inj hname, EntityKind.cell?_inj (hcell.trans hcell'.symm), hdetails⟩

/-! ## Predicate rows -/

/-- The row of descriptors that an entity has if its header has no room for them. -/
def descriptorRows (entity : Entity) : List Row :=
  if entity.isGeneric && !entity.descriptors.isEmpty then
    [entity.nameCell :: Cell.isWord :: entity.descriptorCells]
  else []

/-- The rows of an entity that is no extension. -/
theorem predicateRows_eq {entity : Entity} (h : entity.kind ≠ .extension) :
    entity.predicateRows = entity.descriptorRows ++
      entity.predicates.map fun predicate => entity.nameCell :: predicate.cells := by
  have hextension : entity.isExtension = false := by simpa [isExtension] using h
  rw [predicateRows, hextension, Bool.or_false, descriptorRows]

/-- Rows of plain predicates are read back. -/
theorem map_cells_inj {name : Cell} {left right : List Predicate}
    (hleft : ∀ predicate ∈ left, predicate.Plain) (hright : ∀ predicate ∈ right, predicate.Plain)
    (h : (left.map fun predicate => name :: predicate.cells) =
      right.map fun predicate => name :: predicate.cells) : left = right := by
  induction left generalizing right with
  | nil => exact (List.map_eq_nil_iff.mp h.symm).symm
  | cons predicate rest ih =>
      cases right with
      | nil => simp at h
      | cons predicate' rest' =>
          obtain ⟨hplain, hrest⟩ := List.forall_mem_cons.mp hleft
          obtain ⟨hplain', hrest'⟩ := List.forall_mem_cons.mp hright
          obtain ⟨hrow, hrows⟩ := List.cons.inj h
          rw [Predicate.cells_inj hplain hplain' (List.cons.inj hrow).2, ih hrest hrest' hrows]

/-- No row of a plain predicate is a row of descriptors. -/
theorem map_cells_ne {name : Cell} {predicates : List Predicate} {cells : Row} {rows : List Row}
    (h : ∀ predicate ∈ predicates, predicate.Plain) :
    (predicates.map fun predicate => name :: predicate.cells) ≠
      (name :: Cell.isWord :: cells) :: rows := by
  intro heq
  cases predicates with
  | nil => simp at heq
  | cons predicate rest =>
      have hcells := (List.cons.inj (List.cons.inj heq).1).2
      refine (h predicate List.mem_cons_self).head?_ne ?_
      rw [hcells]
      rfl

/-- The rows of two entities that are both generic or both not show the same descriptors in a row
of their own, and the same predicates. -/
theorem predicateRows_inj {left right : Entity} (hleft : left.Plain) (hright : right.Plain)
    (hname : left.name = right.name) (hgeneric : left.isGeneric = right.isGeneric)
    (h : left.predicateRows = right.predicateRows) :
    (left.isGeneric → left.descriptors = right.descriptors) ∧
      left.predicates = right.predicates := by
  have hcell : left.nameCell = right.nameCell := congrArg Cell.mk hname
  rw [predicateRows_eq hleft.kind, predicateRows_eq hright.kind, descriptorRows, descriptorRows,
    hcell, hgeneric] at h
  cases hright' : right.isGeneric with
  | false =>
      simp only [hright', Bool.false_and, Bool.false_eq_true, if_false, List.nil_append] at h
      rw [hgeneric, hright']
      exact ⟨fun hfalse => absurd hfalse (by simp),
        map_cells_inj hleft.predicates hright.predicates h⟩
  | true =>
      simp only [hright', Bool.true_and] at h
      -- The first row tells whether there are descriptors, since no predicate says `IS`.
      cases hempty : left.descriptors.isEmpty with
      | true =>
          cases hempty' : right.descriptors.isEmpty with
          | true =>
              simp only [hempty, hempty', Bool.not_true, Bool.false_eq_true, if_false,
                List.nil_append] at h
              refine ⟨fun _ => ?_, map_cells_inj hleft.predicates hright.predicates h⟩
              rw [List.isEmpty_iff.mp hempty, List.isEmpty_iff.mp hempty']
          | false =>
              simp only [hempty, hempty', Bool.not_true, Bool.not_false, Bool.false_eq_true,
                if_false, if_true, List.nil_append, List.singleton_append] at h
              exact absurd h (map_cells_ne hleft.predicates)
      | false =>
          cases hempty' : right.descriptors.isEmpty with
          | true =>
              simp only [hempty, hempty', Bool.not_true, Bool.not_false, Bool.false_eq_true,
                if_false, if_true, List.nil_append, List.singleton_append] at h
              exact absurd h.symm (map_cells_ne hright.predicates)
          | false =>
              simp only [hempty, hempty', Bool.not_false, if_true, List.singleton_append] at h
              obtain ⟨hrow, hrows⟩ := List.cons.inj h
              exact ⟨fun _ => Descriptor.join_inj (List.cons.inj (List.cons.inj hrow).2).2,
                map_cells_inj hleft.predicates hright.predicates hrows⟩

/-- Two plain entities have the same header and the same predicate rows exactly if they agree in
everything but their members. In particular the descriptors are never lost, whether they stand in
the header or in a row of their own. -/
theorem rows_determine_entity {left right : Entity} (hleft : left.Plain) (hright : right.Plain) :
    left.header = right.header ∧ left.predicateRows = right.predicateRows ↔
      left.name = right.name ∧ left.kind = right.kind ∧
        left.genericArguments = right.genericArguments ∧
        left.requirements = right.requirements ∧ left.descriptors = right.descriptors ∧
        left.predicates = right.predicates := by
  constructor
  · rintro ⟨hheader, hrows⟩
    obtain ⟨hname, hkind, hdetails⟩ := header_inj hleft.kind hheader
    have hgeneric : left.isGeneric = right.isGeneric := by
      rw [Bool.eq_iff_iff, isGeneric_iff_head?, isGeneric_iff_head?, hdetails]
    obtain ⟨hdescriptors, hpredicates⟩ := predicateRows_inj hleft hright hname hgeneric hrows
    cases hleft' : left.isGeneric with
    | true =>
        rw [headerDetails_of_isGeneric hleft', headerDetails_of_isGeneric (hgeneric ▸ hleft')]
          at hdetails
        obtain ⟨harguments, hrequirements⟩ := wordedNames_append_inj
          left.head?_requirementCells right.head?_requirementCells hdetails
        exact ⟨hname, hkind, harguments, requirementCells_inj hleft hright hrequirements,
          hdescriptors hleft', hpredicates⟩
    | false =>
        have hright' : right.isGeneric = false := hgeneric ▸ hleft'
        rw [headerDetails_of_not_isGeneric hleft', headerDetails_of_not_isGeneric hright']
          at hdetails
        simp only [isGeneric, Bool.or_eq_false_iff, Bool.not_eq_false', List.isEmpty_iff]
          at hleft' hright'
        exact ⟨hname, hkind, hleft'.1.trans hright'.1.symm, hleft'.2.trans hright'.2.symm,
          descriptors_inj hdetails, hpredicates⟩
  · rintro ⟨hname, hkind, harguments, hrequirements, hdescriptors, hpredicates⟩
    simp [header, headerDetails, predicateRows, isGeneric, isExtension, nameCell, descriptorCells,
      hname, hkind, harguments, hrequirements, hdescriptors, hpredicates]

/-- A public box with two requirements, of which the first ends in a list. -/
def publicBox : Entity :=
  { name := "Box", kind := .struct, genericArguments := ["T", "E"]
    descriptors := [⟨"PUBLIC"⟩]
    requirements := [⟨.named "T" [], .conforms, .named "Sequence" [.named "E" []]⟩,
      ⟨.named "E" [], .equals, .named "Int" []⟩]
    predicates := [.ofTypes "ISA" [.named "Set" [.named "E" []], .named "Drawable" []],
      .ofDescriptors "CAN" [⟨"THROW"⟩]] }

/-- A box that is not public differs from a public one in its rows. -/
theorem rows_determine_publicBox :
    publicBox.Plain ∧ { publicBox with descriptors := [] }.Plain ∧
      ¬ (publicBox.header = { publicBox with descriptors := [] }.header ∧
        publicBox.predicateRows = { publicBox with descriptors := [] }.predicateRows) := by
  have hpredicates : ∀ predicate ∈ publicBox.predicates, predicate.Plain := by
    refine List.forall_mem_cons.mpr ⟨.ofTypes (by decide) (by decide) (by decide), ?_⟩
    exact List.forall_mem_singleton.mpr (.ofDescriptors _)
  have hpublic : publicBox.Plain := ⟨by decide, by decide, hpredicates⟩
  have hplain : { publicBox with descriptors := [] }.Plain := ⟨by decide, by decide, hpredicates⟩
  refine ⟨hpublic, hplain, fun hrows => ?_⟩
  have hdescriptors := ((rows_determine_entity hpublic hplain).mp hrows).2.2.2.2.1
  exact absurd hdescriptors (by decide)

end Entity

end WordGrid
