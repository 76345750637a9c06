import WordGrid.Proofs.Blocks
import WordGrid.Proofs.Recovery

/-!
# Reading blocks back from a grid

The rows of a file stand one below the other without a mark between two entities. Where a block ends
is told by its rows alone: what goes on with a member starts with an ellipsis or two blanks, what
goes on with a declaration without members starts with a blank, and a new block starts with neither.
So a block is determined together with the rows after it (`EntityView.rows_append_inj`), and a whole
grid shows the view of each of its entities and nothing else. Read `Grid.ofEntities_decodable`
first.
-/

namespace WordGrid

/-! ## What can be told apart -/

/-- The rows after a block: there are none, or the first of them does not start with a blank. -/
def Grid.IsFresh (rest : Grid) : Prop :=
  ∀ row ∈ rest.head?, row.head? ≠ some Cell.blank

/-- A member whose header cannot be taken for a row that goes on with the member before it. -/
def MemberView.Legible (member : MemberView) : Prop :=
  member.header.head? ≠ some Cell.ellipsis

namespace EntityView

/-- A view whose first row tells what it is a view of, with members that can be told apart. -/
def Legible : EntityView → Prop
  | .declaration own members =>
      (∃ name details, own.header = name :: Cell.isWord :: details ∧ name ≠ Cell.blank) ∧
        ∀ member ∈ members, member.Legible
  | .extension name predicates members =>
      name ≠ "" ∧ predicates.length ≤ 1 ∧ (∀ row ∈ predicates, row ≠ []) ∧
        members ≠ [] ∧ ∀ member ∈ members, member.Legible
  | .bare predicates =>
      predicates.length ≤ 1 ∧
        ∀ row ∈ predicates, ∃ name word details, row = name :: word :: details ∧
          name ≠ Cell.blank ∧ word ≠ Cell.isWord ∧ word ≠ Cell.blank

end EntityView

/-- An entity whose rows can be told from other rows: it has a name, its members are no extensions
and are not named by an ellipsis, and an extension says at most one thing, neither with a blank word
nor with `IS`. -/
structure Entity.Legible (entity : Entity) : Prop where
  name : entity.name ≠ ""
  members : ∀ child ∈ entity.children, child.kind ≠ .extension ∧ child.name ≠ "…"
  descriptors : entity.kind = .extension → entity.descriptors = []
  single : entity.kind = .extension → entity.predicates.length ≤ 1
  predicates : entity.kind = .extension →
    ∀ predicate ∈ entity.predicates, predicate.name ≠ "IS" ∧ predicate.name ≠ ""

/-! ## Rows of one entity -/

namespace Entity

/-- Rows that stand further in are read back up to a blank row and a fresh one. -/
theorem indented_append_inj {left right : List Row} {rest other : Grid} (hrest : rest.IsFresh)
    (hother : other.IsFresh) (h : indented left ++ [] :: rest = indented right ++ [] :: other) :
    left = right ∧ rest = other := by
  induction left generalizing right with
  | nil =>
      cases right with
      | nil => exact ⟨rfl, (List.cons.inj h).2⟩
      | cons row rows =>
          -- A row that stands further in starts with a blank.
          have hrow := (List.cons.inj h).2
          rw [hrow] at hrest
          exact absurd rfl (hrest _ rfl)
  | cons row rows ih =>
      cases right with
      | nil =>
          have hrow := (List.cons.inj h).2
          rw [← hrow] at hother
          exact absurd rfl (hother _ rfl)
      | cons row' rows' =>
          obtain ⟨hrow, htail⟩ := List.cons.inj (List.cons.inj h).2
          obtain ⟨hrows, hend⟩ := ih htail
          exact ⟨by rw [(List.cons.inj hrow).2, hrows], hend⟩

/-- Rows at the end of a block are read back up to a blank row. -/
theorem closing_append_inj {left right : List Row} {rest other : Grid}
    (h : closing left ++ [] :: rest = closing right ++ [] :: other) :
    left = right ∧ rest = other := by
  induction left generalizing right with
  | nil =>
      cases right with
      | nil => exact ⟨rfl, (List.cons.inj h).2⟩
      | cons row rows => cases (List.cons.inj h).1
  | cons row rows ih =>
      cases right with
      | nil => cases (List.cons.inj h).1
      | cons row' rows' =>
          obtain ⟨hrow, hmore⟩ := List.cons.inj h
          obtain ⟨hrows, hend⟩ := ih (List.cons.inj hmore).2
          exact ⟨by rw [(List.cons.inj (List.cons.inj hrow).2).2, hrows], hend⟩

/-- Rows that go on with a member are read back up to a row without an ellipsis in front. -/
theorem continued_append_inj {left right : List Row} {rest other : Grid}
    (hrest : ∀ row ∈ rest.head?, row.head? ≠ some Cell.ellipsis)
    (hother : ∀ row ∈ other.head?, row.head? ≠ some Cell.ellipsis)
    (h : continued left ++ rest = continued right ++ other) : left = right ∧ rest = other := by
  induction left generalizing right with
  | nil =>
      cases right with
      | nil => exact ⟨rfl, h⟩
      | cons row rows =>
          rw [show rest = _ from h] at hrest
          exact absurd rfl (hrest _ rfl)
  | cons row rows ih =>
      cases right with
      | nil =>
          rw [show other = _ from h.symm] at hother
          exact absurd rfl (hother _ rfl)
      | cons row' rows' =>
          obtain ⟨hrow, hmore⟩ := List.cons.inj h
          obtain ⟨hrows, hend⟩ := ih (List.cons.inj hmore).2
          exact ⟨by rw [(List.cons.inj (List.cons.inj hrow).2).2, hrows], hend⟩

end Entity

namespace MemberView

/-- The rows of members do not start with an ellipsis. -/
theorem allRows_head? {members : List MemberView} (hne : members ≠ [])
    (hlegible : ∀ member ∈ members, member.Legible) (rest : Grid) :
    ∀ row ∈ (allRows members ++ rest).head?, row.head? ≠ some Cell.ellipsis := by
  obtain ⟨member, more, rfl⟩ := List.exists_cons_of_ne_nil hne
  have hhead : (allRows (member :: more) ++ rest).head? = some member.header := by
    cases more <;> rfl
  intro row hrow
  rw [hhead] at hrow
  obtain rfl := Option.some.inj hrow
  exact hlegible member List.mem_cons_self

/-- Members are read back up to the blank row that ends the block. -/
theorem allRows_append_inj {left right : List MemberView} {rest other : Grid} (hleft : left ≠ [])
    (hright : right ≠ []) (hlegible : ∀ member ∈ left, member.Legible)
    (hlegible' : ∀ member ∈ right, member.Legible)
    (h : allRows left ++ [] :: rest = allRows right ++ [] :: other) :
    left = right ∧ rest = other := by
  induction left generalizing right with
  | nil => exact absurd rfl hleft
  | cons member members ih =>
      obtain ⟨member', members', rfl⟩ := List.exists_cons_of_ne_nil hright
      obtain ⟨header, predicates⟩ := member
      obtain ⟨header', predicates'⟩ := member'
      -- The row below a header tells whether another member follows.
      cases members with
      | nil =>
          cases members' with
          | nil =>
              obtain ⟨rfl, hmore⟩ := List.cons.inj h
              obtain ⟨rfl, hend⟩ := Entity.closing_append_inj (List.cons.inj hmore).2
              exact ⟨rfl, hend⟩
          | cons next' more' => cases (List.cons.inj (List.cons.inj h).2).1
      | cons next more =>
          cases members' with
          | nil => cases (List.cons.inj (List.cons.inj h).2).1
          | cons next' more' =>
              have hnext : ∀ member ∈ next :: more, member.Legible := fun member hmem =>
                hlegible member (List.mem_cons_of_mem _ hmem)
              have hnext' : ∀ member ∈ next' :: more', member.Legible := fun member hmem =>
                hlegible' member (List.mem_cons_of_mem _ hmem)
              rw [allRows, allRows, List.append_assoc, List.append_assoc] at h
              obtain ⟨rfl, hmore⟩ := List.cons.inj h
              obtain ⟨rfl, hmembers⟩ := Entity.continued_append_inj
                (allRows_head? (by simp) hnext _) (allRows_head? (by simp) hnext' _)
                (List.cons.inj hmore).2
              obtain ⟨heq, hend⟩ := ih (by simp) (by simp) hnext hnext' hmembers
              exact ⟨by rw [heq], hend⟩

/-- What stands between the opening row of an entity and the end of its block is read back. -/
theorem body_append_inj {left right : List MemberView} {predicates predicates' : List Row}
    {rest other : Grid} (hleft : left ≠ []) (hright : right ≠ [])
    (hlegible : ∀ member ∈ left, member.Legible) (hlegible' : ∀ member ∈ right, member.Legible)
    (h : Entity.continued predicates ++ allRows left ++ [[]] ++ rest =
      Entity.continued predicates' ++ allRows right ++ [[]] ++ other) :
    predicates = predicates' ∧ left = right ∧ rest = other := by
  simp only [List.append_assoc, List.singleton_append] at h
  obtain ⟨hpredicates, hmembers⟩ := Entity.continued_append_inj
    (allRows_head? hleft hlegible _) (allRows_head? hright hlegible' _) h
  exact ⟨hpredicates, allRows_append_inj hleft hright hlegible hlegible' hmembers⟩

end MemberView

namespace EntityView

/-- The first row of a view. -/
def opening : EntityView → Row
  | .declaration own _ => own.header
  | .extension name predicates _ => ⟨name⟩ :: Cell.blank :: predicates.headD []
  | .bare predicates => predicates.headD []

/-- The rows of a view start with its opening row. -/
theorem rows_eq_cons (view : EntityView) : ∃ more, view.rows = view.opening :: more := by
  cases view with
  | declaration own members => cases members <;> exact ⟨_, rfl⟩
  | extension name predicates members => exact ⟨_, rfl⟩
  | bare predicates =>
      cases predicates with
      | nil => exact ⟨[], rfl⟩
      | cons row rows => cases rows <;> exact ⟨_, rfl⟩

/-- What the second cell of an opening row tells: a declaration says `IS`, an extension with members
leaves it blank, and an extension without members does neither. -/
theorem Legible.mark {view : EntityView} (h : view.Legible) :
    (view.opening[1]? = some Cell.isWord ↔ ∃ own members, view = .declaration own members) ∧
      (view.opening[1]? = some Cell.blank ↔
        ∃ name predicates members, view = .extension name predicates members) := by
  cases view with
  | declaration own members =>
      obtain ⟨⟨name, details, hheader, -⟩, -⟩ := h
      simp [opening, hheader, Cell.isWord, Cell.blank]
  | extension name predicates members => simp [opening, Cell.isWord, Cell.blank]
  | bare predicates =>
      obtain ⟨-, hrows⟩ := h
      cases predicates with
      | nil => simp [opening]
      | cons row rows =>
          obtain ⟨name, word, details, rfl, -, hword, hblank⟩ := hrows row List.mem_cons_self
          simp [opening, hword, hblank]

/-- A view starts a new block. -/
theorem Legible.isFresh {view : EntityView} (h : view.Legible) (rest : Grid) :
    Grid.IsFresh (view.rows ++ rest) := by
  obtain ⟨more, hrows⟩ := view.rows_eq_cons
  intro row hrow
  rw [hrows] at hrow
  obtain rfl := Option.some.inj hrow
  cases view with
  | declaration own members =>
      obtain ⟨⟨name, details, hheader, hname⟩, -⟩ := h
      simpa [opening, hheader] using hname
  | extension name predicates members => simpa [opening, Cell.blank] using h.1
  | bare predicates =>
      obtain ⟨-, hpredicates⟩ := h
      cases predicates with
      | nil => simp [opening]
      | cons row rows =>
          obtain ⟨name, word, details, rfl, hname, -⟩ := hpredicates row List.mem_cons_self
          simpa [opening] using hname

/-- A list of at most one row is told by its first row, as long as no row is empty. -/
theorem eq_of_headD_eq {left right : List Row} (hleft : left.length ≤ 1) (hright : right.length ≤ 1)
    (hne : ∀ row ∈ left, row ≠ []) (hne' : ∀ row ∈ right, row ≠ [])
    (h : left.headD [] = right.headD []) : left = right := by
  match left, right with
  | [], [] => rfl
  | [], [row] => exact absurd h.symm (hne' row List.mem_cons_self)
  | [row], [] => exact absurd h (hne row List.mem_cons_self)
  | [row], [row'] => exact congrArg (fun row => [row]) h

/-- Declarations are read back: the row below the header tells whether there are members. -/
theorem declaration_append_inj {own own' : MemberView} {members members' : List MemberView}
    {rest other : Grid} (hrest : rest.IsFresh) (hother : other.IsFresh)
    (hlegible : ∀ member ∈ members, member.Legible)
    (hlegible' : ∀ member ∈ members', member.Legible)
    (h : (declaration own members).rows ++ rest = (declaration own' members').rows ++ other) :
    declaration own members = declaration own' members' ∧ rest = other := by
  have hblank (predicates : List Row) (after : Grid) :
      (Entity.indented predicates ++ [[]] ++ after).head? = some [] := by
    cases predicates <;> rfl
  obtain ⟨header, predicates⟩ := own
  obtain ⟨header', predicates'⟩ := own'
  cases members with
  | nil =>
      cases members' with
      | nil =>
          obtain ⟨rfl, hmore⟩ := List.cons.inj h
          have hrows : Entity.indented predicates ++ [] :: rest =
              Entity.indented predicates' ++ [] :: other := by
            rw [List.append_cons _ [] rest, List.append_cons _ [] other]
            exact hmore
          obtain ⟨rfl, hend⟩ := Entity.indented_append_inj hrest hother hrows
          exact ⟨rfl, hend⟩
      | cons member' more' =>
          have hsecond : some [] = some [Cell.hasWord] :=
            (hblank predicates rest).symm.trans (congrArg List.head? (List.cons.inj h).2)
          cases hsecond
  | cons member more =>
      cases members' with
      | nil =>
          have hsecond : some [] = some [Cell.hasWord] :=
            (hblank predicates' other).symm.trans (congrArg List.head? (List.cons.inj h.symm).2)
          cases hsecond
      | cons member' more' =>
          obtain ⟨rfl, hmore⟩ := List.cons.inj h
          obtain ⟨rfl, hmembers, hend⟩ := MemberView.body_append_inj (by simp) (by simp) hlegible
            hlegible' (List.cons.inj hmore).2
          exact ⟨by rw [hmembers], hend⟩

/-- A block is read back together with the rows after it. -/
theorem rows_append_inj {left right : EntityView} {rest other : Grid} (hleft : left.Legible)
    (hright : right.Legible) (hrest : rest.IsFresh) (hother : other.IsFresh)
    (h : left.rows ++ rest = right.rows ++ other) : left = right ∧ rest = other := by
  have hopening : left.opening = right.opening := by
    obtain ⟨more, hrows⟩ := left.rows_eq_cons
    obtain ⟨more', hrows'⟩ := right.rows_eq_cons
    rw [hrows, hrows'] at h
    exact (List.cons.inj h).1
  have hdeclaration := hleft.mark.1.symm.trans (hopening ▸ hright.mark.1)
  have hextension := hleft.mark.2.symm.trans (hopening ▸ hright.mark.2)
  cases left with
  | declaration own members =>
      obtain ⟨own', members', rfl⟩ := hdeclaration.mp ⟨own, members, rfl⟩
      exact declaration_append_inj hrest hother hleft.2 hright.2 h
  | extension name predicates members =>
      obtain ⟨name', predicates', members', rfl⟩ :=
        hextension.mp ⟨name, predicates, members, rfl⟩
      obtain ⟨-, hlength, hne, hfull, hlegible⟩ := hleft
      obtain ⟨-, hlength', hne', hfull', hlegible'⟩ := hright
      obtain ⟨hname, hcells⟩ := List.cons.inj hopening
      obtain rfl := Cell.mk.inj hname
      obtain rfl := eq_of_headD_eq hlength hlength' hne hne' (List.cons.inj hcells).2
      obtain ⟨-, rfl, hend⟩ := MemberView.body_append_inj hfull hfull' hlegible hlegible'
        (List.cons.inj (List.cons.inj h).2).2
      exact ⟨rfl, hend⟩
  | bare predicates =>
      cases right with
      | declaration own' members' =>
          obtain ⟨own, members, hview⟩ := hdeclaration.mpr ⟨own', members', rfl⟩
          cases hview
      | extension name' predicates' members' =>
          obtain ⟨name, predicates, members, hview⟩ :=
            hextension.mpr ⟨name', predicates', members', rfl⟩
          cases hview
      | bare predicates' =>
          have hne {rows : List Row} (hrows : (bare rows).Legible) : ∀ row ∈ rows, row ≠ [] := by
            intro row hmem
            obtain ⟨name, word, details, rfl, -⟩ := hrows.2 row hmem
            simp
          obtain rfl := eq_of_headD_eq hleft.1 hright.1 (hne hleft) (hne hright) hopening
          exact ⟨rfl, List.append_cancel_left h⟩

/-- Blocks one below the other are read back. -/
theorem flatMap_rows_inj {left right : List EntityView} (hleft : ∀ view ∈ left, view.Legible)
    (hright : ∀ view ∈ right, view.Legible) (h : left.flatMap rows = right.flatMap rows) :
    left = right := by
  have hfresh {views : List EntityView} (hviews : ∀ view ∈ views, view.Legible) :
      Grid.IsFresh (views.flatMap rows) := by
    cases views with
    | nil => simp [Grid.IsFresh]
    | cons view more => exact (hviews view List.mem_cons_self).isFresh _
  induction left generalizing right with
  | nil =>
      cases right with
      | nil => rfl
      | cons view views =>
          obtain ⟨more, hrows⟩ := view.rows_eq_cons
          simp [hrows] at h
  | cons view views ih =>
      cases right with
      | nil =>
          obtain ⟨more, hrows⟩ := view.rows_eq_cons
          simp [hrows] at h
      | cons view' views' =>
          obtain ⟨hview, hviews⟩ := List.forall_mem_cons.mp hleft
          obtain ⟨hview', hviews'⟩ := List.forall_mem_cons.mp hright
          obtain ⟨rfl, hmore⟩ :=
            rows_append_inj hview hview' (hfresh hviews) (hfresh hviews') h
          rw [ih hviews hviews' hmore]

end EntityView

/-! ## Entities -/

namespace Entity

/-- A header starts with the name and `IS`. -/
theorem header_eq_cons {entity : Entity} {row : Row} (h : entity.header = .ok row) :
    ∃ details, row = entity.nameCell :: Cell.isWord :: details := by
  unfold header at h
  split at h
  · cases h
    exact ⟨_, rfl⟩
  · cases h

/-- The members of a legible entity have legible views. -/
theorem Legible.memberViews {entity : Entity} (h : entity.Legible) :
    ∃ members, entity.children.mapM memberView = .ok members ∧
      ∀ member ∈ members, member.Legible := by
  refine mapM_total_forall fun child hmem => ?_
  obtain ⟨hkind, hname⟩ := h.members child hmem
  obtain ⟨header, hheader⟩ := header_total hkind
  obtain ⟨details, hrow⟩ := header_eq_cons hheader
  refine ⟨⟨header, child.predicateRows⟩, bind_eq_ok.mpr ⟨header, hheader, rfl⟩, ?_⟩
  simpa [MemberView.Legible, hrow, nameCell, Cell.ellipsis] using hname

/-- A legible extension has at most one predicate row, and its second cell is a word other than
`IS`. -/
theorem Legible.predicateRows {entity : Entity} (h : entity.Legible)
    (hkind : entity.kind = .extension) :
    entity.predicateRows.length ≤ 1 ∧
      ∀ row ∈ entity.predicateRows, ∃ word details, row = entity.nameCell :: word :: details ∧
        word ≠ Cell.isWord ∧ word ≠ Cell.blank := by
  have hrows : entity.predicateRows =
      entity.predicates.map fun predicate => entity.nameCell :: predicate.cells := by
    simp [Entity.predicateRows, h.descriptors hkind]
  rw [hrows]
  refine ⟨by simpa using h.single hkind, fun row hmem => ?_⟩
  obtain ⟨predicate, hpredicate, rfl⟩ := List.mem_map.mp hmem
  obtain ⟨hword, hblank⟩ := h.predicates hkind predicate hpredicate
  refine ⟨⟨predicate.name⟩, _, rfl, ?_, ?_⟩
  · simpa [Cell.isWord] using hword
  · simpa [Cell.blank] using hblank

/-- A legible entity has a legible view. -/
theorem Legible.view {entity : Entity} (h : entity.Legible) :
    ∃ view, entity.view = .ok view ∧ view.Legible := by
  have hname : entity.nameCell ≠ Cell.blank := by
    simpa [nameCell, Cell.blank] using h.name
  obtain ⟨members, hmembers, hlegible⟩ := h.memberViews
  cases hextension : entity.isExtension with
  | false =>
      have hkind : entity.kind ≠ .extension := by simpa [isExtension] using hextension
      obtain ⟨header, hheader⟩ := header_total hkind
      obtain ⟨details, hrow⟩ := header_eq_cons hheader
      refine ⟨.declaration ⟨header, entity.predicateRows⟩ members, ?_,
        ⟨_, details, hrow, hname⟩, hlegible⟩
      rw [Entity.view, hextension, memberView, hheader, hmembers]
      rfl
  | true =>
      have hkind : entity.kind = .extension := by simpa [isExtension] using hextension
      obtain ⟨hsingle, hrows⟩ := h.predicateRows hkind
      by_cases hchildren : entity.children = []
      · refine ⟨.bare entity.predicateRows, ?_, hsingle, fun row hmem => ?_⟩
        · rw [Entity.view, hextension, hchildren]
          rfl
        · obtain ⟨word, details, hrow, hword⟩ := hrows row hmem
          exact ⟨_, word, details, hrow, hname, hword⟩
      · have hfull : members ≠ [] := fun hnil => mapM_ne_nil hchildren (hnil ▸ hmembers)
        refine ⟨.extension entity.name entity.predicateRows members, ?_, h.name, hsingle,
          fun row hmem => ?_, hfull, hlegible⟩
        · rw [Entity.view, hextension, hmembers, List.isEmpty_eq_false_iff.mpr hchildren]
          rfl
        · obtain ⟨word, details, rfl, -⟩ := hrows row hmem
          simp

/-- An entity whose members have no members. -/
def pruned (entity : Entity) : Entity :=
  { entity with children := entity.children.map fun child => { child with children := [] } }

/-- The members of members have no rows. -/
theorem hierarchical_pruned (entity : Entity) :
    entity.pruned.hierarchical = entity.hierarchical := by
  by_cases hchildren : entity.children = []
  · have hsame : entity.pruned = entity := by
      rw [pruned, hchildren, List.map_nil, ← hchildren]
      cases entity
      rfl
    rw [hsame]
  · have hpruned : entity.pruned.children ≠ [] := by simpa [pruned] using hchildren
    have hopening : entity.pruned.opening = entity.opening := rfl
    have hmembers : entity.pruned.children.mapM memberRows = entity.children.mapM memberRows := by
      rw [pruned, List.mapM_map]
      rfl
    rw [hierarchical_eq_draft hpruned, hierarchical_eq_draft hchildren, draft, draft, hopening,
      hmembers]

end Entity

namespace Grid

/-- The grid of legible entities has the rows of their views. -/
theorem ofEntities_of_legible {entities : List Entity} (h : ∀ entity ∈ entities, entity.Legible) :
    ∃ views : List EntityView, entities.mapM Entity.view = .ok views ∧
      (∀ view ∈ views, view.Legible) ∧
      ofEntities entities false = .ok ([] :: views.flatMap EntityView.rows) := by
  obtain ⟨views, hviews, hlegible⟩ := mapM_total_forall fun entity hmem => (h entity hmem).view
  refine ⟨views, hviews, hlegible, ?_⟩
  have hrows (entity : Entity) (hmem : entity ∈ entities) :
      entity.hierarchical = entity.view.map EntityView.rows := by
    refine Entity.hierarchical_eq_rows fun last hlast => ?_
    exact ((h entity hmem).members last (List.mem_of_getLast? hlast)).2
  have hblocks : entities.mapM Entity.hierarchical = .ok (views.map EntityView.rows) := by
    rw [mapM_congr_of_mem hrows, mapM_eq_map (fun _ => rfl), hviews]
    rfl
  rw [ofEntities, stacked, hblocks]
  rfl

/-- The grid of legible entities shows the view of each of them in order and nothing else; in
particular it does not show the members of members. -/
theorem ofEntities_decodable {left right : List Entity}
    (hleft : ∀ entity ∈ left, entity.Legible) (hright : ∀ entity ∈ right, entity.Legible) :
    (∃ grid, ofEntities left false = .ok grid) ∧ (∃ grid, ofEntities right false = .ok grid) ∧
      (ofEntities left false = ofEntities right false ↔
        left.map Entity.view = right.map Entity.view) ∧
      ofEntities (left.map Entity.pruned) false = ofEntities left false := by
  obtain ⟨views, hviews, hlegible, hgrid⟩ := ofEntities_of_legible hleft
  obtain ⟨views', hviews', hlegible', hgrid'⟩ := ofEntities_of_legible hright
  refine ⟨⟨_, hgrid⟩, ⟨_, hgrid'⟩, ?_, ?_⟩
  · rw [hgrid, hgrid', mapM_eq_ok_iff_map.mp hviews, mapM_eq_ok_iff_map.mp hviews']
    constructor
    · intro heq
      have hrows := (List.cons.inj (Except.ok.inj heq)).2
      rw [EntityView.flatMap_rows_inj hlegible hlegible' hrows]
    · intro heq
      rw [List.map_injective_iff.mpr (fun _ _ => Except.ok.inj) heq]
  · have hpruned : Entity.hierarchical ∘ Entity.pruned = Entity.hierarchical :=
      funext Entity.hierarchical_pruned
    rw [ofEntities, stacked, List.mapM_map, hpruned]
    rfl

/-- An extension without members and predicates shows nothing but a blank row, and still its place
among other entities is seen. -/
theorem ofEntities_decodable_blank :
    (∀ entity ∈ [Entity.mk "A" .extension [] [] [] [] [],
      .mk "B" .classType [] [.mk "x" .mutable [] [] [] [] []] [] [] []], entity.Legible) ∧
      ofEntities [.mk "A" .extension [] [] [] [] [],
          .mk "B" .classType [] [.mk "x" .mutable [] [] [] [] []] [] [] []] false ≠
        ofEntities [.mk "B" .classType [] [.mk "x" .mutable [] [] [] [] []] [] [] [],
          .mk "A" .extension [] [] [] [] []] false := by
  have hextension : (Entity.mk "A" .extension [] [] [] [] []).Legible := by
    constructor <;> simp
  have hclass :
      (Entity.mk "B" .classType [] [.mk "x" .mutable [] [] [] [] []] [] [] []).Legible := by
    constructor <;> simp
  refine ⟨by simp [hextension, hclass], fun heq => ?_⟩
  have hviews := (ofEntities_decodable (by simp [hextension, hclass])
    (by simp [hextension, hclass])).2.2.1.mp heq
  cases (List.cons.inj hviews).1

end Grid

end WordGrid
