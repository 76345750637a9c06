import WordGrid.Layout.Sheet
import WordGrid.Proofs.Results

/-!
# The rows of a block in closed form

The layout of an entity first gives every member the rows that go between members, and then blanks
the fillers at the end. `EntityView` is what the layout shows of an entity, and `EntityView.rows`
writes the rows down at once, with the last member in its final form. Both agree as long as the name
of the last member is no ellipsis, which would be taken for a filler. Read
`Entity.hierarchical_eq_rows` first.
-/

namespace WordGrid

/-- What a grid shows of a declaration without its members. -/
structure MemberView where
  header : Row
  predicates : List Row
  deriving DecidableEq

/-- What a grid shows of an entity. -/
inductive EntityView where
  /-- A declaration with a header of its own. -/
  | declaration (own : MemberView) (members : List MemberView)
  /-- An extension with members. -/
  | extension (name : String) (predicates : List Row) (members : List MemberView)
  /-- An extension without members shows nothing but its predicates. -/
  | bare (predicates : List Row)
  deriving DecidableEq

namespace Entity

/-- What a grid shows of an entity that is a member. -/
def memberView (entity : Entity) : Except LayoutError MemberView := do
  let header ← entity.header
  return ⟨header, entity.predicateRows⟩

/-- What a grid shows of an entity. -/
def view (entity : Entity) : Except LayoutError EntityView :=
  if entity.isExtension then
    if entity.children.isEmpty then .ok (.bare entity.predicateRows)
    else do
      let members ← entity.children.mapM memberView
      return .extension entity.name entity.predicateRows members
  else do
    let own ← entity.memberView
    let members ← entity.children.mapM memberView
    return .declaration own members

/-- Rows that go on at the end of a block, each with a blank row after it. -/
def closing (rows : List Row) : Grid :=
  rows.flatMap fun row => [Cell.blank :: Cell.blank :: row, []]

end Entity

namespace MemberView

/-- The rows of a member that is followed by another one. -/
def rows (member : MemberView) : Grid :=
  member.header :: [Cell.andWord] :: Entity.continued member.predicates

/-- The rows of the last member. -/
def lastRows (member : MemberView) : Grid :=
  member.header :: [] :: Entity.closing member.predicates

/-- The rows of all members. -/
def allRows : List MemberView → Grid
  | [] => []
  | [last] => last.lastRows
  | member :: next :: rest => member.rows ++ allRows (next :: rest)

end MemberView

/-- The rows of an entity, up to the blank row that ends its block. -/
def EntityView.rows : EntityView → Grid
  | .declaration own [] => own.header :: Entity.indented own.predicates ++ [[]]
  | .declaration own members =>
      own.header :: [Cell.hasWord] :: Entity.continued own.predicates ++
        MemberView.allRows members ++ [[]]
  | .extension name predicates members =>
      (⟨name⟩ :: Cell.blank :: predicates.headD []) :: [Cell.hasWord] ::
        Entity.continued (predicates.drop 1) ++ MemberView.allRows members ++ [[]]
  | .bare predicates => predicates.intersperse [] ++ [[]]

/-! ## Blanking fillers -/

/-- A filler row and what it becomes. -/
def Row.BlanksTo (row blank : Row) : Prop :=
  row.blanked? = some blank

/-- A filler row is not what it becomes. -/
theorem Row.BlanksTo.ne {row blank : Row} (h : row.BlanksTo blank) : row ≠ blank := by
  have hellipsis : Cell.ellipsis ≠ Cell.blank := by decide
  unfold Row.BlanksTo Row.blanked? at h
  split at h
  · simp at h
  · split at h <;> simp_all
  · split at h
    · next hcell =>
      obtain rfl := Option.some.inj h
      rw [eq_of_beq hcell]
      exact fun heq => hellipsis (List.cons.inj heq).1
    · simp at h

theorem length_blankLeading (rows : List Row) : (blankLeading rows).length = rows.length := by
  induction rows with
  | nil => rfl
  | cons row rest ih =>
      rw [blankLeading]
      split
      · rw [List.length_cons, List.length_cons, ih]
      · rfl

/-- Filler rows at the start are blanked, and then what follows them is. -/
theorem blankLeading_append {fillers blanks : List Row}
    (h : List.Forall₂ Row.BlanksTo fillers blanks) (rest : List Row) :
    blankLeading (fillers ++ rest) = blanks ++ blankLeading rest := by
  induction h with
  | nil => rfl
  | cons hrow _ ih =>
      rw [Row.BlanksTo] at hrow
      rw [List.cons_append, blankLeading, hrow, ih, List.cons_append]

namespace Grid

/-- No row is added or removed. -/
theorem length_collapseFillers (grid : Grid) : grid.collapseFillers.length = grid.length := by
  rw [collapseFillers, List.length_reverse, length_blankLeading, List.length_reverse]

/-- Filler rows at the end are blanked, and then what stands before them is. -/
theorem collapseFillers_append {fillers blanks : List Row}
    (h : List.Forall₂ Row.BlanksTo fillers blanks) (front : Grid) :
    collapseFillers (front ++ fillers) = collapseFillers front ++ blanks := by
  have hreverse := List.forall₂_reverse_iff.mpr h
  rw [collapseFillers, List.reverse_append, blankLeading_append hreverse, collapseFillers,
    List.reverse_append, List.reverse_reverse]

/-- A row that is no filler keeps everything up to it as it is. -/
theorem collapseFillers_of_blanked?_none {row : Row} (h : row.blanked? = none) (front : Grid) :
    collapseFillers (front ++ [row]) = front ++ [row] := by
  rw [collapseFillers, List.reverse_append, List.reverse_singleton, List.singleton_append,
    blankLeading, h]
  simp

end Grid

namespace Entity

/-- Rows that go on with a member are fillers, and are blanked to rows at the end of a block. -/
theorem blanked?_continued (rows : List Row) :
    List.Forall₂ Row.BlanksTo (continued rows) (closing rows) := by
  induction rows with
  | nil => exact .nil
  | cons row rest ih => exact .cons rfl (.cons rfl ih)

/-- A header is no filler unless it starts with an ellipsis. -/
theorem blanked?_header_iff {entity : Entity} {row : Row} (h : entity.header = .ok row) :
    row.blanked? = none ↔ entity.name ≠ "…" := by
  unfold header at h
  split at h
  · cases h
    simp [Row.blanked?, nameCell, Cell.ellipsis]
  · cases h

end Entity

/-- The rows of a member below its header are fillers. -/
theorem MemberView.blanked?_below (member : MemberView) :
    List.Forall₂ Row.BlanksTo ([Cell.andWord] :: Entity.continued member.predicates)
      ([] :: Entity.closing member.predicates) :=
  .cons rfl (Entity.blanked?_continued member.predicates)

/-- The header of the last member is no filler, so only the rows below it are blanked. -/
theorem MemberView.collapseFillers_rows {members : List MemberView} (hne : members ≠ [])
    (hlast : ∀ last ∈ members.getLast?, last.header.blanked? = none) (front : Grid) :
    Grid.collapseFillers (front ++ members.flatMap rows) = front ++ allRows members := by
  induction members generalizing front with
  | nil => exact absurd rfl hne
  | cons member rest ih =>
      cases rest with
      | nil =>
          have hrows : front ++ [member].flatMap rows =
              (front ++ [member.header]) ++
                ([Cell.andWord] :: Entity.continued member.predicates) := by
            simp [rows]
          rw [hrows, Grid.collapseFillers_append member.blanked?_below,
            Grid.collapseFillers_of_blanked?_none (hlast member rfl)]
          simp [allRows, lastRows]
      | cons next rest =>
          have htail := ih (by simp) (fun last hmem => hlast last (by simpa using hmem))
            (front ++ member.rows)
          rw [allRows, ← List.append_assoc, ← htail]
          simp

/-! ## The closed form -/

namespace Entity

/-- The rows of a member in closed form. -/
theorem memberRows_eq_map (entity : Entity) :
    entity.memberRows = entity.memberView.map MemberView.rows := by
  unfold memberRows memberView
  cases entity.header <;> rfl

/-- No view of a last member is taken for a filler, unless the name of that member is. -/
theorem blanked?_of_getLast? {entity : Entity} {members : List MemberView}
    (hname : ∀ last ∈ entity.children.getLast?, last.name ≠ "…")
    (h : entity.children.mapM memberView = .ok members) :
    ∀ last ∈ members.getLast?, last.header.blanked? = none := by
  intro last hlast
  have hreverse := List.forall₂_reverse_iff.mpr (mapM_eq_ok_iff.mp h)
  rw [List.getLast?_eq_head?_reverse] at hlast
  simp only [List.getLast?_eq_head?_reverse] at hname
  generalize entity.children.reverse = children at hname hreverse
  generalize members.reverse = views at hlast hreverse
  cases hreverse with
  | nil => simp at hlast
  | cons hview _ =>
      obtain rfl := Option.some.inj hlast
      obtain ⟨header, hheader, hmember⟩ := bind_eq_ok.mp hview
      cases hmember
      exact (blanked?_header_iff hheader).mpr (hname _ rfl)

/-- An entity with members starts with its opening row, and ends with its last member. -/
theorem hierarchical_of_members {entity : Entity} (hne : entity.children ≠ [])
    (hname : ∀ last ∈ entity.children.getLast?, last.name ≠ "…") :
    entity.hierarchical = (do
      let (first, rest) ← entity.opening
      let members ← entity.children.mapM memberView
      return first :: [Cell.hasWord] :: continued rest ++ MemberView.allRows members ++ [[]]) := by
  have hrows : entity.children.mapM memberRows =
      (entity.children.mapM memberView).map (List.map MemberView.rows) :=
    mapM_eq_map memberRows_eq_map entity.children
  rw [hierarchical, if_neg (by simpa using hne), draft, hrows]
  cases entity.opening with
  | error failure => rfl
  | ok parts =>
      cases hmembers : entity.children.mapM memberView with
      | error failure => rfl
      | ok members =>
          have hfull : members ≠ [] := fun hnil => mapM_ne_nil hne (hnil ▸ hmembers)
          have hcollapse := MemberView.collapseFillers_rows hfull
            (blanked?_of_getLast? hname hmembers)
            (parts.1 :: [Cell.hasWord] :: continued parts.2)
          exact congrArg (fun rows => Except.ok (rows ++ [[]])) hcollapse

/-- The view of an entity with members starts with its opening row and ends with its last member. -/
theorem view_of_members {entity : Entity} (hne : entity.children ≠ []) :
    entity.view.map EntityView.rows = (do
      let (first, rest) ← entity.opening
      let members ← entity.children.mapM memberView
      return first :: [Cell.hasWord] :: continued rest ++ MemberView.allRows members ++ [[]]) := by
  have hempty : entity.children.isEmpty = false := by simpa using hne
  cases hextension : entity.isExtension with
  | true =>
      simp only [opening, view, hextension, hempty, if_true, Bool.false_eq_true, if_false]
      cases entity.children.mapM memberView <;> rfl
  | false =>
      simp only [opening, view, memberView, hextension, Bool.false_eq_true, if_false]
      cases entity.header with
      | error failure => rfl
      | ok header =>
          cases hmembers : entity.children.mapM memberView with
          | error failure => rfl
          | ok members =>
              -- A declaration with members has a view with members.
              cases members with
              | nil => exact absurd hmembers (mapM_ne_nil hne)
              | cons member rest => rfl

/-- The rows of an entity are those of its view, unless its last member is named like a filler. -/
theorem hierarchical_eq_rows {entity : Entity}
    (hname : ∀ last ∈ entity.children.getLast?, last.name ≠ "…") :
    entity.hierarchical = entity.view.map EntityView.rows := by
  by_cases hchildren : entity.children = []
  · cases hextension : entity.isExtension with
    | true =>
        simp only [hierarchical, view, flat, predicateAndMemberRows, membersRow?, hchildren,
          hextension, List.isEmpty_nil, if_true, Option.toList_none, List.append_nil]
        rfl
    | false =>
        simp only [hierarchical, view, memberView, hchildren, hextension]
        cases entity.header <;> rfl
  · rw [hierarchical_of_members hchildren hname, view_of_members hchildren]

end Entity

end WordGrid
