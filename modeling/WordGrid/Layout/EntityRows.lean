import WordGrid.Entity
import WordGrid.Layout.Filler

/-!
# The rows of an entity

An entity is laid out as a header row, a row per predicate, and rows for its members. `flat` puts
the members into one row of names; `hierarchical` gives every member its own header and predicate
rows. An extension has no header, so its rows start with its first predicate, and laying out an
extension where a header is needed fails.
-/

namespace WordGrid

/-- Why an entity cannot be laid out. -/
inductive LayoutError where
  | extensionHeader
  | kindWithoutCell (kind : EntityKind)
  | inoutCount
  deriving DecidableEq, Repr

/-- The wording of a layout error. -/
def LayoutError.message : LayoutError → String
  | .extensionHeader => "extensions have no header row"
  | .kindWithoutCell kind => kind.keyword ++ " entities have no kind cell"
  | .inoutCount => "inout type without exactly one argument"

/-- The cell that shows a kind. -/
def EntityKind.cell (kind : EntityKind) : Except LayoutError Cell :=
  match kind.cell? with
  | some cell => .ok cell
  | none => .error (.kindWithoutCell kind)

/-- Names with one word in front of the first and another in front of the others. -/
def wordedNames (first other : Cell) : List String → Row
  | [] => []
  | name :: rest => first :: ⟨name⟩ :: rest.flatMap fun next => [other, ⟨next⟩]

namespace Entity

/-- The cell of an entity's name. -/
def nameCell (entity : Entity) : Cell :=
  ⟨entity.name⟩

/-- The descriptors of an entity joined into one run of cells. -/
def descriptorCells (entity : Entity) : Row :=
  Phrase.join (entity.descriptors.map Descriptor.phrase)

/-- What follows the kind in a header: the generic parameters and requirements of a generic
entity, or else the descriptors. -/
def headerDetails (entity : Entity) : Row :=
  if entity.isGeneric then
    wordedNames Cell.ofWord Cell.andWord entity.genericArguments ++
      (if entity.requirements.isEmpty then []
       else Cell.whereWord :: Phrase.join (entity.requirements.map Requirement.phrase))
  else if entity.descriptors.isEmpty then []
  else Cell.andWord :: entity.descriptorCells

/-- The header row: the name, the kind and what the header says beyond them. -/
def header (entity : Entity) : Except LayoutError Row :=
  match entity.kind.cell? with
  | some kind => .ok (entity.nameCell :: Cell.isWord :: kind :: entity.headerDetails)
  | none => .error .extensionHeader

/-- The row that names the members, if there are any. -/
def membersRow? (entity : Entity) : Option Row :=
  if entity.children.isEmpty then none
  else some (entity.nameCell ::
    wordedNames Cell.hasWord Cell.andWord (entity.children.map Entity.name))

/-- A row per predicate, each starting with the name. Generic entities and extensions have no
room for descriptors in a header, so these come first in a row of their own. -/
def predicateRows (entity : Entity) : List Row :=
  (if (entity.isGeneric || entity.isExtension) && !entity.descriptors.isEmpty then
    [entity.nameCell :: Cell.isWord :: entity.descriptorCells]
   else []) ++
  entity.predicates.map fun predicate => entity.nameCell :: predicate.cells

/-- The predicate rows and then the row that names the members. -/
def predicateAndMemberRows (entity : Entity) : List Row :=
  entity.predicateRows ++ entity.membersRow?.toList

/-- Rows that each stand one cell further in, after a blank row. -/
def indented (rows : List Row) : Grid :=
  rows.flatMap fun row => [[], Cell.blank :: row]

/-- The rows of an entity with its members in one row. The rows of an extension stand at the left
edge with blank rows between them. -/
def flat (entity : Entity) : Except LayoutError Grid :=
  if entity.isExtension then
    .ok (entity.predicateAndMemberRows.intersperse [])
  else do
    let header ← entity.header
    return header :: indented entity.predicateAndMemberRows

/-- Rows that go on with what stands above them: each has an ellipsis in front and is followed by
a row with nothing but an ellipsis. -/
def continued (rows : List Row) : Grid :=
  rows.flatMap fun row => [Cell.ellipsis :: Cell.blank :: row, [Cell.ellipsis]]

/-- The rows of a member: its header, a filler, and its predicate rows. -/
def memberRows (entity : Entity) : Except LayoutError Grid := do
  let header ← entity.header
  return header :: [Cell.andWord] :: continued entity.predicateRows

/-- The first row of an entity with members and the predicate rows that come after it. An
extension starts with its name and its first predicate. -/
def opening (entity : Entity) : Except LayoutError (Row × List Row) :=
  if entity.isExtension then
    .ok (entity.nameCell :: Cell.blank :: entity.predicateRows.headD [],
      entity.predicateRows.drop 1)
  else do
    let header ← entity.header
    return (header, entity.predicateRows)

/-- The rows of an entity with a block of rows for every member, before the fillers at the end are
blanked. -/
def draft (entity : Entity) : Except LayoutError Grid := do
  let (first, rest) ← entity.opening
  let members ← entity.children.mapM memberRows
  return first :: [Cell.hasWord] :: continued rest ++ members.flatten

/-- The rows of an entity with a block of rows for every member, closed by a blank row. -/
def hierarchical (entity : Entity) : Except LayoutError Grid :=
  if entity.children.isEmpty then
    if entity.isExtension then do
      let rows ← entity.flat
      return rows ++ [[]]
    else do
      let header ← entity.header
      return header :: indented entity.predicateRows ++ [[]]
  else do
    let rows ← entity.draft
    return Grid.collapseFillers rows ++ [[]]

end Entity

end WordGrid
