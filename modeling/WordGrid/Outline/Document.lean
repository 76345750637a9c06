import WordGrid.Layout.Sheet
import WordGrid.Outline.Walk
import WordGrid.Source

/-!
# Documents

A document is a source file with its syntax tree. `Document.entities` summarises its declarations,
and `Document.grid` lays the summary out.
-/

namespace WordGrid

/-- A source file with its syntax tree. The texts and lines of the tree are those of the source. -/
structure Document where
  source : Source
  tree : Node

namespace Document

/-- The tree with the text and the line of every node. -/
def root (document : Document) : Node :=
  document.source.annotate document.tree

/-- The notice that the source has syntax errors, if the tree says so. -/
def syntaxNotices (document : Document) (path : Option String) : List Notice :=
  if document.root.label.hasError then
    [.syntaxErrors path (document.root.firstFault?.map Node.line)]
  else []

/-- The entities of a document's declarations. The path is only told in notices. -/
def entities (document : Document) (imports : Bool) (path : Option String) :
    Reading (List Entity) := do
  (⟨document.syntaxNotices path, .ok ()⟩ : Reading Unit)
  document.root.outline ⟨imports, false⟩

/-- The grid of a document's declarations. -/
def grid (document : Document) (imports banner : Bool) (path : Option String) : Reading Grid := do
  let entities ← document.entities imports path
  Reading.ofResult ((Grid.ofEntities entities banner).mapError .layout)

end Document

end WordGrid
