import WordGrid.TypeExpr

/-!
# Requirements

A generic declaration may require that one type conforms to another or that two types are equal.
-/

namespace WordGrid

/-- How the two sides of a requirement are related. -/
inductive Relation where
  | equals
  | conforms
  deriving DecidableEq, Repr

/-- The cell between the two sides. -/
def Relation.cell : Relation → Cell
  | .equals => Cell.isWord
  | .conforms => Cell.isaWord

/-- A requirement between two types. -/
structure Requirement where
  left : TypeExpr
  relation : Relation
  right : TypeExpr

namespace Requirement

/-- The wording of a requirement ends as its right side does. -/
def phrase (requirement : Requirement) : Phrase :=
  ⟨requirement.left.cells ++ requirement.relation.cell :: requirement.right.cells,
    requirement.right.trailing⟩

/-- The cells of a requirement. -/
def cells (requirement : Requirement) : Row :=
  requirement.phrase.cells

end Requirement

end WordGrid
