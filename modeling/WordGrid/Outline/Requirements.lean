import WordGrid.Grammar.Generics
import WordGrid.Outline.Types

/-!
# Reading requirements

The requirements of a generic declaration are the bounds of its parameters followed by the
constraints of its `where` clauses.
-/

namespace WordGrid

/-- The requirement that a type with a name conforms to another type. -/
def Requirement.bound (name : String) (right : Except Failure TypeExpr) :
    Except Failure Requirement := do
  let left ← (TypeExpr.named? name []).mapError .shape
  let right ← right
  return ⟨left, .conforms, right⟩

namespace Node

/-- The type on the left of a constraint: a plain name, or a single type. A longer path such as
`T.Element` has no summary. -/
def constrainedType (constraint : Node) (left : List Node) : Except Failure TypeExpr :=
  match constrainedName? left with
  | some name => (TypeExpr.named? name []).mapError .shape
  | none =>
      match left with
      | [node] => if node.isType then node.typeExpr else .error (.unsupportedType constraint)
      | _ => .error (.unsupportedType constraint)

/-- The requirement that a constraint states. -/
def requirement (node : Node) : Except Failure Requirement :=
  let parts := node.constraintParts
  match parts.relation, parts.left, parts.right with
  | some relation, first :: rest, [right] => do
      let left ← node.constrainedType (first :: rest)
      let right ← right.typeExpr
      return ⟨left, relation, right⟩
  | _, _, _ => .error (.unsupportedRequirement node)

/-- The requirements that the bounds of the generic parameters state. -/
def boundRequirements (node : Node) : Except Failure (List Requirement) :=
  (node.genericParameters.filterMap fun parameter =>
    parameter.bound.map fun bound => (parameter.name, bound)).mapM fun (name, bound) =>
      Requirement.bound name bound.typeExpr

/-- The requirements that the `where` clauses state. -/
def whereRequirements (node : Node) : Except Failure (List Requirement) :=
  node.whereConstraints.mapM requirement

/-- All requirements of a declaration. -/
def requirements (node : Node) : Except Failure (List Requirement) := do
  let bounds ← node.boundRequirements
  let constraints ← node.whereRequirements
  return bounds ++ constraints

/-- The names of the generic parameters of a declaration. -/
def genericArguments (node : Node) : List String :=
  node.genericParameters.map GenericParameter.name

end Node

end WordGrid
