import WordGrid.Grammar.TypeForm
import WordGrid.Requirement

/-!
# Generic parameters and constraints

The generic parameters of a declaration, the constraints of its `where` clauses, and the two
sides of a constraint.
-/

namespace WordGrid

/-- A generic parameter with the type that bounds it. -/
structure GenericParameter where
  name : String
  bound : Option Node

/-- The two sides of a constraint around its operator. -/
structure ConstraintParts where
  relation : Option Relation
  left : List Node
  right : List Node

/-- The relation that an operator of a constraint states. -/
def Relation.ofOperator? : String → Option Relation
  | ":" => some .conforms
  | "==" => some .equals
  | "=" => some .equals
  | _ => none

namespace Node

/-- The generic parameters of a declaration. A parameter without a name is left out. -/
def genericParameters (node : Node) : List GenericParameter :=
  match node.firstNamedOf? ["type_parameters"] with
  | none => []
  | some list =>
      (list.namedOf ["type_parameter"]).filterMap fun parameter => do
        let name ← parameter.firstNamedOf? ["type_identifier", "simple_identifier"]
        return ⟨name.text, parameter.firstType?⟩

/-- Is the node a constraint of a `where` clause? -/
def isConstraint (node : Node) : Bool :=
  node.isOneOf ["inheritance_constraint", "equality_constraint"]

/-- The constraints of a `where` clause. -/
def clauseConstraints (clause : Node) : List Node :=
  clause.namedChildren.flatMap fun child =>
    if child.kind == "type_constraint" then child.namedChildren.filter isConstraint
    else if child.isConstraint then [child]
    else []

/-- The constraints of a declaration: those among its generic parameters and then those of its
own `where` clauses. -/
def whereConstraints (node : Node) : List Node :=
  let inner :=
    match node.firstNamedOf? ["type_parameters"] with
    | some list => list.namedOf ["type_constraints"]
    | none => []
  (inner ++ node.namedOf ["type_constraints"]).flatMap clauseConstraints

/-- The relation that a node states if it is the operator of a constraint. -/
def operator? (node : Node) : Option Relation :=
  if node.isNamed then none else Relation.ofOperator? node.kind

/-- The nodes of one side of a constraint. -/
def constraintSide (nodes : List Node) : List Node :=
  nodes.filter fun node => node.isNamed && node.kind != "attribute"

/-- Split a constraint at its first operator. A node that is no constraint has no parts. -/
def constraintParts (node : Node) : ConstraintParts :=
  if node.isConstraint then
    let before := node.children.takeWhile (·.operator?.isNone)
    let rest := node.children.dropWhile (·.operator?.isNone)
    ⟨rest.head?.bind operator?, constraintSide before, constraintSide (rest.drop 1)⟩
  else ⟨none, [], []⟩

/-- The node that has the name on the left of a constraint, if that side is one plain identifier. -/
def constrainedNode? : List Node → Option Node
  | [node] =>
      if node.isIdentifier then some node
      else if node.kind == "identifier" then soleName? node.namedChildren
      else none
  | _ => none

/-- The name on the left of a constraint, if that side is one plain identifier. -/
def constrainedName? (nodes : List Node) : Option String :=
  (constrainedNode? nodes).map text

end Node

end WordGrid
