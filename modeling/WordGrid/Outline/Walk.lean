import WordGrid.Outline.Declarations

/-!
# Walking a tree

A walk visits a syntax tree from the top down and from left to right, and tries to summarise every
declaration it meets. It does not go on below a declaration; the members of a type are walked when
the type is summarised, and become its children.
-/

namespace WordGrid.Node

mutual

/-- Walk a tree. -/
def walk (scope : Scope) : Node → Progress
  | ⟨label, children⟩ =>
      match scope.declForm? label.kind with
      | none => walkAll scope children
      | some form =>
          .attempt (.declaration ⟨label, children⟩)
            (declarationEntities scope form (walkMembers scope children).reading ⟨label, children⟩)

/-- Walk the named nodes of a list one after the other. -/
def walkAll (scope : Scope) : List Node → Progress
  | [] => .empty
  | node :: rest =>
      if node.isNamed then (node.walk scope).append (walkAll scope rest) else walkAll scope rest

/-- Walk the first block of members in a list. -/
def walkMembers (scope : Scope) : List Node → Progress
  | [] => .empty
  | node :: rest =>
      if node.isNamed && node.isMemberBlock then node.walk { scope with nested := true }
      else walkMembers scope rest

end

/-- The entities of all declarations in a tree. -/
def outline (scope : Scope) (root : Node) : Reading (List Entity) :=
  (root.walk scope).reading

/-- Walk several trees in turn and collect their entities in one list. The progress after each
tree has all entities so far, the notices of that tree, and the failure that ended its walk; the
next tree is walked all the same. -/
def walkInTurn (scope : Scope) (collected : List Entity) : List Node → List Progress
  | [] => []
  | root :: rest =>
      let progress := root.walk scope
      let collected := collected ++ progress.entities
      { progress with entities := collected } :: walkInTurn scope collected rest

end WordGrid.Node
