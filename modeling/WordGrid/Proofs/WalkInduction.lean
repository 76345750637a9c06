import WordGrid.Outline.Walk

/-!
# Induction over a walk

A walk is put together from empty walks, walks in a row, and attempts at declarations whose
members have been walked before. `Node.walk_induction` says so once: what holds of the empty walk,
is kept by walking one thing after another, passes from a child to its parent, and is kept by an
attempt, holds of every walk. The property may depend on where the walk stands and on the tree.
-/

namespace WordGrid.Node

/-- What a property of walks must satisfy to hold of all of them. -/
structure WalkInvariant (P : Scope → Node → Progress → Prop) : Prop where
  empty (scope : Scope) (root : Node) : P scope root .empty
  append {scope : Scope} {root : Node} {first second : Progress} :
    P scope root first → P scope root second → P scope root (first.append second)
  child {scope : Scope} {root child : Node} {progress : Progress} :
    child ∈ root.children → P scope child progress → P scope root progress
  attempt {scope : Scope} {root : Node} {form : DeclForm} {members : Progress} :
    scope.declForm? root.kind = some form → P { scope with nested := true } root members →
    P scope root (.attempt (.declaration root)
      (declarationEntities scope form members.reading root))

variable {P : Scope → Node → Progress → Prop}

mutual

/-- A walk over a tree has every property that steps of a walk keep. -/
theorem walk_induction (hP : WalkInvariant P) (scope : Scope) :
    (root : Node) → P scope root (root.walk scope)
  | ⟨label, children⟩ => by
      rw [walk]
      split
      · exact walkAll_induction hP scope ⟨label, children⟩ children fun _ hmem => hmem
      · next form hform =>
        exact hP.attempt hform
          (walkMembers_induction hP scope ⟨label, children⟩ children fun _ hmem => hmem)

/-- A walk over some children of a node has every property that steps of a walk keep. -/
theorem walkAll_induction (hP : WalkInvariant P) (scope : Scope) (root : Node) :
    (nodes : List Node) → (∀ node ∈ nodes, node ∈ root.children) →
      P scope root (walkAll scope nodes)
  | [], _ => hP.empty scope root
  | node :: rest, hnodes => by
      have hrest := walkAll_induction hP scope root rest fun other hmem =>
        hnodes other (List.mem_cons_of_mem _ hmem)
      rw [walkAll]
      split
      · exact hP.append (hP.child (hnodes node List.mem_cons_self) (walk_induction hP scope node))
          hrest
      · exact hrest

/-- The walk over the members among some children of a node has every property that steps of a walk
keep. -/
theorem walkMembers_induction (hP : WalkInvariant P) (scope : Scope) (root : Node) :
    (nodes : List Node) → (∀ node ∈ nodes, node ∈ root.children) →
      P { scope with nested := true } root (walkMembers scope nodes)
  | [], _ => hP.empty _ root
  | node :: rest, hnodes => by
      rw [walkMembers]
      split
      · exact hP.child (hnodes node List.mem_cons_self)
          (walk_induction hP { scope with nested := true } node)
      · exact walkMembers_induction hP scope root rest fun other hmem =>
          hnodes other (List.mem_cons_of_mem _ hmem)

end

end WordGrid.Node
