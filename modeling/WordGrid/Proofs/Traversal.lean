import WordGrid.Proofs.Absence
import WordGrid.Proofs.Notices

/-!
# Walks from declaration to declaration

A walk comes to the declarations of a tree from the top down and from left to right and does not
look for more below one. `Node.declarations` lists them, and a walk is an attempt at each in turn
(`Node.walk_eq_concat`). `Visit` is the same walk as a loop: it keeps the nodes that are still to be
visited on a stack and collects as it goes. A step of the loop changes nothing in what is promised
by the state (`Visit.promised_next`), so the loop ends with what the walk gives (`Visit.run_eq`).

Read `Node.walkInTurn_preorder` first: it says what is collected when trees are walked in turn.
-/

namespace WordGrid

/-! ## Progress in a row -/

namespace Progress

theorem append_assoc (first second third : Progress) :
    (first.append second).append third = first.append (second.append third) := by
  obtain ⟨entities, notices, _ | failure⟩ := first
  · obtain ⟨entities', notices', _ | failure'⟩ := second <;> simp [append]
  · rfl

theorem append_empty (progress : Progress) : progress.append empty = progress := by
  obtain ⟨entities, notices, _ | failure⟩ := progress <;> simp [append, empty]

theorem concat_append (first second : List Progress) :
    concat (first ++ second) = (concat first).append (concat second) := by
  induction first with
  | nil => simp [concat, append, empty]
  | cons head rest ih => rw [List.cons_append, concat, concat, ih, append_assoc]

/-- What results in a row give: the entities up to the first failure, and that failure. -/
def upToFailure : List (Except Failure (List Entity)) → List Entity × Option Failure
  | [] => ([], none)
  | .ok entities :: rest => (entities ++ (upToFailure rest).1, (upToFailure rest).2)
  | .error failure :: _ => ([], some failure)

/-- An attempt gives what its reading settles on, and nothing if that is a drop. -/
theorem result_attempt (subject : Attempt) (reading : Reading (List Entity)) :
    (attempt subject reading).reading.result = (settled reading.result).getD (.ok []) := by
  obtain ⟨notices, (cause | error | error) | entities⟩ := reading <;> rfl

/-- An attempt that ends the walk collects nothing. -/
theorem entities_attempt_of_abort {subject : Attempt} {reading : Reading (List Entity)}
    (h : (attempt subject reading).abort ≠ none) : (attempt subject reading).entities = [] := by
  obtain ⟨notices, (cause | error | error) | entities⟩ := reading
  · rfl
  · rfl
  · rfl
  · exact absurd rfl h

/-- Walks in a row, of which none collects anything and is then ended, give what they give one by
one up to the first that is ended. -/
theorem outcome_concat {walks : List Progress}
    (h : ∀ walk ∈ walks, walk.abort ≠ none → walk.entities = []) :
    (concat walks).outcome = upToFailure (walks.map (·.reading.result)) := by
  induction walks with
  | nil => rfl
  | cons first rest ih =>
      have hrest := ih fun walk hmem => h walk (List.mem_cons_of_mem _ hmem)
      have hfirst := h first List.mem_cons_self
      obtain ⟨entities, notices, _ | failure⟩ := first
      · show (entities ++ (concat rest).entities, (concat rest).abort) =
          upToFailure (.ok entities :: rest.map (·.reading.result))
        rw [upToFailure, ← hrest]
        rfl
      · obtain rfl : entities = [] := hfirst (Option.some_ne_none failure)
        rfl

end Progress

namespace Node

/-! ## The declarations that a walk comes to -/

mutual

/-- The declarations of a tree from the top down and from left to right, without those below
another one. -/
def declarations (scope : Scope) : Node → List Node
  | ⟨label, children⟩ =>
      match scope.declForm? label.kind with
      | some _ => [⟨label, children⟩]
      | none => declarationsAmong scope children

/-- The declarations of the named nodes of a list. -/
def declarationsAmong (scope : Scope) : List Node → List Node
  | [] => []
  | node :: rest =>
      if node.isNamed then node.declarations scope ++ declarationsAmong scope rest
      else declarationsAmong scope rest

end

mutual

/-- A walk tries the declarations of a tree one after the other. -/
theorem walk_eq_concat (scope : Scope) : (root : Node) →
    root.walk scope = .concat ((root.declarations scope).map (walk scope))
  | ⟨label, children⟩ => by
      rw [declarations]
      cases hform : scope.declForm? label.kind with
      | none =>
          rw [walk_of_declForm?_none hform]
          exact walkAll_eq_concat scope children
      | some form => exact (Progress.append_empty _).symm

theorem walkAll_eq_concat (scope : Scope) : (nodes : List Node) →
    walkAll scope nodes = .concat ((declarationsAmong scope nodes).map (walk scope))
  | [] => rfl
  | node :: rest => by
      rw [walkAll, declarationsAmong, walkAll_eq_concat scope rest]
      split
      · rw [walk_eq_concat scope node, List.map_append, Progress.concat_append]
      · rfl

end

mutual

/-- What is listed as a declaration is one. -/
theorem declForm?_of_mem_declarations {scope : Scope} {node : Node} : (root : Node) →
    node ∈ root.declarations scope → ∃ form, scope.declForm? node.kind = some form
  | ⟨label, children⟩, hmem => by
      rw [declarations] at hmem
      split at hmem
      · next form hform =>
        obtain rfl := List.mem_singleton.mp hmem
        exact ⟨form, hform⟩
      · exact declForm?_of_mem_declarationsAmong children hmem

theorem declForm?_of_mem_declarationsAmong {scope : Scope} {node : Node} : (nodes : List Node) →
    node ∈ declarationsAmong scope nodes → ∃ form, scope.declForm? node.kind = some form
  | [], hmem => absurd hmem List.not_mem_nil
  | first :: rest, hmem => by
      rw [declarationsAmong] at hmem
      split at hmem
      · rcases List.mem_append.mp hmem with hfirst | hrest
        · exact declForm?_of_mem_declarations first hfirst
        · exact declForm?_of_mem_declarationsAmong rest hrest
      · exact declForm?_of_mem_declarationsAmong rest hmem

end

/-- On its own, a declaration gives the entities that are read off it, nothing if it is dropped, and
otherwise the failure. -/
theorem outline_of_declForm? {scope : Scope} {form : DeclForm} {node : Node}
    (hform : scope.declForm? node.kind = some form) :
    (node.outline scope).result =
      (settled (node.declarationEntities scope form
        (walkMembers scope node.children).reading).result).getD (.ok []) := by
  rw [outline, walk_of_declForm? hform, Progress.result_attempt]

/-- A walk gives what the declarations of the tree give on their own, up to the first that fails
otherwise than by a drop. -/
theorem walk_outcome (scope : Scope) (root : Node) :
    (root.walk scope).outcome =
      Progress.upToFailure ((root.declarations scope).map fun node =>
        (node.outline scope).result) := by
  rw [walk_eq_concat, Progress.outcome_concat, List.map_map]
  · rfl
  · intro walk hwalk habort
    obtain ⟨node, hnode, rfl⟩ := List.mem_map.mp hwalk
    obtain ⟨form, hform⟩ := declForm?_of_mem_declarations root hnode
    rw [walk_of_declForm? hform] at habort ⊢
    exact Progress.entities_attempt_of_abort habort

/-! ## A walk as a loop -/

/-- The named nodes of a list are walked one after the other. -/
theorem walkAll_eq_concat_filter (scope : Scope) (nodes : List Node) :
    walkAll scope nodes = .concat ((nodes.filter isNamed).map (walk scope)) := by
  induction nodes with
  | nil => rfl
  | cons node rest ih =>
      rw [walkAll, List.filter_cons, ih]
      split <;> rfl

mutual

/-- The number of nodes of a tree. -/
def count : Node → Nat
  | ⟨_, children⟩ => counts children + 1

/-- The number of nodes of some trees. -/
def counts : List Node → Nat
  | [] => 0
  | node :: rest => node.count + counts rest

end

theorem counts_append (first second : List Node) :
    counts (first ++ second) = counts first + counts second := by
  induction first with
  | nil => simp [counts]
  | cons head rest ih => rw [List.cons_append, counts, counts, ih, Nat.add_assoc]

theorem counts_filter_le (test : Node → Bool) (nodes : List Node) :
    counts (nodes.filter test) ≤ counts nodes := by
  induction nodes with
  | nil => exact Nat.le_refl _
  | cons first rest ih =>
      rw [List.filter_cons]
      split <;> simp only [counts] <;> omega

/-- Children that are picked out have fewer nodes than their parent. -/
theorem counts_filter_children_lt (test : Node → Bool) (node : Node) :
    counts (node.children.filter test) < node.count := by
  obtain ⟨label, children⟩ := node
  rw [count]
  exact Nat.lt_succ_of_le (counts_filter_le test children)

/-- The named children of a node have fewer nodes than the node. -/
theorem counts_namedChildren_lt (node : Node) : counts node.namedChildren < node.count :=
  node.counts_filter_children_lt isNamed

end Node

/-- A walk that is under way: the nodes that are still to be visited, the next one first, and what
has been collected. -/
structure Visit where
  pending : List Node
  progress : Progress

namespace Visit

/-- Visit the next node. A declaration is tried; any other node makes way for its named children.
The walk is over when no node is left or a failure has ended it. -/
def next (scope : Scope) (visit : Visit) : Option Visit :=
  match visit.progress.abort, visit.pending with
  | none, node :: pending =>
      match scope.declForm? node.kind with
      | none => some ⟨node.namedChildren ++ pending, visit.progress⟩
      | some form =>
          some ⟨pending, visit.progress.append (.attempt (.declaration node)
            (node.declarationEntities scope form (Node.walkMembers scope node.children).reading))⟩
  | _, _ => none

/-- Visit so many nodes, or fewer if the walk is over before. -/
def run (scope : Scope) : Nat → Visit → Visit
  | 0, visit => visit
  | fuel + 1, visit =>
      match visit.next scope with
      | none => visit
      | some following => run scope fuel following

/-- What has been collected when the nodes that are left have been walked too. -/
def promised (scope : Scope) (visit : Visit) : Progress :=
  visit.progress.append (.concat (visit.pending.map (Node.walk scope)))

variable {scope : Scope} {visit following : Visit}

/-- What a visit can do next. -/
theorem next_cases (h : visit.next scope = some following) :
    ∃ node pending, visit.pending = node :: pending ∧
      ((scope.declForm? node.kind = none ∧
          following = ⟨node.namedChildren ++ pending, visit.progress⟩) ∨
        (scope.declForm? node.kind ≠ none ∧
          following = ⟨pending, visit.progress.append (node.walk scope)⟩)) := by
  obtain ⟨pending, progress⟩ := visit
  unfold next at h
  split at h
  · next node pending _ hpending =>
    refine ⟨node, pending, hpending, ?_⟩
    split at h
    · next hform => exact .inl ⟨hform, (Option.some.inj h).symm⟩
    · next form hform =>
      refine .inr ⟨by simp [hform], ?_⟩
      rw [Node.walk_of_declForm? hform]
      exact (Option.some.inj h).symm
  · cases h

/-- A step keeps what is promised. -/
theorem promised_next (h : visit.next scope = some following) :
    following.promised scope = visit.promised scope := by
  obtain ⟨node, pending, hpending, ⟨hform, rfl⟩ | ⟨_, rfl⟩⟩ := next_cases h
  · have hnode : node.walk scope = .concat (node.namedChildren.map (Node.walk scope)) := by
      rw [Node.walk_of_declForm?_none hform, Node.walkAll_eq_concat_filter, Node.namedChildren]
    rw [promised, promised, hpending, List.map_append, Progress.concat_append, List.map_cons,
      Progress.concat, hnode]
  · rw [promised, promised, hpending, List.map_cons, Progress.concat, Progress.append_assoc]

/-- A step leaves fewer nodes. -/
theorem counts_next (h : visit.next scope = some following) :
    Node.counts following.pending < Node.counts visit.pending := by
  obtain ⟨node, pending, hpending, ⟨_, rfl⟩ | ⟨_, rfl⟩⟩ := next_cases h
  · have hlt := node.counts_namedChildren_lt
    rw [hpending, Node.counts_append, Node.counts]
    omega
  · have hlt := node.counts_namedChildren_lt
    show Node.counts pending < Node.counts visit.pending
    rw [hpending, Node.counts]
    omega

/-- A walk that is over has collected what was promised. -/
theorem promised_of_next_none (h : visit.next scope = none) :
    visit.promised scope = visit.progress := by
  obtain ⟨pending, entities, notices, _ | failure⟩ := visit
  · cases pending with
    | nil => exact Progress.append_empty _
    | cons node pending =>
        unfold next at h
        simp only at h
        split at h <;> cases h
  · rfl

/-- The loop comes to an end after as many steps as there are nodes at most, and has then collected
what the walks over the pending nodes give. -/
theorem run_eq (scope : Scope) {visit : Visit} {fuel : Nat}
    (hfuel : Node.counts visit.pending ≤ fuel) :
    (visit.run scope fuel).next scope = none ∧
      (visit.run scope fuel).progress = visit.promised scope := by
  induction fuel generalizing visit with
  | zero =>
      have hnext : visit.next scope = none := by
        cases h : visit.next scope with
        | none => rfl
        | some following => exact absurd (counts_next h) (by omega)
      exact ⟨hnext, (promised_of_next_none hnext).symm⟩
  | succ fuel ih =>
      rw [run]
      cases h : visit.next scope with
      | none => exact ⟨h, (promised_of_next_none h).symm⟩
      | some following =>
          have hlt := counts_next h
          rw [← promised_next h]
          exact ih (by omega)

end Visit

/-! ## Walking trees in turn -/

namespace Node

/-- The entities that have been collected when some trees have been walked in turn. -/
def kept (scope : Scope) (collected : List Entity) (roots : List Node) : List Entity :=
  ((walkInTurn scope collected roots).getLast?.map Progress.entities).getD collected

theorem kept_cons (scope : Scope) (collected : List Entity) (root : Node) (rest : List Node) :
    kept scope collected (root :: rest) =
      kept scope (collected ++ (root.walk scope).entities) rest := by
  unfold kept
  rw [walkInTurn, List.getLast?_cons]
  cases (walkInTurn scope (collected ++ (root.walk scope).entities) rest).getLast? <;> rfl

/-- The walk over a tree goes on with what was collected before, and adds what a walk over the tree
alone gives. -/
theorem walkInTurn_getElem? (scope : Scope) (collected : List Entity) (earlier later : List Node)
    (root : Node) :
    (walkInTurn scope collected (earlier ++ root :: later))[earlier.length]? =
      some { root.walk scope with
        entities := kept scope collected earlier ++ (root.walk scope).entities } := by
  induction earlier generalizing collected with
  | nil => rfl
  | cons first rest ih =>
      rw [List.cons_append, walkInTurn, List.length_cons, List.getElem?_cons_succ, ih, kept_cons]

/-- Trees are walked in turn, each with what has been collected before. The walk over a tree adds
what its declarations give on their own, one after the other, up to the first that fails otherwise
than by a drop, and this failure is that of the walk; nothing of it depends on the trees before. The
loop that visits the nodes from a stack comes to an end with just that. What a declaration gives on
its own is what is read off it: its entities, nothing if it is dropped, and otherwise the
failure. -/
theorem walkInTurn_preorder (scope : Scope) (collected : List Entity) (earlier later : List Node)
    (root : Node) :
    let before := kept scope collected earlier
    let given := Progress.upToFailure ((root.declarations scope).map fun node =>
      (node.outline scope).result)
    let step : Progress := ⟨before ++ given.1, (root.outline scope).notices, given.2⟩
    let last := Visit.run scope root.count ⟨[root], ⟨before, [], none⟩⟩
    (walkInTurn scope collected (earlier ++ root :: later))[earlier.length]? = some step ∧
      last.next scope = none ∧ last.progress = step ∧
      ∀ node ∈ root.declarations scope, ∃ form, scope.declForm? node.kind = some form ∧
        (node.outline scope).result =
          (settled (node.declarationEntities scope form
            (walkMembers scope node.children).reading).result).getD (.ok []) := by
  intro before given step last
  have hgiven : given = ((root.walk scope).entities, (root.walk scope).abort) :=
    (walk_outcome scope root).symm
  have hstep : step = { root.walk scope with
      entities := before ++ (root.walk scope).entities } := by
    simp only [step, hgiven, outline, Progress.notices_reading]
  have hcount : Node.counts [root] ≤ root.count := Nat.le_refl _
  obtain ⟨hlast, hprogress⟩ : last.next scope = none ∧
      last.progress = Visit.promised scope ⟨[root], ⟨before, [], none⟩⟩ :=
    Visit.run_eq scope hcount
  refine ⟨?_, hlast, hprogress.trans ?_, fun node hmem => ?_⟩
  · rw [walkInTurn_getElem?, hstep]
  · rw [hstep, Visit.promised, List.map_singleton, Progress.concat, Progress.concat,
      Progress.append_empty]
    rfl
  · obtain ⟨form, hform⟩ := declForm?_of_mem_declarations root hmem
    exact ⟨form, hform, outline_of_declForm? hform⟩

end Node

end WordGrid
