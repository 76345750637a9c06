/-!
# Syntax nodes

A syntax tree is made of labelled nodes. The label says what kind of node it is, which part of
the source it covers, and which children play a role that has a name of its own. A node is named
when the grammar has a rule for it; a token such as `->` is not. `Node.relabel` changes the labels
of a tree and keeps its shape.
-/

namespace WordGrid

/-- A range of bytes of the source, without its end. -/
structure Span where
  start : Nat
  stop : Nat
  deriving DecidableEq, Repr, Inhabited

/-- What a node says about itself. The text it covers and the line it starts on depend on the
source and are filled in by `Source.annotate`. -/
structure Label where
  kind : String
  span : Span
  named : Bool := true
  missing : Bool := false
  hasError : Bool := false
  /-- The roles that children play, each with the positions of the children that play it. -/
  fields : List (String × List Nat) := []
  text : String := ""
  line : Nat := 1
  deriving DecidableEq, Repr, Inhabited

/-- A node of a syntax tree. -/
structure Node where
  label : Label
  children : List Node
  deriving Inhabited

namespace Node

/-- The kind of a node, as the grammar names it. -/
def kind (node : Node) : String :=
  node.label.kind

/-- The text that a node covers. -/
def text (node : Node) : String :=
  node.label.text

/-- The line that a node starts on; the first line of a file is line 1. -/
def line (node : Node) : Nat :=
  node.label.line

/-- The bytes that a node covers. -/
def span (node : Node) : Span :=
  node.label.span

/-- Does the grammar have a rule for the node? -/
def isNamed (node : Node) : Bool :=
  node.label.named

/-- Is the node of one of these kinds? -/
def isOneOf (kinds : List String) (node : Node) : Bool :=
  kinds.contains node.kind

/-- Is the node this token? -/
def isToken (token : String) (node : Node) : Bool :=
  !node.isNamed && node.kind == token

/-- The children that are no tokens. -/
def namedChildren (node : Node) : List Node :=
  node.children.filter isNamed

/-- The named children of these kinds. -/
def namedOf (kinds : List String) (node : Node) : List Node :=
  node.namedChildren.filter (isOneOf kinds)

/-- The first named child of one of these kinds. -/
def firstNamedOf? (kinds : List String) (node : Node) : Option Node :=
  node.namedChildren.find? (isOneOf kinds)

/-- The children that play a role, in the order in which the label lists them. -/
def fieldChildren (role : String) (node : Node) : List Node :=
  ((node.label.fields.lookup role).getD []).filterMap (node.children[·]?)

/-- The child that plays a role; the first one if there are several. -/
def fieldChild? (role : String) (node : Node) : Option Node := do
  let positions ← node.label.fields.lookup role
  let position ← positions.head?
  node.children[position]?

/-- The node that is reached by stepping to the child at each position in turn. -/
def at? : List Nat → Node → Option Node
  | [], node => some node
  | position :: path, node => do at? path (← node.children[position]?)

mutual

/-- The number of nodes on the longest way down from a node, the node itself included. -/
def height : Node → Nat
  | ⟨_, children⟩ => heights children + 1

/-- The largest height in a list of nodes. -/
def heights : List Node → Nat
  | [] => 0
  | node :: rest => max node.height (heights rest)

end

mutual

/-- The same tree with other labels. -/
def relabel (change : Label → Label) : Node → Node
  | ⟨label, children⟩ => ⟨change label, relabelAll change children⟩

/-- The same trees with other labels. -/
def relabelAll (change : Label → Label) : List Node → List Node
  | [] => []
  | node :: rest => node.relabel change :: relabelAll change rest

end

/-- Other labels are given to a list of nodes one by one. -/
theorem relabelAll_eq_map (change : Label → Label) (nodes : List Node) :
    relabelAll change nodes = nodes.map (relabel change) := by
  induction nodes with
  | nil => rfl
  | cons first rest ih => simp [relabelAll, ih]

/-- Is the node an error, or a token that the parser had to make up? -/
def isFault (node : Node) : Bool :=
  node.kind == "ERROR" || node.label.missing

mutual

/-- The first fault of a tree from the top down and from left to right. Children that say they
hold no error are passed over. -/
def firstFault? : Node → Option Node
  | ⟨label, children⟩ =>
      if isFault ⟨label, children⟩ then some ⟨label, children⟩ else firstFaultAmong? children

/-- The first fault in a list of children. -/
def firstFaultAmong? : List Node → Option Node
  | [] => none
  | node :: rest =>
      if node.label.hasError || node.label.missing then
        node.firstFault?.or (firstFaultAmong? rest)
      else firstFaultAmong? rest

end

end Node

end WordGrid
