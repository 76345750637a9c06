import WordGrid.Grammar.TypeForm
import WordGrid.Text.Blank

/-!
# Type slots

A type stands in a slot: a parameter, an annotation, an element of a tuple. The marks `inout` and
`!` belong to the type but stand beside its node, so a slot holds the node together with them.
-/

namespace WordGrid

/-- A type with the marks that stand beside it. -/
structure TypeSlot where
  node : Node
  inout : Bool := false
  unwrapped : Bool := false

namespace Node

/-- Do the nodes start with the mark of an implicitly unwrapped optional? -/
def startsWithBang (nodes : List Node) : Bool :=
  nodes.head?.any (isToken "!")

/-- The first node that is accepted, and whether the mark `!` follows it. -/
def firstMarked? (accept : Node → Bool) : List Node → Option (Node × Bool)
  | [] => none
  | node :: rest =>
      if accept node then some (node, startsWithBang rest) else firstMarked? accept rest

/-- Does a modifier of the node say `inout`? -/
def hasInout (node : Node) : Bool :=
  (node.namedOf ["parameter_modifiers", "parameter_modifier", "type_modifiers"]).any fun modifier =>
    (Text.words modifier.text).contains "inout"

/-- The slot of the first type that is a named child. -/
def slot? (node : Node) : Option TypeSlot :=
  (firstMarked? (fun child => child.isNamed && child.isType) node.children).map
    fun (type, marked) => ⟨type, node.hasInout, marked⟩

/-- The children after the first occurrence of a token. -/
def childrenAfter (token : String) (node : Node) : List Node :=
  (node.children.dropWhile (!·.isToken token)).drop 1

/-- The slot of the first type after a token. -/
def slotAfter? (token : String) (node : Node) : Option TypeSlot :=
  (firstMarked? isType (node.childrenAfter token)).map
    fun (type, marked) => ⟨type, false, marked⟩

/-- The named nodes of a list in parentheses, each with whether the mark `!` follows it. A named
node right after an equals sign is a default or raw value and is left out; the flag says that the
token before was an equals sign. -/
def entries (afterEquals : Bool) : List Node → List (Node × Bool)
  | [] => []
  | node :: rest =>
      if !node.isNamed then entries (node.kind == "=") rest
      else if afterEquals then entries false rest
      else (node, startsWithBang rest) :: entries false rest

/-- The named nodes of a list in parentheses, without default and raw values. -/
def entryNodes (nodes : List Node) : List Node :=
  (entries false nodes).map Prod.fst

/-- The slot of an entry: none at all for a label, and an empty one for an item without a type. -/
def entrySlot? (entry : Node × Bool) : Option (Option TypeSlot) :=
  if entry.1.isOneOf ["tuple_type_item", "parameter"] then some entry.1.slot?
  else if entry.1.isType then some (some ⟨entry.1, false, entry.2⟩)
  else none

/-- The slots among the nodes of a list in parentheses. -/
def slotsAmong (nodes : List Node) : List (Option TypeSlot) :=
  (entries false nodes).filterMap entrySlot?

/-- The slots of a list in parentheses: the elements of a tuple or the values of an enum case. -/
def elementSlots (node : Node) : List (Option TypeSlot) :=
  slotsAmong node.children

/-- The result of a function type: the first type after the arrow. -/
def functionResult? (node : Node) : Option Node :=
  (node.childrenAfter "->").find? fun child => child.isNamed && child.isType

/-- May a node before the arrow of a function type hold its parameters, or does it merely modify
the function? -/
def isHolder (node : Node) : Bool :=
  node.isNamed && !node.isOneOf ["attribute", "type_modifiers", "throws", "async"]

/-- The first node of a list that holds parameters, before the arrow. -/
def holderAmong? (nodes : List Node) : Option Node :=
  (nodes.takeWhile (!·.isToken "->")).find? isHolder

/-- The slots of the parameters that a node holds. They are a list in parentheses or a single
type. -/
def heldSlots? (holder : Node) : Option (List (Option TypeSlot)) :=
  if holder.kind == "tuple_type" || "parameters".toList.isSuffixOf holder.kind.toList then
    some holder.elementSlots
  else if holder.isType then some [some ⟨holder, false, false⟩]
  else none

/-- The slots of the parameters of a function type, if the parameters can be found. -/
def functionSlots? (node : Node) : Option (List (Option TypeSlot)) :=
  (holderAmong? node.children).bind heldSlots?

end Node

end WordGrid
