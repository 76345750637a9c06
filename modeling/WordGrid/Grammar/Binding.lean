import WordGrid.Grammar.Slot

/-!
# Bindings and case elements

One property declaration may bind several names, and one `case` may declare several elements.
Both lists are read from left to right: a name starts an item, and what follows up to the next
name belongs to it.
-/

namespace WordGrid

/-- A pattern that a property declaration binds, with the slot of its annotation. -/
structure Binding where
  pattern : Node
  slot : Option TypeSlot

/-- An element of an enum case with the node that lists its values. -/
structure CaseElement where
  name : String
  values : Option Node

namespace Node

/-- The patterns in the role `name`; if there are none, the named children that are patterns. -/
def bindingNames (node : Node) : List Node :=
  let names := node.fieldChildren "name"
  if names.isEmpty then node.namedOf ["pattern"] else names

/-- The pattern that holds the keyword of a property declaration. It is a child of the
declaration or of one of the names. -/
def keywordPattern? (node : Node) : Option Node :=
  (node.firstNamedOf? ["value_binding_pattern"]).or
    (node.bindingNames.findSome? (firstNamedOf? ["value_binding_pattern"]))

/-- The keyword of a property declaration: the last word of its keyword pattern. -/
def bindingKeyword? (node : Node) : Option String := do
  let pattern ← node.keywordPattern?
  let keyword := (pattern.fieldChild? "mutability").getD pattern
  (Text.words keyword.text).getLast?

/-- The node that has the name that a pattern binds, if the pattern is a single identifier. -/
def boundNode? (pattern : Node) : Option Node :=
  if pattern.kind == "simple_identifier" then some pattern
  else soleName? (pattern.namedChildren.filter (·.kind != "value_binding_pattern"))

/-- The name that a pattern binds, if the pattern is a single identifier. -/
def boundName? (pattern : Node) : Option String :=
  pattern.boundNode?.map text

/-- Does a child cover the same bytes as one of the names and have the kind of the first one? -/
def isBoundBy (names : List Node) (child : Node) : Bool :=
  (names.map span).contains child.span && names.head?.any (·.kind == child.kind)

/-- The slot of the first annotation with a type before the next name. -/
def annotation? (isName : Node → Bool) : List Node → Option TypeSlot
  | [] => none
  | node :: rest =>
      if isName node then none
      else if node.kind == "type_annotation" then node.slot?.or (annotation? isName rest)
      else annotation? isName rest

/-- The names among the nodes, each with its annotation. -/
def bindingsAmong (isName : Node → Bool) : List Node → List Binding
  | [] => []
  | node :: rest =>
      if isName node then ⟨node, annotation? isName rest⟩ :: bindingsAmong isName rest
      else bindingsAmong isName rest

/-- The bindings of a property declaration. -/
def bindings (node : Node) : List Binding :=
  bindingsAmong (isBoundBy node.bindingNames) node.children

/-- The elements among the nodes of a case. The last list of values before the next name belongs
to an element. -/
def caseElementsAmong : List Node → List CaseElement
  | [] => []
  | node :: rest =>
      if node.kind == "simple_identifier" then
        let own := rest.takeWhile (·.kind != "simple_identifier")
        ⟨node.text, (own.filter (isOneOf ["enum_type_parameters"])).getLast?⟩ ::
          caseElementsAmong rest
      else caseElementsAmong rest

/-- The elements of an enum case, without their raw values. -/
def caseElements (node : Node) : List CaseElement :=
  caseElementsAmong (entryNodes node.children)

end Node

end WordGrid
