import WordGrid.Grammar.Slot

/-!
# Forms of declarations

`DeclForm` sorts the declarations by what is read off them. The rest of the module answers the
questions that a summary asks of a declaration: its name, its modifiers, what it inherits, its
parameters and results, its members.
-/

namespace WordGrid

/-- The declarations that are summarised. -/
inductive DeclForm where
  /-- A type with members, or an extension of one. -/
  | nominal
  | function
  | initializer
  | deinitializer
  | subscript
  | enumCase
  | associatedType
  | typeAlias
  | property
  | importing
  deriving DecidableEq, Repr

/-- The form of a kind of node, if nodes of the kind are declarations. -/
def DeclForm.ofKind? : String → Option DeclForm
  | "class_declaration" => some .nominal
  | "protocol_declaration" => some .nominal
  | "function_declaration" => some .function
  | "protocol_function_declaration" => some .function
  | "init_declaration" => some .initializer
  | "deinit_declaration" => some .deinitializer
  | "subscript_declaration" => some .subscript
  | "enum_entry" => some .enumCase
  | "associatedtype_declaration" => some .associatedType
  | "typealias_declaration" => some .typeAlias
  | "property_declaration" => some .property
  | "protocol_property_declaration" => some .property
  | "import_declaration" => some .importing
  | _ => none

/-- How a function passes errors on. -/
inductive Throwing where
  | throws
  | rethrows
  deriving DecidableEq, Repr

/-- The keyword of a way to pass errors on. -/
def Throwing.keyword : Throwing → String
  | .throws => "throws"
  | .rethrows => "rethrows"

/-- How an initializer may fail. -/
inductive Failability where
  | optional
  | forced
  deriving DecidableEq, Repr

/-- The mark of a way to fail. -/
def Failability.mark : Failability → String
  | .optional => "?"
  | .forced => "!"

namespace Node

/-- The keyword of a type declaration or an extension. The role `declaration_kind` decides; if no
child plays it, the first keyword among the tokens does. -/
def nominalKeyword? (node : Node) : Option String :=
  if node.kind == "protocol_declaration" then some "protocol"
  else
    match node.fieldChild? "declaration_kind" with
    | some keyword => some keyword.text
    | none =>
        (node.children.find? fun child =>
          !child.isNamed &&
            child.isOneOf ["struct", "class", "enum", "extension", "actor"]).map kind

/-- The node that has the name of a declaration: the child in the role `name` if it is an identifier
or the token of an operator, and otherwise the first identifier. -/
def nameNode? (node : Node) : Option Node :=
  let fallback := node.firstNamedOf? ["simple_identifier", "type_identifier"]
  match node.fieldChild? "name" with
  | some name => if name.isIdentifier || !name.isNamed then some name else fallback
  | none => fallback

/-- The name of a declaration. -/
def identifier? (node : Node) : Option String :=
  node.nameNode?.map text

/-- The type that an extension extends. -/
def extendedType? (node : Node) : Option Node :=
  match node.fieldChild? "name" with
  | some name => if name.isType then some name else node.firstType?
  | none => node.firstType?

/-- The keyword of a modifier, without what stands after it in parentheses. -/
def modifierKeyword? (modifier : Node) : Option String :=
  let keyword := Text.trim (Text.before '(' modifier.text)
  if modifier.kind == "attribute" || keyword == "" then none else some keyword

/-- The keywords of the modifiers of a declaration, and then `indirect` for every token of that
name. -/
def modifierKeywords (node : Node) : List String :=
  ((node.namedOf ["modifiers"]).flatMap fun list =>
    list.namedChildren.filterMap modifierKeyword?) ++
  (node.children.filter (isToken "indirect")).map kind

/-- What a declaration inherits, if it says so. An associated type may list its bounds without a
specifier, up to its default or its `where` clause. -/
def inheritedTypes? (node : Node) : Option (List Node) :=
  let specifiers := node.namedOf ["inheritance_specifier"]
  if !specifiers.isEmpty then some specifiers
  else if node.kind == "associatedtype_declaration" then
    let head := node.children.takeWhile fun child =>
      !child.isToken "=" && child.kind != "type_constraints"
    let bounds := head.filter isType
    if bounds.isEmpty then none else some bounds
  else none

/-- The parameters of a function, an initializer or a subscript. -/
def parameters (node : Node) : List Node :=
  node.namedOf ["parameter"]

/-- The label that an argument for a parameter is given, an underscore if it is suppressed. -/
def parameterLabel (parameter : Node) : String :=
  match parameter.children.find? fun child =>
      child.isOneOf ["simple_identifier", "wildcard_pattern"] || child.text == "_" with
  | some label => label.text
  | none => "_"

/-- The slot of the result of a function or a subscript. -/
def returnSlot? (node : Node) : Option TypeSlot :=
  node.slotAfter? "->"

/-- The slot of the type that an alias stands for. -/
def aliasedSlot? (node : Node) : Option TypeSlot :=
  node.slotAfter? "="

/-- How a function passes errors on, if it does. -/
def throwing? (node : Node) : Option Throwing :=
  (node.children.find? (isOneOf ["throws", "rethrows"])).map fun keyword =>
    if "rethrows".toList.isPrefixOf keyword.text.toList then .rethrows else .throws

/-- The way to fail that a child stands for. -/
def failabilityMark? (node : Node) : Option Failability :=
  if node.kind == "?" then some .optional
  else if node.isOneOf ["!", "bang"] then some .forced
  else none

/-- How an initializer may fail: the first mark before its parameters. -/
def failability? (node : Node) : Option Failability :=
  (node.children.takeWhile (!·.isToken "(")).findSome? failabilityMark?

/-- Is the node the block of members of a type? -/
def isMemberBlock (node : Node) : Bool :=
  node.isOneOf ["class_body", "enum_class_body", "protocol_body"]

/-- The block of members of a type. -/
def memberBlock? (node : Node) : Option Node :=
  node.namedChildren.find? isMemberBlock

/-- The path that an import names. -/
def importPath? (node : Node) : Option String :=
  (node.firstNamedOf? ["identifier"]).map text

end Node

end WordGrid
