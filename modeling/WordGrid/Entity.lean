import WordGrid.Predicate

/-!
# Entities

An entity is the summary of one declaration: its name and kind, its generic parameters and
requirements, the descriptors of its modifiers, its predicates, and the entities of its members.
-/

namespace WordGrid

/-- The kinds of declaration. -/
inductive EntityKind where
  | struct
  | classType
  | enum
  | protocol
  | associatedType
  | typeAlias
  | importing
  | function
  | initializer
  | constant
  | mutable
  | enumCase
  | subscript
  | deinitializer
  | extension
  deriving DecidableEq, Repr

namespace EntityKind

/-- The keyword that a kind is declared with. -/
def keyword : EntityKind → String
  | .struct => "struct"
  | .classType => "class"
  | .enum => "enum"
  | .protocol => "protocol"
  | .associatedType => "associatedtype"
  | .typeAlias => "typealias"
  | .importing => "import"
  | .function => "func"
  | .initializer => "init"
  | .constant => "let"
  | .mutable => "var"
  | .enumCase => "case"
  | .subscript => "subscript"
  | .deinitializer => "deinit"
  | .extension => "extension"

/-- The cell that shows a kind. An extension has none, since it declares nothing new. -/
def cell? : EntityKind → Option Cell
  | .struct => some ⟨"STRUCT"⟩
  | .classType => some ⟨"CLASS"⟩
  | .enum => some ⟨"ENUM"⟩
  | .protocol => some ⟨"PROTO"⟩
  | .associatedType => some ⟨"ASSOC"⟩
  | .typeAlias => some ⟨"ALIAS"⟩
  | .importing => some ⟨"IMPORT"⟩
  | .function => some ⟨"FUNC"⟩
  | .initializer => some ⟨"INIT"⟩
  | .constant => some ⟨"LET"⟩
  | .mutable => some ⟨"VAR"⟩
  | .enumCase => some ⟨"CASE"⟩
  | .subscript => some ⟨"SUBSCRIPT"⟩
  | .deinitializer => some ⟨"DEINIT"⟩
  | .extension => none

end EntityKind

/-- The summary of a declaration. -/
structure Entity where
  name : String
  kind : EntityKind
  genericArguments : List String := []
  children : List Entity := []
  descriptors : List Descriptor := []
  requirements : List Requirement := []
  predicates : List Predicate := []

namespace Entity

/-- Does the entity add to a type that is declared elsewhere? -/
def isExtension (entity : Entity) : Bool :=
  entity.kind == .extension

/-- Does the entity have generic parameters or requirements? -/
def isGeneric (entity : Entity) : Bool :=
  !entity.genericArguments.isEmpty || !entity.requirements.isEmpty

end Entity

end WordGrid
