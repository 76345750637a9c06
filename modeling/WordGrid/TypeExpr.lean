import WordGrid.Phrase

/-!
# Type expressions

A type expression is what a declaration says about a type. `TypeExpr.phrase` is its wording: the
cells, and whether they end in a list of arguments, computed together by recursion on the type.
-/

namespace WordGrid

/-- The heads that are worded as the head followed by `OF` and the arguments. -/
inductive Head where
  | existential
  | optional
  | unwrapped
  | array
  | dictionary
  | tuple
  deriving DecidableEq, Repr

/-- The cell of a head. A tuple with no element has a cell of its own. -/
def Head.cell (head : Head) (bare : Bool) : Cell :=
  match head, bare with
  | .existential, _ => ⟨"ANY"⟩
  | .optional, _ => ⟨"OPT"⟩
  | .unwrapped, _ => ⟨"IUO"⟩
  | .array, _ => ⟨"ARRAY"⟩
  | .dictionary, _ => ⟨"DICT"⟩
  | .tuple, false => ⟨"TUPLE"⟩
  | .tuple, true => ⟨"EMPTY"⟩

/-- A type expression. -/
inductive TypeExpr where
  /-- A type by its name, with its generic arguments. -/
  | named (name : String) (arguments : List TypeExpr)
  /-- Any type at all. The arguments are not shown. -/
  | any (arguments : List TypeExpr)
  /-- A head with its arguments: a collection, an optional, a tuple or an existential. -/
  | compound (head : Head) (arguments : List TypeExpr)
  /-- A type that is passed in and out. -/
  | inout (wrapped : TypeExpr)
  /-- A function from its parameters to its result. -/
  | function (parameters : List TypeExpr) (result : TypeExpr)
  deriving Inhabited

/-- What is wrong with the parts that a type expression is put together from. -/
inductive ShapeError where
  | nameless
  | noResult
  | inoutCount
  deriving DecidableEq, Repr

/-- The wording of a shape error. -/
def ShapeError.message : ShapeError → String
  | .nameless => "named types need a name"
  | .noResult => "function types need a result type"
  | .inoutCount => "inout types wrap exactly one type"

namespace TypeExpr

/-- A named type. The name must not be empty. -/
def named? (name : String) (arguments : List TypeExpr) : Except ShapeError TypeExpr :=
  if name == "" then .error .nameless else .ok (.named name arguments)

mutual

/-- The wording of a type expression. -/
def phrase : TypeExpr → Phrase
  | .named name arguments =>
      ⟨⟨name⟩ :: Phrase.arguments (phrases arguments), !arguments.isEmpty⟩
  | .any arguments => ⟨[⟨"ANY"⟩], !arguments.isEmpty⟩
  | .compound head arguments =>
      ⟨head.cell arguments.isEmpty :: Phrase.arguments (phrases arguments), !arguments.isEmpty⟩
  | .inout wrapped =>
      let inner := wrapped.phrase
      ⟨⟨"INOUT"⟩ :: inner.cells, inner.trailing⟩
  | .function parameters result =>
      let last := result.phrase
      ⟨⟨"CLOSUR"⟩ :: Cell.ofWord :: Phrase.join (phrases parameters) ++ Cell.toWord :: last.cells,
        last.trailing⟩

/-- The wordings of several type expressions. -/
def phrases : List TypeExpr → List Phrase
  | [] => []
  | type :: rest => type.phrase :: phrases rest

end

/-- The cells of a type expression. -/
def cells (type : TypeExpr) : Row :=
  type.phrase.cells

/-- Do the cells end in a list of arguments? -/
def trailing (type : TypeExpr) : Bool :=
  type.phrase.trailing

/-- The cells on one line, with blanks between them. -/
def text (type : TypeExpr) : String :=
  " ".intercalate (type.cells.map Cell.text)

/-- A type wrapped in an optional so many times. -/
def optionalTimes : Nat → TypeExpr → TypeExpr
  | 0, type => type
  | depth + 1, type => optionalTimes depth (.compound .optional [type])

/-- Wordings are taken one by one. -/
theorem phrases_eq_map (types : List TypeExpr) : phrases types = types.map phrase := by
  induction types with
  | nil => rfl
  | cons type rest ih => simp [phrases, ih]

end TypeExpr

end WordGrid
