import WordGrid.Requirement

/-!
# Predicates

A predicate says one thing about a declaration: a word such as `TAKES` or `HAS` with a list of
arguments.
-/

namespace WordGrid

/-- A tag for a modifier, such as `PUBLIC` or `STATIC`. -/
structure Descriptor where
  name : String
  deriving DecidableEq, Repr

/-- A descriptor is worded as its name. -/
def Descriptor.phrase (descriptor : Descriptor) : Phrase :=
  ⟨[⟨descriptor.name⟩], false⟩

/-- What may stand in the argument list of a predicate. -/
inductive Argument where
  | type (value : TypeExpr)
  | requirement (value : Requirement)
  | descriptor (value : Descriptor)

/-- The wording of an argument. -/
def Argument.phrase : Argument → Phrase
  | .type value => value.phrase
  | .requirement value => value.phrase
  | .descriptor value => value.phrase

/-- A word with its arguments. -/
structure Predicate where
  name : String
  arguments : List Argument

namespace Predicate

/-- A predicate about types. -/
def ofTypes (name : String) (types : List TypeExpr) : Predicate :=
  ⟨name, types.map .type⟩

/-- A predicate about descriptors. -/
def ofDescriptors (name : String) (descriptors : List Descriptor) : Predicate :=
  ⟨name, descriptors.map .descriptor⟩

/-- The cells of a predicate: its name and its arguments. -/
def cells (predicate : Predicate) : Row :=
  ⟨predicate.name⟩ :: Phrase.join (predicate.arguments.map Argument.phrase)

end Predicate

end WordGrid
