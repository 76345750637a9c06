/-!
# Invalid values

A value that fails its checks is reported with every failed field, in the order in which the
fields are declared. A check of the value as a whole has no field.
-/

namespace WordGrid

/-- A failed check: the field, empty for the value as a whole, and what is wrong with it. -/
structure FieldError where
  field : String
  text : String
  deriving DecidableEq, Repr

/-- The failed checks of a value. -/
structure Invalid where
  errors : List FieldError
  deriving DecidableEq, Repr

namespace Invalid

/-- A value with one failed field. -/
def field (name text : String) : Invalid :=
  ⟨[⟨name, text⟩]⟩

/-- A value that is wrong as a whole. -/
def whole (text : String) : Invalid :=
  field "" ("Value error, " ++ text)

/-- All failed checks on one line. -/
def message (invalid : Invalid) : String :=
  "; ".intercalate (invalid.errors.map fun error => error.field ++ ": " ++ error.text)

end Invalid

end WordGrid
