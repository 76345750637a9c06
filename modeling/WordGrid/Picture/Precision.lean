/-!
# Precision of places and sizes

The places and sizes of drawn text are computed with numbers that may be rounded and may have a
bound. `Arithmetic` has these two things, and `Arithmetic.double` is the one that is used: doubles
have 53 significant bits, so up to 2 to the 53rd power nothing is lost, and a number that is not
below `Precision.limit` is no double.
-/

namespace WordGrid

/-- Why a text cannot be placed: its cell is too large to be scaled, the scaled size has no bound,
or its place is too far away. -/
inductive PaintError where
  | cellTooLarge
  | sizeUnbounded
  | placeTooFar
  deriving DecidableEq, Repr

/-- The wording of why a text cannot be placed. -/
def PaintError.message : PaintError → String
  | .cellTooLarge => "integer division result too large for a float"
  | .sizeUnbounded => "cannot convert float infinity to integer"
  | .placeTooFar => "int too large to convert to float"

/-- The nearest whole number to a quotient; of two equally near ones the even one. -/
def roundQuotient (numerator denominator : Nat) : Nat :=
  let below := numerator / denominator
  let excess := 2 * (numerator % denominator)
  if excess < denominator || (excess == denominator && below % 2 == 0) then below else below + 1

namespace Precision

/-- The nearest number with 53 significant bits; of two equally near ones the one that ends in a
zero bit. -/
def rounded (value : Nat) : Nat :=
  let unit := Nat.pow 2 (value.log2 - 52)
  roundQuotient value unit * unit

/-- The least power of two beyond all doubles. -/
def limit : Nat := Nat.pow 2 1024

end Precision

/-- How the numbers of a drawing are computed: what a number is rounded to, and the bound that all
numbers stay below, if there is one. -/
structure Arithmetic where
  rounded : Nat → Nat
  limit? : Option Nat

namespace Arithmetic

/-- The arithmetic of doubles. -/
def double : Arithmetic :=
  ⟨Precision.rounded, some Precision.limit⟩

/-- Is a number of such parts below the bound? -/
def hasRoom (arithmetic : Arithmetic) (parts value : Nat) : Bool :=
  arithmetic.limit?.all (value < parts * ·)

/-- A whole number. -/
def number (arithmetic : Arithmetic) (value : Nat) : Except PaintError Nat :=
  if arithmetic.hasRoom 1 (arithmetic.rounded value) then .ok (arithmetic.rounded value)
  else .error .placeTooFar

/-- The `parts`th part of a cell, counted in such parts. -/
def part (arithmetic : Arithmetic) (parts cellSize : Nat) : Except PaintError Nat :=
  if arithmetic.hasRoom parts (arithmetic.rounded cellSize) then .ok (arithmetic.rounded cellSize)
  else .error .cellTooLarge

/-- A size of a 32 pixel cell, scaled to a cell of another size. -/
def scaled (arithmetic : Arithmetic) (size cellSize : Nat) : Except PaintError Nat := do
  let scale ← arithmetic.part 32 cellSize
  let product := arithmetic.rounded (size * scale)
  if arithmetic.hasRoom 32 product then return roundQuotient product 32
  else .error .sizeUnbounded

end Arithmetic

end WordGrid
