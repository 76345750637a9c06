/-!
# Shortest decimals

A double stands for every real number that rounds to it. `shortest` finds the decimal with the
fewest digits among them and, of those, the one nearest to the double. All arithmetic is on
natural numbers: the double is written as a whole number of units, and a decimal grid is tried
for one digit, then two, and so on. Seventeen digits always suffice.
-/

namespace WordGrid.Decimal

/-- A positive decimal: the digits, read as a number, times ten to the exponent. -/
structure Number where
  digits : Nat
  exponent : Int

/-- A positive double as `mantissa * 2 ^ exponent`, and whether the double below it is only half
as far away as the one above. -/
structure Binary where
  mantissa : Nat
  exponent : Int
  narrowBelow : Bool

/-- Take the bits of a finite double apart, leaving its sign out. -/
def Binary.ofBits (bits : UInt64) : Binary :=
  let fraction : Nat := bits.toNat % Nat.pow 2 52
  let biased : Nat := bits.toNat / Nat.pow 2 52 % Nat.pow 2 11
  if biased == 0 then ⟨fraction, -1074, false⟩
  else ⟨Nat.pow 2 52 + fraction, biased - 1075, fraction == 0 && 1 < biased⟩

/-- The reals that round to a double, in units `1 / scale`: the double itself, the two ends, and
whether the ends round to it too. -/
structure Interval where
  low : Nat
  value : Nat
  high : Nat
  scale : Nat
  closed : Bool

/-- The reals that round to a double reach halfway to its neighbours. A tie rounds to the double
with the even mantissa. -/
def Binary.interval (binary : Binary) : Interval :=
  let up := Nat.pow 2 binary.exponent.toNat
  { low := (4 * binary.mantissa - (if binary.narrowBelow then 1 else 2)) * up
    value := 4 * binary.mantissa * up
    high := (4 * binary.mantissa + 2) * up
    scale := 4 * Nat.pow 2 (-binary.exponent).toNat
    closed := binary.mantissa % 2 == 0 }

/-- Does the real `numerator / denominator` round to the double? -/
def Interval.contains (interval : Interval) (numerator denominator : Nat) : Bool :=
  let point := numerator * interval.scale
  if interval.closed then
    interval.low * denominator ≤ point && point ≤ interval.high * denominator
  else interval.low * denominator < point && point < interval.high * denominator

/-- How many digits stand before the decimal point; zero or less for a value below one tenth. -/
def Interval.magnitude (interval : Interval) : Int :=
  if interval.scale ≤ interval.value then
    (Nat.toDigits 10 (interval.value / interval.scale)).length
  else
    match (List.range 400).find? fun zeros =>
        interval.scale ≤ interval.value * Nat.pow 10 (zeros + 1) with
    | some zeros => -zeros
    | none => -400

/-- The decimal on the grid of `10 ^ exponent` that is nearest to the double, if one of the two
grid points around the double rounds to it. -/
def Interval.onGrid? (interval : Interval) (exponent : Int) : Option Number :=
  let up := Nat.pow 10 exponent.toNat
  let down := Nat.pow 10 (-exponent).toNat
  let unit := interval.scale * up
  let below := interval.value * down / unit
  let excess := interval.value * down % unit
  let fits := fun digits => 0 < digits && interval.contains (digits * up) down
  let order :=
    if 2 * excess < unit || (2 * excess == unit && below % 2 == 0) then [below, below + 1]
    else [below + 1, below]
  (order.find? fits).map (⟨·, exponent⟩)

/-- Move the zeros at the end of the digits into the exponent. -/
def Number.normalise : Nat → Number → Number
  | 0, decimal => decimal
  | fuel + 1, decimal =>
      if decimal.digits % 10 == 0 && decimal.digits != 0 then
        Number.normalise fuel ⟨decimal.digits / 10, decimal.exponent + 1⟩
      else decimal

/-- The shortest decimal that rounds to a positive double. -/
def shortest (binary : Binary) : Number :=
  let interval := binary.interval
  let magnitude := interval.magnitude
  let found := (List.range 17).findSome? fun (count : Nat) =>
    interval.onGrid? (magnitude - 1 - count)
  Number.normalise 20 (found.getD ⟨0, 0⟩)

end WordGrid.Decimal
