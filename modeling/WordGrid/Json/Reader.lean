import WordGrid.Json.Value

/-!
# Reading JSON

`Json.read?` reads a whole text. Every reader takes the characters that are left and gives back
what it read with the characters after it. Nesting is bounded by the length of the text, which is
what the counter of the mutual readers runs down.
-/

namespace WordGrid.Json

/-- The characters after leading white space. -/
def skipSpace (chars : List Char) : List Char :=
  chars.dropWhile fun c => c == ' ' || c == '\n' || c == '\t' || c == '\r'

/-- The value of a hexadecimal digit. -/
def hexValue? (c : Char) : Option Nat :=
  if '0' ≤ c && c ≤ '9' then some (c.toNat - 0x30)
  else if 'a' ≤ c && c ≤ 'f' then some (c.toNat - 0x57)
  else if 'A' ≤ c && c ≤ 'F' then some (c.toNat - 0x37)
  else none

/-- The 16-bit unit that four hexadecimal digits spell. -/
def unit? (a b c d : Char) : Option Nat := do
  return (((← hexValue? a) * 16 + (← hexValue? b)) * 16 + (← hexValue? c)) * 16 + (← hexValue? d)

/-- The character of a one-letter escape. -/
def shortEscape? : Char → Option Char
  | '"' => some '"'
  | '\\' => some '\\'
  | '/' => some '/'
  | 'b' => some (Char.ofNat 0x08)
  | 'f' => some (Char.ofNat 0x0C)
  | 'n' => some '\n'
  | 'r' => some '\r'
  | 't' => some '\t'
  | _ => none

/-- A unit that is half of a character beyond U+FFFF and stands alone is replaced. -/
def loneUnit (unit : Nat) : Char :=
  if 0xD800 ≤ unit && unit < 0xE000 then Char.ofNat 0xFFFD else Char.ofNat unit

/-- Is the unit the first half of a character beyond U+FFFF? -/
def isHighHalf (unit : Nat) : Bool :=
  0xD800 ≤ unit && unit < 0xDC00

/-- The character of two halves, if the second one is a second half. -/
def joined? (high low : Nat) : Option Char :=
  if 0xDC00 ≤ low && low < 0xE000 then
    some (Char.ofNat (0x10000 + (high - 0xD800) * 0x400 + (low - 0xDC00)))
  else none

/-- Read the rest of a string after its opening quote. The first argument holds a first half that
waits for its second, the next one what was read, last character first. -/
def readString? : Option Nat → List Char → List Char → Option (String × List Char)
  | _, _, [] => none
  | pending, done, '"' :: rest =>
      let done := if pending.isSome then Char.ofNat 0xFFFD :: done else done
      some (String.ofList done.reverse, rest)
  | pending, done, '\\' :: 'u' :: a :: b :: c :: d :: rest => do
      let unit ← unit? a b c d
      match pending with
      | some high =>
          match joined? high unit with
          | some c => readString? none (c :: done) rest
          | none =>
              let done := Char.ofNat 0xFFFD :: done
              if isHighHalf unit then readString? (some unit) done rest
              else readString? none (loneUnit unit :: done) rest
      | none =>
          if isHighHalf unit then readString? (some unit) done rest
          else readString? none (loneUnit unit :: done) rest
  | pending, done, '\\' :: c :: rest => do
      let c ← shortEscape? c
      let done := if pending.isSome then Char.ofNat 0xFFFD :: done else done
      readString? none (c :: done) rest
  | pending, done, c :: rest =>
      let done := if pending.isSome then Char.ofNat 0xFFFD :: done else done
      readString? none (c :: done) rest

/-- The number that decimal digits spell. -/
def digitsValue (digits : List Char) : Nat :=
  digits.foldl (fun value c => value * 10 + (c.toNat - 0x30)) 0

/-- The double nearest to `digits * 10 ^ exponent`. An exponent far outside the range of doubles
is cut down to one that is still outside. -/
def realOf (digits : List Char) (exponent : Int) : Float :=
  let bound : Nat := 2000 + digits.length
  Float.ofScientific (digitsValue digits) (exponent < 0) (min exponent.natAbs bound)

/-- Read the part of a number after its sign. -/
def readUnsigned? (chars : List Char) (negative : Bool) : Option (Json × List Char) :=
  let whole := chars.takeWhile Char.isDigit
  let rest := chars.dropWhile Char.isDigit
  if whole.isEmpty then none
  else
    let (fraction, rest) :=
      match rest with
      | '.' :: tail => (tail.takeWhile Char.isDigit, tail.dropWhile Char.isDigit)
      | _ => ([], rest)
    let (exponent, rest) : Option Int × List Char :=
      match rest with
      | 'e' :: tail | 'E' :: tail =>
          let (minus, tail) :=
            match tail with
            | '-' :: tail => (true, tail)
            | '+' :: tail => (false, tail)
            | _ => (false, tail)
          let value : Int := digitsValue (tail.takeWhile Char.isDigit)
          (some (if minus then -value else value), tail.dropWhile Char.isDigit)
      | _ => (none, rest)
    if fraction.isEmpty && exponent.isNone then
      let value : Int := digitsValue whole
      some (.integer (if negative then -value else value), rest)
    else
      let value := realOf (whole ++ fraction) (exponent.getD 0 - fraction.length)
      some (.real (if negative then -value else value), rest)

/-- The double beyond all others. -/
def infinity : Float := Float.ofBits 0x7FF0000000000000

/-- The double that is no number. -/
def notANumber : Float := Float.ofBits 0x7FF8000000000000

mutual

/-- Read one value. Doubles that are not finite are spelled out. -/
def readValue? : Nat → List Char → Option (Json × List Char)
  | 0, _ => none
  | fuel + 1, chars =>
      match skipSpace chars with
      | 'n' :: 'u' :: 'l' :: 'l' :: rest => some (.null, rest)
      | 't' :: 'r' :: 'u' :: 'e' :: rest => some (.bool true, rest)
      | 'f' :: 'a' :: 'l' :: 's' :: 'e' :: rest => some (.bool false, rest)
      | '"' :: rest => (readString? none [] rest).map fun (text, rest) => (.string text, rest)
      | '[' :: rest =>
          match skipSpace rest with
          | ']' :: rest => some (.array [], rest)
          | rest => (readItems? fuel rest).map fun (items, rest) => (.array items, rest)
      | '\x7b' :: rest =>
          match skipSpace rest with
          | '\x7d' :: rest => some (.object [], rest)
          | rest => (readFields? fuel [] rest).map fun (fields, rest) => (.object fields, rest)
      | 'N' :: 'a' :: 'N' :: rest => some (.real notANumber, rest)
      | 'I' :: 'n' :: 'f' :: 'i' :: 'n' :: 'i' :: 't' :: 'y' :: rest => some (.real infinity, rest)
      | '-' :: 'I' :: 'n' :: 'f' :: 'i' :: 'n' :: 'i' :: 't' :: 'y' :: rest =>
          some (.real (-infinity), rest)
      | '-' :: rest => readUnsigned? rest true
      | rest => readUnsigned? rest false

/-- Read the items of an array up to its closing bracket. -/
def readItems? : Nat → List Char → Option (List Json × List Char)
  | 0, _ => none
  | fuel + 1, chars => do
      let (item, rest) ← readValue? fuel chars
      match skipSpace rest with
      | ',' :: rest =>
          let (items, rest) ← readItems? fuel rest
          return (item :: items, rest)
      | ']' :: rest => return ([item], rest)
      | _ => none

/-- Read the fields of an object up to its closing brace. -/
def readFields? : Nat → List (String × Json) → List Char →
    Option (List (String × Json) × List Char)
  | 0, _, _ => none
  | fuel + 1, done, chars =>
      match skipSpace chars with
      | '"' :: rest => do
          let (name, rest) ← readString? none [] rest
          match skipSpace rest with
          | ':' :: rest =>
              let (value, rest) ← readValue? fuel rest
              let done := setField done name value
              match skipSpace rest with
              | ',' :: rest => readFields? fuel done rest
              | '\x7d' :: rest => return (done, rest)
              | _ => none
          | _ => none
      | _ => none

end

/-- Read a text that holds one value and nothing else. -/
def read? (text : String) : Option Json := do
  let chars := text.toList
  let (value, rest) ← readValue? (chars.length + 1) chars
  if (skipSpace rest).isEmpty then some value else none

end WordGrid.Json
