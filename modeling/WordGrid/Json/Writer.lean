import WordGrid.Decimal.Shortest
import WordGrid.Json.Value
import WordGrid.Text.Quoted

/-!
# Writing JSON

A value is written on one line, with a blank after every comma and colon. Text is written in
ASCII: every other character becomes one escape, or two for a character beyond U+FFFF. Numbers
with a fraction are written with the fewest digits that read back as the same double.
-/

namespace WordGrid.Json

/-- A 16-bit unit as an escape. -/
def unitEscape (unit : Nat) : List Char :=
  '\\' :: 'u' :: Text.hexPadded 4 unit

/-- One character of a written string. -/
def escapedChar (c : Char) : List Char :=
  if c == '"' then ['\\', '"']
  else if c == '\\' then ['\\', '\\']
  else if c == '\n' then ['\\', 'n']
  else if c == '\r' then ['\\', 'r']
  else if c == '\t' then ['\\', 't']
  else if c.toNat == 0x08 then ['\\', 'b']
  else if c.toNat == 0x0C then ['\\', 'f']
  else if 0x20 ≤ c.toNat && c.toNat < 0x7F then [c]
  else if c.toNat < 0x10000 then unitEscape c.toNat
  else
    let above := c.toNat - 0x10000
    unitEscape (0xD800 + above / 0x400) ++ unitEscape (0xDC00 + above % 0x400)

/-- A string between its quotes. -/
def writeString (text : String) : String :=
  String.ofList ('"' :: text.toList.flatMap escapedChar ++ ['"'])

/-- Digits with the decimal point after the first `point` of them. -/
def writePositional (digits : List Char) (point : Int) : List Char :=
  if point ≤ 0 then '0' :: '.' :: List.replicate (-point).toNat '0' ++ digits
  else
    let whole := digits.take point.toNat
    let rest := digits.drop point.toNat
    whole ++ List.replicate (point.toNat - whole.length) '0' ++ '.' ::
      (if rest.isEmpty then ['0'] else rest)

/-- Digits with one of them before the decimal point, and an exponent of at least two digits. -/
def writeScientific (digits : List Char) (point : Int) : List Char :=
  let exponent := point - 1
  let power := Nat.toDigits 10 exponent.natAbs
  digits.take 1 ++ (if digits.length == 1 then [] else '.' :: digits.drop 1) ++
    'e' :: (if exponent < 0 then '-' else '+') ::
    List.replicate (2 - power.length) '0' ++ power

/-- A double: positional from one ten thousandth up to below ten to the sixteenth. -/
def writeReal (value : Float) : String :=
  let bits := value.toBits
  let negative := bits >>> 63 == 1
  let body : List Char :=
    if value.isNaN then "NaN".toList
    else if value.isInf then "Infinity".toList
    else if value == 0 then "0.0".toList
    else
      let decimal := Decimal.shortest (Decimal.Binary.ofBits bits)
      let digits := Nat.toDigits 10 decimal.digits
      let point := decimal.exponent + digits.length
      if -4 < point && point ≤ 16 then writePositional digits point
      else writeScientific digits point
  String.ofList (if negative && !value.isNaN then '-' :: body else body)

/-- An integer in decimal digits. -/
def writeInteger (value : Int) : String :=
  let digits := Nat.toDigits 10 value.natAbs
  String.ofList (if value < 0 then '-' :: digits else digits)

mutual

/-- A value on one line. -/
def write : Json → String
  | .null => "null"
  | .bool true => "true"
  | .bool false => "false"
  | .integer value => writeInteger value
  | .real value => writeReal value
  | .string value => writeString value
  | .array items => "[" ++ ", ".intercalate (writeItems items) ++ "]"
  | .object fields => "\x7b" ++ ", ".intercalate (writeFields fields) ++ "\x7d"

/-- The items of an array, each on its own. -/
def writeItems : List Json → List String
  | [] => []
  | item :: rest => write item :: writeItems rest

/-- The fields of an object, each with its name. -/
def writeFields : List (String × Json) → List String
  | [] => []
  | (name, value) :: rest => (writeString name ++ ": " ++ write value) :: writeFields rest

end

end WordGrid.Json
