import WordGrid.Decimal.Shortest
import WordGrid.Json.Value
import WordGrid.Settings.SizeText
import WordGrid.Text.Upper

/-!
# Checking settings

A setting is given as a JSON value, or as a text in the environment. A check gives the value that
is meant or says what is wrong with it.
-/

namespace WordGrid.Settings

/-- The whole number that a double is, if it is one. -/
def wholeNumber? (value : Float) : Option Int :=
  let binary := Decimal.Binary.ofBits value.toBits
  let down := Nat.pow 2 (-binary.exponent).toNat
  if binary.mantissa % down == 0 then
    let magnitude := binary.mantissa / down * Nat.pow 2 binary.exponent.toNat
    some (if value < 0 then -(magnitude : Int) else magnitude)
  else none

/-- Does a number fit into a signed word of 64 bits? -/
def fitsWord (value : Int) : Bool :=
  -9223372036854775808 ≤ value && value ≤ 9223372036854775807

/-- The whole number that a double is, if it is one and lies strictly between the ends of the signed
words of 64 bits. -/
def word? (value : Float) : Option Int :=
  (wholeNumber? value).filter fun whole =>
    -9223372036854775808 < whole && whole < 9223372036854775808

/-- What is wrong with a text or number that is no truth value. -/
def uninterpretable : String :=
  "Input should be a valid boolean, unable to interpret input"

/-- What is wrong with a value of another type. -/
def notBoolean : String :=
  "Input should be a valid boolean"

/-- The truth value of a number. -/
def booleanOfInteger (value : Int) : Except String Bool :=
  if value == 0 then .ok false
  else if value == 1 then .ok true
  else if fitsWord value then .error uninterpretable
  else .error notBoolean

/-- The truth value of a text, in upper or lower case. -/
def booleanOfText (text : String) : Except String Bool :=
  let word := Text.lowerAscii text
  if ["0", "off", "f", "false", "n", "no"].contains word then .ok false
  else if ["1", "on", "t", "true", "y", "yes"].contains word then .ok true
  else .error uninterpretable

/-- Check a truth value. -/
def checkBoolean : Json → Except String Bool
  | .bool value => .ok value
  | .integer value => booleanOfInteger value
  | .real value =>
      if value.isFinite then (word? value).elim (.error notBoolean) booleanOfInteger
      else .error notBoolean
  | .string text => booleanOfText text
  | _ => .error notBoolean

/-- Check that an integer is positive. -/
def checkPositive (value : Int) : Except String { size : Nat // 0 < size } :=
  if h : 0 < value.toNat then .ok ⟨value.toNat, h⟩
  else .error "Input should be greater than 0"

/-- Check a size. -/
def checkSize : Json → Except String { size : Nat // 0 < size }
  | .integer value => checkPositive value
  | .bool value => checkPositive (if value then 1 else 0)
  | .real value =>
      if value.isFinite then
        match wholeNumber? value with
        | some _ => (word? value).elim (.error tooLarge) checkPositive
        | none =>
            .error "Input should be a valid integer, got a number with a fractional part"
      else .error "Input should be a finite number"
  | .string text => (readSize text).bind checkPositive
  | _ => .error "Input should be a valid integer"

/-- Check a text. -/
def checkText : Json → Except String String
  | .string text => .ok text
  | _ => .error "Input should be a valid string"

/-- Check a text that may be left out. -/
def checkOptionalText : Json → Except String (Option String)
  | .null => .ok none
  | json => (checkText json).map some

end WordGrid.Settings
