import WordGrid.Text.Blank
import WordGrid.Text.Digit
import WordGrid.Text.Integer

/-!
# Sizes in text

`readSize` reads the integer that a setting's text spells. White space around it, a sign, zeros in
front, single underscores between digits, and a fraction of zeros are cut away, and what is left
has to be a numeral: a minus sign or none, and digits without a zero in front.
-/

namespace WordGrid.Settings

/-- The number that ASCII digits spell. The first of several digits is not zero. -/
def plainNumber? (chars : List Char) : Option Nat :=
  if chars.isEmpty || !chars.all Char.isDigit then none
  else if chars.head? == some '0' && chars.length != 1 then none
  else Text.digitsValue? chars

/-- The integer that a numeral spells. -/
def numeral? : List Char → Option Int
  | '-' :: digits => (plainNumber? digits).map fun value => -(value : Int)
  | digits => (plainNumber? digits).map fun value => (value : Int)

/-- Does a text start with a numeral that has too many digits? -/
def isOverlong (chars : List Char) : Bool :=
  let body :=
    match chars with
    | '-' :: body => body
    | body => body
  body.head? != some '0' && Text.digitLimit < (body.takeWhile Char.isDigit).length

/-- Cut the white space off both ends. -/
def withoutSpace (chars : List Char) : List Char :=
  ((chars.dropWhile Text.isSpace).reverse.dropWhile Text.isSpace).reverse

/-- Cut a decimal point and the zeros after it off a number. Without a point the number stays as
it is; a point with nothing or anything else after it is not allowed. -/
def withoutZeroFraction? (chars : List Char) : Option (List Char) :=
  let whole := chars.takeWhile (· != '.')
  match chars.dropWhile (· != '.') with
  | [] => some whole
  | _ :: fraction =>
      if !fraction.isEmpty && fraction.all (· == '0') then some whole else none

/-- Cut the zeros at the start off a number, with underscores among them. A number of zeros alone
keeps its last character, and after zeros the number may start with its minus sign. -/
def withoutLeadingZeros? (chars : List Char) : Option (List Char) :=
  match chars with
  | '0' :: _ =>
      match chars.dropWhile fun c => c == '0' || c == '_' with
      | [] => some (chars.drop (chars.length - 1))
      | c :: rest => if c.isDigit || c == '-' then some (c :: rest) else none
  | c :: _ => if c.isDigit then some chars else none
  | [] => none

/-- Take the underscores out of a number. None may stand at an end or beside another one. -/
def withoutUnderscores? (chars : List Char) : Option (List Char) :=
  let doubled := (chars.zip (chars.drop 1)).contains ('_', '_')
  if chars.head? == some '_' || chars.getLast? == some '_' || doubled then none
  else some (chars.filter (· != '_'))

/-- Cut a text down to a numeral. -/
def cleaned? (chars : List Char) : Option (List Char) := do
  let chars ← withoutZeroFraction? (withoutSpace chars)
  let chars ←
    match chars with
    | '-' :: body => (withoutLeadingZeros? body).map ('-' :: ·)
    | '+' :: body => withoutLeadingZeros? body
    | body => withoutLeadingZeros? body
  withoutUnderscores? chars

/-- What is wrong with a text that spells no integer. -/
def notIntegerText : String :=
  "Input should be a valid integer, unable to parse string as an integer"

/-- What is wrong with an integer that is too long or too large. -/
def tooLarge : String :=
  "Unable to parse input string as an integer, exceeded maximum size"

/-- The integer that a text spells. Only a text that is too long as it is given is called too large;
one that is too long once it is cut down spells no integer. -/
def readSize (text : String) : Except String Int :=
  let chars := text.toList
  if isOverlong chars then .error tooLarge
  else
    match (cleaned? chars).filter (!isOverlong ·) with
    | none => .error notIntegerText
    | some chars => (numeral? chars).elim (.error notIntegerText) .ok

end WordGrid.Settings
