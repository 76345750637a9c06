import WordGrid.Text.Blank
import WordGrid.Text.Digit

/-!
# Integers in text

`integer?` reads an integer as it is given on a command line: with blanks around it, a sign, digits
of any script, and single underscores between digits.
-/

namespace WordGrid.Text

/-- The most digits that are read. -/
def digitLimit : Nat := 4300

/-- Digits with single underscores between them, without the underscores. -/
def ungrouped? : List Char → Option (List Char)
  | [] => none
  | [c] => if c == '_' then none else some [c]
  | c :: '_' :: rest => if c == '_' then none else (ungrouped? rest).map (c :: ·)
  | c :: rest => if c == '_' then none else (ungrouped? rest).map (c :: ·)

/-- The number that digits of any script spell. -/
def digitsValue? (digits : List Char) : Option Nat :=
  digits.foldlM (fun value c => (digitValue? c).map (value * 10 + ·)) 0

/-- The integer that a text spells. -/
def integer? (text : String) : Option Int := do
  let chars := dropTrailingBlanks (text.toList.dropWhile isBlank)
  let (negative, body) :=
    match chars with
    | '-' :: rest => (true, rest)
    | '+' :: rest => (false, rest)
    | _ => (false, chars)
  let digits ← ungrouped? body
  if digitLimit < digits.length then none
  else
    let value ← digitsValue? digits
    return if negative then -(value : Int) else value

end WordGrid.Text
