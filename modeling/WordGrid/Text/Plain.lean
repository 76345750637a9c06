/-!
# Plain text

What is printed to something that is no terminal is plain text: `plain` takes out the control
sequences of terminals and ends every line with a newline alone. A control sequence is an escape
character and an opening bracket, then any digits, semicolons and question marks, then a letter.
-/

namespace WordGrid.Text

/-- May a character stand inside a control sequence? -/
def isControlParameter (c : Char) : Bool :=
  c.isDigit || c == ';' || c == '?'

/-- The length of the control sequence that a text starts with; zero if it starts with none. -/
def controlLength : List Char → Nat
  | '\x1b' :: '[' :: rest =>
      match rest.dropWhile isControlParameter with
      | final :: _ =>
          if final.isAlpha then (rest.takeWhile isControlParameter).length + 3 else 0
      | [] => 0
  | _ => 0

/-- Take the control sequences out of a text. The number counts the characters that are still to be
left out. -/
def withoutControls : Nat → List Char → List Char
  | _, [] => []
  | skipped + 1, _ :: rest => withoutControls skipped rest
  | 0, c :: rest =>
      match controlLength (c :: rest) with
      | 0 => c :: withoutControls 0 rest
      | skipped + 1 => withoutControls skipped rest

/-- Drop every carriage return that stands before a newline. -/
def withoutReturns : List Char → List Char
  | '\r' :: '\n' :: rest => '\n' :: withoutReturns rest
  | c :: rest => c :: withoutReturns rest
  | [] => []

/-- A text as plain text. -/
def plain (text : String) : String :=
  String.ofList (withoutReturns (withoutControls 0 text.toList))

end WordGrid.Text
