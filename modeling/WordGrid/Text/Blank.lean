/-!
# Blank characters

A text is trimmed at its blanks and falls into words at them. `isBlank` is the class: the
characters that separate words or paragraphs in bidirectional text together with every space of
the category Zs. `isSpace` is the narrower property White_Space, which leaves out the four
information separators.
-/

namespace WordGrid.Text

/-- The white space of the character database: the controls from tab to carriage return, the
space, the next line control, and the spaces and separators beyond the first 256 characters. -/
def isSpace (c : Char) : Bool :=
  let code := c.toNat
  (9 ≤ code && code ≤ 13) || code == 0x20 || code == 0x85 || code == 0xA0 || code == 0x1680
    || (0x2000 ≤ code && code ≤ 0x200A) || code == 0x2028 || code == 0x2029 || code == 0x202F
    || code == 0x205F || code == 0x3000

/-- A blank is white space or one of the four information separators U+001C to U+001F. -/
def isBlank (c : Char) : Bool :=
  isSpace c || (0x1C ≤ c.toNat && c.toNat ≤ 0x1F)

/-- Drop the blanks at the end. -/
def dropTrailingBlanks (chars : List Char) : List Char :=
  (chars.reverse.dropWhile isBlank).reverse

/-- A text without the blanks at its end. -/
def trimRight (text : String) : String :=
  String.ofList (dropTrailingBlanks text.toList)

/-- A text without the blanks at either end. -/
def trim (text : String) : String :=
  String.ofList (dropTrailingBlanks (text.toList.dropWhile isBlank))

/-- Cut a text at its blanks. The first argument holds the letters of the word being read, last
letter first. -/
def wordsFrom (pending : List Char) : List Char → List (List Char)
  | [] => if pending.isEmpty then [] else [pending.reverse]
  | c :: rest =>
      if isBlank c then
        if pending.isEmpty then wordsFrom [] rest else pending.reverse :: wordsFrom [] rest
      else wordsFrom (c :: pending) rest

/-- The words of a text: its longest runs without a blank, from left to right. -/
def words (text : String) : List String :=
  (wordsFrom [] text.toList).map String.ofList

/-- The text before the first occurrence of a character, or all of it. -/
def before (stop : Char) (text : String) : String :=
  String.ofList (text.toList.takeWhile (· != stop))

end WordGrid.Text
