/-!
# Lettering

How the text of a cell is broken into lines and how large it is set. The sizes are those of a cell
32 pixels wide.
-/

namespace WordGrid

/-- Lines of text with the sizes to set them in. -/
structure Lettering where
  lines : List String
  fontSize : Nat
  lineHeight : Nat
  offset : Nat
  deriving DecidableEq, Repr

namespace Lettering

/-- The characters of a text from one position up to another. -/
def part (chars : List Char) (start stop : Nat) : String :=
  String.ofList ((chars.take stop).drop start)

/-- The lettering of a text. Up to nine characters are all shown, on up to three lines; of a
longer text the first eight are shown and an ellipsis. -/
def ofText (text : String) : Lettering :=
  let chars := text.toList
  let count := chars.length
  if count ≤ 2 then ⟨[text], 24, 30, 0⟩
  else if count = 3 then ⟨[text], 14, 21, 1⟩
  else if count = 4 then ⟨[part chars 0 2, part chars 2 4], 14, 14, 1⟩
  else if count ≤ 6 then ⟨[text], 14, 14, 1⟩
  else if count = 7 then ⟨[part chars 0 3, part chars 3 5, part chars 5 7], 11, 10, 2⟩
  else if count ≤ 9 then ⟨[part chars 0 3, part chars 3 6, part chars 6 9], 11, 10, 2⟩
  else ⟨[part chars 0 3, part chars 3 6, part chars 6 8 ++ "…"], 11, 10, 2⟩

end Lettering

end WordGrid
