import WordGrid.Cell

/-!
# Phrases

Types, requirements and descriptors all stand as arguments in a row. A phrase is what a row shows
of one: its cells, and whether they end in a list of arguments. After such a list a plain `AND`
would read as one more argument of it, so `Phrase.join` writes `AND THEN` there.
-/

namespace WordGrid

/-- The cells of an argument, and whether they end in a list of arguments of its own. -/
structure Phrase where
  cells : Row
  trailing : Bool
  deriving DecidableEq, Repr

namespace Phrase

/-- What stands between a phrase and the next one. -/
def separator (phrase : Phrase) : Row :=
  if phrase.trailing then [Cell.andWord, Cell.thenWord] else [Cell.andWord]

/-- Join phrases into one run of cells, with a separator after every phrase but the last. -/
def join : List Phrase → Row
  | [] => []
  | [last] => last.cells
  | phrase :: rest => phrase.cells ++ phrase.separator ++ join rest

/-- A list of arguments after its head: nothing for an empty list, else `OF` and the phrases. -/
def arguments : List Phrase → Row
  | [] => []
  | phrases => Cell.ofWord :: join phrases

end Phrase

end WordGrid
