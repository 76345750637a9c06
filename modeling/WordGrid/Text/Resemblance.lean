/-!
# Resemblance of texts

Two texts are compared by their common blocks: the longest run of characters that both have, and
then the common blocks on either side of it. `closest` picks, from a list of names, those that
share most of their characters with a word.
-/

namespace WordGrid.Text

/-- The number of characters that two texts have in common at their start. -/
def sharedStart : List Char → List Char → Nat
  | first :: left, second :: right => if first == second then sharedStart left right + 1 else 0
  | _, _ => 0

/-- A run of characters that two texts share: where it starts in each of them and how long it is. -/
structure Block where
  left : Nat
  right : Nat
  length : Nat
  deriving DecidableEq, Repr

/-- The runs from every pair of places, in the order of the places in the left text and then in
the right one. -/
def sharedRuns (left right : List Char) : List Block :=
  (List.range left.length).flatMap fun i =>
    (List.range right.length).map fun j => ⟨i, j, sharedStart (left.drop i) (right.drop j)⟩

/-- The longest run that two texts share; of equally long ones the first. -/
def longestBlock (left right : List Char) : Block :=
  (sharedRuns left right).foldl
    (fun best run => if best.length < run.length then run else best) ⟨0, 0, 0⟩

/-- The number of characters in the common blocks of two texts. -/
def sharedCount (left right : List Char) : Nat :=
  match longestBlock left right with
  | ⟨i, j, length⟩ =>
      if 0 < length ∧ i < left.length then
        sharedCount (left.take i) (right.take j) + length +
          sharedCount (left.drop (i + length)) (right.drop (j + length))
      else 0
termination_by left.length
decreasing_by
  all_goals
    simp only [List.length_take, List.length_drop]
    omega

/-- How much of a name and a word is shared: this many characters of each, out of so many in
both. -/
structure Resemblance where
  name : String
  shared : Nat
  total : Nat
  deriving DecidableEq, Repr

namespace Resemblance

/-- How much a name resembles a word. -/
def ofName (word name : String) : Resemblance :=
  ⟨name, sharedCount name.toList word.toList, name.length + word.length⟩

/-- Are at least three fifths of the characters shared? -/
def isClose (resemblance : Resemblance) : Bool :=
  3 * resemblance.total ≤ 10 * resemblance.shared

/-- Does the first name come before the second? The larger share does; of equal shares, the name
that is later in the order of code points. -/
def precedes (first second : Resemblance) : Bool :=
  let left := first.shared * second.total
  let right := second.shared * first.total
  right < left || (left == right && second.name ≤ first.name)

end Resemblance

/-- The names that are close to a word: at most three, the closest ones. -/
def closest (names : List String) (word : String) : List String :=
  let close := (names.map (Resemblance.ofName word)).filter Resemblance.isClose
  ((close.mergeSort Resemblance.precedes).take 3).map Resemblance.name

end WordGrid.Text
