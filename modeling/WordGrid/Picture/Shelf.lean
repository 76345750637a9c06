import WordGrid.Text.Path

/-!
# The shelf

The shelf remembers what came of looking for tiles and fonts: a later look under the same key gives
the same answer, even if the files have changed since. It has room for so many answers, and the one
that was not asked for the longest makes room for a new one.
-/

namespace WordGrid

/-- A path that is set and is not empty. -/
def Path.given? (path : Option String) : Option String :=
  path.filter (· != "")

/-- What a tile is remembered by. -/
structure TileKey where
  directory : Option String
  token : String
  size : Nat
  deriving DecidableEq, Repr

/-- The path of a tile, if there is a directory to look in and a token to look for. -/
def TileKey.path? (key : TileKey) : Option String :=
  if key.token = "" then none
  else (Path.given? key.directory).map (Path.join · (key.token ++ ".png"))

/-- What a font is remembered by. -/
structure FontKey where
  path : Option String
  size : Nat
  deriving DecidableEq, Repr

/-- The files that can be used at a moment: tiles that exist and fonts that load. -/
structure Available where
  tiles : List String
  fonts : List String

namespace Available

/-- The path of a tile that exists at the moment. -/
def tile? (available : Available) (key : TileKey) : Option String :=
  key.path?.filter available.tiles.contains

/-- The path of a font that loads at the moment. -/
def font? (available : Available) (key : FontKey) : Option String :=
  (Path.given? key.path).filter available.fonts.contains

end Available

/-- The answers given last, the one that was not asked for the longest first. -/
structure Memory (κ : Type) (room : Nat) where
  answers : List (κ × Option String)
  distinct : (answers.map Prod.fst).Nodup
  bounded : answers.length ≤ room

namespace Memory

variable {κ : Type} {room : Nat}

/-- Nothing asked for yet. -/
def empty : Memory κ room :=
  ⟨[], List.Pairwise.nil, Nat.zero_le room⟩

variable [DecidableEq κ]

/-- The answer that is remembered under a key. -/
def remembered? (memory : Memory κ room) (key : κ) : Option (Option String) :=
  memory.answers.lookup key

/-- The answers with the one under a key put last. -/
def renewed (memory : Memory κ room) (key : κ) (answer : Option String) :
    List (κ × Option String) :=
  memory.answers.filter (·.1 != key) ++ [(key, answer)]

/-- No two of the renewed answers are under one key. -/
theorem distinct_renewed (memory : Memory κ room) (key : κ) (answer : Option String) :
    ((memory.renewed key answer).map Prod.fst).Nodup := by
  rw [renewed, List.map_append, List.nodup_append]
  refine ⟨memory.distinct.sublist (List.filter_sublist.map _), List.pairwise_singleton _ _, ?_⟩
  intro other hother last hlast
  obtain ⟨entry, hentry, rfl⟩ := List.mem_map.mp hother
  rw [List.mem_singleton.mp hlast]
  simpa using (List.mem_filter.mp hentry).2

/-- Remember an answer as the last one, and forget the oldest ones that there is no room for. -/
def remember (memory : Memory κ room) (key : κ) (answer : Option String) : Memory κ room where
  answers := (memory.renewed key answer).drop ((memory.renewed key answer).length - room)
  distinct := (memory.distinct_renewed key answer).sublist ((List.drop_sublist _ _).map _)
  bounded := by
    rw [List.length_drop]
    omega

/-- Give the answer that is remembered under a key, or else the one at hand, and remember it. -/
def consult (memory : Memory κ room) (key : κ) (fresh : Option String) :
    Option String × Memory κ room :=
  let answer := (memory.remembered? key).getD fresh
  (answer, memory.remember key answer)

end Memory

/-- What was found so far. -/
structure Shelf where
  tiles : Memory TileKey 256
  fonts : Memory FontKey 64

namespace Shelf

/-- Nothing looked for yet. -/
def empty : Shelf :=
  ⟨.empty, .empty⟩

/-- Look for a tile. -/
def findTile (available : Available) (key : TileKey) (shelf : Shelf) : Option String × Shelf :=
  let (found, tiles) := shelf.tiles.consult key (available.tile? key)
  (found, { shelf with tiles })

/-- Look for a font. -/
def findFont (available : Available) (key : FontKey) (shelf : Shelf) : Option String × Shelf :=
  let (found, fonts) := shelf.fonts.consult key (available.font? key)
  (found, { shelf with fonts })

end Shelf

end WordGrid
