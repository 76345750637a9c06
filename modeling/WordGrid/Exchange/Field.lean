import WordGrid.Invalid
import WordGrid.Json.Value

/-!
# Reading fields

The checks that fields of exchanged records have in common: a word out of a fixed list, and a text.
-/

namespace WordGrid.Exchange

/-- The wording for a word that is not one of a list. -/
def choiceText (words : List String) : String :=
  let quoted := words.map fun word => "'" ++ word ++ "'"
  "Input should be " ++
    match quoted.reverse with
    | [] => ""
    | [only] => only
    | last :: others => ", ".intercalate others.reverse ++ " or " ++ last

/-- Read a field with one of some values, each known by its word. -/
def choice {α : Type} (record : Json) (field : String) (values : List α) (word : α → String) :
    Except (List FieldError) α :=
  match record.field? field with
  | none => .error [⟨field, "Field required"⟩]
  | some json =>
      let found := json.string?.bind fun text => values.find? fun value => word value == text
      match found with
      | some value => .ok value
      | none => .error [⟨field, choiceText (values.map word)⟩]

/-- Read a field that must hold a text. -/
def requiredText (record : Json) (field : String) : Except (List FieldError) String :=
  match record.field? field with
  | none => .error [⟨field, "Field required"⟩]
  | some (.string text) => .ok text
  | some _ => .error [⟨field, "Input should be a valid string"⟩]

/-- Read a field that may hold a text, be null or be missing. -/
def optionalText (record : Json) (field : String) : Except (List FieldError) (Option String) :=
  match record.field? field with
  | none => .ok none
  | some .null => .ok none
  | some (.string text) => .ok (some text)
  | some _ => .error [⟨field, "Input should be a valid string"⟩]

/-- Put two checked fields together. All failed checks are reported, the first field's first. -/
def both {α β : Type} (first : Except (List FieldError) α) (second : Except (List FieldError) β) :
    Except Invalid (α × β) :=
  match first, second with
  | .ok first, .ok second => .ok (first, second)
  | .ok _, .error errors => .error ⟨errors⟩
  | .error errors, .ok _ => .error ⟨errors⟩
  | .error errors, .error more => .error ⟨errors ++ more⟩

/-- The fields of a record that are not empty. -/
def nonEmpty (field : String) (items : List Json) : List (String × Json) :=
  if items.isEmpty then [] else [(field, .array items)]

end WordGrid.Exchange
