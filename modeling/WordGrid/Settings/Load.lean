import WordGrid.Invalid
import WordGrid.Settings.Basic
import WordGrid.Settings.Check

/-!
# Loading settings

A setting is taken from the values that are given, or else from the environment, or else it has
its default. The case of a name does not count. Only the value that is taken is checked, and all
failed checks are reported in the order of the settings.
-/

namespace WordGrid.Settings

/-- The names of the settings, in order. -/
def fieldNames : List String :=
  ["banner", "include_imports", "cell_size", "font_path", "tiles_dir", "log_level"]

/-- The name of the variable for a setting, in lower case. -/
def variableName (field : String) : String :=
  "siv_" ++ field

/-- The value of a setting in the environment. The case of a variable's name does not count, and
the last of several variables does. -/
def fromEnvironment? (environment : List (String × String)) (field : String) : Option Json :=
  (environment.reverse.find? fun entry =>
    Text.lowerAscii entry.1 == variableName field).map fun entry => .string entry.2

/-- The value that is given for a setting: the first one whose name is that of the setting. -/
def fromValues? (values : List (String × Json)) (field : String) : Option Json :=
  (values.find? fun entry => Text.lowerAscii entry.1 == field).map Prod.snd

/-- The value that is taken for a setting. -/
def given? (environment : List (String × String)) (values : List (String × Json))
    (field : String) : Option Json :=
  (fromValues? values field).or (fromEnvironment? environment field)

/-- Check the value of a setting, or take its default. -/
def checked {α : Type} (given : String → Option Json) (field : String)
    (check : Json → Except String α) (default : α) : Except FieldError α :=
  match given field with
  | none => .ok default
  | some json => (check json).mapError (⟨field, ·⟩)

/-- The failed check of a field, if it failed. -/
def failure? {α : Type} : Except FieldError α → List FieldError
  | .ok _ => []
  | .error error => [error]

/-- The values that are given for settings that do not exist. -/
def unknownFields (values : List (String × Json)) : List FieldError :=
  (values.filter fun entry => !fieldNames.contains (Text.lowerAscii entry.1)).map fun entry =>
    ⟨entry.1, "Extra inputs are not permitted"⟩

/-- The edge of a drawn cell when none is given. -/
def defaultSize : { size : Nat // 0 < size } :=
  ⟨Settings.default.cellSize, Settings.default.cellSize_pos⟩

/-- Load the settings from the environment and from given values. -/
def load (environment : List (String × String)) (values : List (String × Json)) :
    Except Invalid Settings :=
  let given := given? environment values
  let banner := checked given "banner" checkBoolean Settings.default.banner
  let imports := checked given "include_imports" checkBoolean Settings.default.includeImports
  let size := checked given "cell_size" checkSize defaultSize
  let font := checked given "font_path" checkOptionalText Settings.default.fontPath
  let tiles := checked given "tiles_dir" checkOptionalText Settings.default.tilesDirectory
  let level := checked given "log_level" checkText Settings.default.logLevel
  let unknown := unknownFields values
  match banner, imports, size, font, tiles, level, unknown with
  | .ok banner, .ok imports, .ok size, .ok font, .ok tiles, .ok level, [] =>
      .ok ⟨banner, imports, size.val, font, tiles, level, size.property⟩
  | _, _, _, _, _, _, _ =>
      .error ⟨failure? banner ++ failure? imports ++ failure? size ++ failure? font ++
        failure? tiles ++ failure? level ++ unknown⟩

end WordGrid.Settings
