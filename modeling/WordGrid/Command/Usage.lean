import WordGrid.Text.Quoted

/-!
# Using the command

The options of the command, what can be wrong with how it is called, and what it then says.
-/

namespace WordGrid

/-- The options of the command. -/
inductive CommandOption where
  | output
  | tiles
  | cellSize
  | font
  | banner
  | imports
  | logLevel
  deriving DecidableEq, Repr

/-- What a path is expected to lead to. -/
inductive FileKind where
  | file
  | directory
  deriving DecidableEq, Repr

/-- The word for what a path is expected to lead to. -/
def FileKind.word : FileKind → String
  | .file => "File"
  | .directory => "Directory"

/-- What can be wrong with the value of a parameter. -/
inductive ValueError where
  /-- No path has a null character. -/
  | invalidPath
  | missingPath (kind : FileKind) (path : String)
  | isDirectory (path : String)
  | isFile (path : String)
  | notInteger (text : String)
  | notLevel (text : String)
  deriving DecidableEq, Repr

/-- The names of the levels that can be asked for. -/
def levelChoices : List String :=
  ["debug", "info", "warning", "error"]

/-- The wording of what is wrong with a value. -/
def ValueError.message : ValueError → String
  | .invalidPath => "embedded null byte"
  | .missingPath kind path => kind.word ++ " " ++ Text.quoted path ++ " does not exist."
  | .isDirectory path => "File " ++ Text.quoted path ++ " is a directory."
  | .isFile path => "Directory " ++ Text.quoted path ++ " is a file."
  | .notInteger text => Text.quoted text ++ " is not a valid integer."
  | .notLevel text =>
      Text.quoted text ++ " is not one of " ++
        ", ".intercalate (levelChoices.map Text.quoted) ++ "."

/-- What can be wrong with a call of the command. -/
inductive UsageError where
  | missingSource
  | extraArguments (arguments : List String)
  /-- There is no such option, but there may be some with similar names. -/
  | unknownOption (name : String) (similar : List String)
  | missingValue (name : String)
  | unwantedValue (name : String)
  | invalidValue (parameter : String) (error : ValueError)
  deriving DecidableEq, Repr

namespace UsageError

/-- The wording of a hint at similar names, which are named in the order of their code points. -/
def similarHint (similar : List String) : String :=
  match similar.mergeSort fun left right => left ≤ right with
  | [] => ""
  | [name] => " Did you mean " ++ Text.quoted name ++ "?"
  | names => " (Did you mean one of: " ++ ", ".intercalate (names.map Text.quoted) ++ "?)"

/-- The wording of what is wrong with a call. -/
def message : UsageError → String
  | .missingSource => "Missing argument 'SOURCE'."
  | .extraArguments arguments =>
      (if arguments.length == 1 then "Got unexpected extra argument (" else
        "Got unexpected extra arguments (") ++ " ".intercalate arguments ++ ")"
  | .unknownOption name similar =>
      "No such option " ++ Text.quoted name ++ "." ++ similarHint similar
  | .missingValue name => "Option " ++ Text.quoted name ++ " requires an argument."
  | .unwantedValue name => "Option " ++ Text.quoted name ++ " does not take a value."
  | .invalidValue parameter error => "Invalid value for " ++ parameter ++ ": " ++ error.message

/-- Is the error about an option that has or lacks a value? The usage is not shown then. -/
def isAboutArity : UsageError → Bool
  | .missingValue _ => true
  | .unwantedValue _ => true
  | _ => false

/-- What the command says about a wrong call. -/
def report (error : UsageError) : String :=
  let usage := "Usage: cli [OPTIONS] SOURCE\nTry 'cli --help' for help.\n\n"
  (if error.isAboutArity then "" else usage) ++ "Error: " ++ error.message ++ "\n"

end UsageError

/-- How an option is called in what the command says. -/
def CommandOption.hint : CommandOption → String
  | .output => "'--output' / '-o'"
  | .tiles => "'--tiles'"
  | .cellSize => "'--cell-size'"
  | .font => "'--font'"
  | .banner => "'--banner'"
  | .imports => "'--imports'"
  | .logLevel => "'--log-level'"

/-- What the command says when it is asked for help. -/
def helpText : String :=
  "\n".intercalate [
    "Usage: cli [OPTIONS] SOURCE",
    "",
    "  Turn the declarations of a Swift SOURCE file into a grid of short pseudo-",
    "  English cells.",
    "",
    "Options:",
    "  -o, --output FILE               Write a PNG image here instead of printing the",
    "                                  text grid.",
    "  --tiles DIRECTORY               Directory with pre-rendered <TOKEN>.png cell",
    "                                  tiles.",
    "  --cell-size INTEGER             Edge of one drawn cell in pixels.",
    "  --font FILE                     TrueType font for drawn cells.",
    "  --banner / --no-banner          Enable/disable the SOURCE IS VIEW banner.",
    "  --imports / --no-imports        Emit IMPORT rows for import declarations.",
    "  --log-level [debug|info|warning|error]",
    "                                  Verbosity of the siv logger.",
    "  --help                          Show this message and exit.",
    ""]

end WordGrid
