import WordGrid.Command.Usage
import WordGrid.Json.Value
import WordGrid.Text.Integer
import WordGrid.Text.Resemblance
import WordGrid.Text.Upper

/-!
# Command line arguments

Options and arguments may come in any order, and `--` ends the options. `Invocation.ofArguments`
takes a command line apart, and `Invocation.check` checks the values. The options are checked in
the order of their first use, each at its last value; the source is checked after them.
-/

namespace WordGrid

/-- The value of an option: a text, or on and off. -/
inductive OptionValue where
  | text (value : String)
  | switch (value : Bool)
  deriving DecidableEq, Repr

/-- A command line taken apart. -/
structure Invocation where
  uses : List (CommandOption × OptionValue)
  arguments : List String
  help : Bool
  deriving DecidableEq, Repr

/-- What a word of the command line that starts with a dash asks for. -/
inductive Request where
  /-- An option with a value, which may be attached to it. -/
  | valued (option : CommandOption) (spelling : String) (attached : Option String)
  | switched (option : CommandOption) (value : Bool)
  | help

/-- The option with a value that a long name stands for. -/
def CommandOption.ofLongName? : String → Option CommandOption
  | "--output" => some .output
  | "--tiles" => some .tiles
  | "--cell-size" => some .cellSize
  | "--font" => some .font
  | "--log-level" => some .logLevel
  | _ => none

/-- The switch that a long name stands for, and which way it is turned. -/
def CommandOption.ofSwitchName? : String → Option (CommandOption × Bool)
  | "--banner" => some (.banner, true)
  | "--no-banner" => some (.banner, false)
  | "--imports" => some (.imports, true)
  | "--no-imports" => some (.imports, false)
  | _ => none

/-- All long names of options. -/
def longNames : List String :=
  ["--output", "--tiles", "--cell-size", "--font", "--banner", "--no-banner", "--imports",
    "--no-imports", "--log-level", "--help"]

namespace Request

/-- What a word asks for under a long name, if there is such a name. An attached value stands
after an equals sign. -/
def ofLongName? (name : String) (attached : Option String) : Option (Except UsageError Request) :=
  match CommandOption.ofLongName? name, CommandOption.ofSwitchName? name with
  | some option, _ => some (.ok (.valued option name attached))
  | none, some (option, value) =>
      some (if attached.isSome then .error (.unwantedValue name) else .ok (.switched option value))
  | none, none =>
      if name == "--help" then
        some (if attached.isSome then .error (.unwantedValue name) else .ok .help)
      else none

/-- What a word asks for under a short name. The only one is `-o`, and the rest of the word is its
value. -/
def ofShortName (chars : List Char) : Except UsageError Request :=
  match chars with
  | _ :: 'o' :: [] => .ok (.valued .output "-o" none)
  | _ :: 'o' :: rest => .ok (.valued .output "-o" (some (String.ofList rest)))
  | _ => .error (.unknownOption (String.ofList (chars.take 2)) [])

/-- What a word that starts with a dash asks for. -/
def ofWord (word : String) : Except UsageError Request :=
  let chars := word.toList
  let name := String.ofList (chars.takeWhile (· != '='))
  let attached :=
    match chars.dropWhile (· != '=') with
    | [] => none
    | _ :: value => some (String.ofList value)
  match ofLongName? name attached with
  | some request => request
  | none =>
      match chars with
      | '-' :: '-' :: _ => .error (.unknownOption name (Text.closest longNames name))
      | _ => ofShortName chars

end Request

namespace Invocation

/-- The same invocation with one more use of an option in front. -/
def withUse (option : CommandOption) (value : OptionValue) (invocation : Invocation) : Invocation :=
  { invocation with uses := (option, value) :: invocation.uses }

/-- Does a word of the command line name an option? A single dash does not. -/
def isOptionWord (word : String) : Bool :=
  match word.toList with
  | '-' :: _ :: _ => true
  | _ => false

/-- Take a command line apart, word by word. -/
def ofArguments : List String → Except UsageError Invocation
  | [] => .ok ⟨[], [], false⟩
  | word :: rest =>
      if word == "--" then .ok ⟨[], rest, false⟩
      else if isOptionWord word then
        match Request.ofWord word with
        | .error error => .error error
        | .ok .help => do
            let invocation ← ofArguments rest
            return { invocation with help := true }
        | .ok (.switched option value) => do
            let invocation ← ofArguments rest
            return invocation.withUse option (.switch value)
        | .ok (.valued option _ (some value)) => do
            let invocation ← ofArguments rest
            return invocation.withUse option (.text value)
        | .ok (.valued option spelling none) =>
            match rest with
            | [] => .error (.missingValue spelling)
            | value :: rest => do
                let invocation ← ofArguments rest
                return invocation.withUse option (.text value)
      else do
        let invocation ← ofArguments rest
        return { invocation with arguments := word :: invocation.arguments }

/-- The options that are used, in the order of their first use, each with its last value. -/
def lastUses (invocation : Invocation) : List (CommandOption × OptionValue) :=
  (invocation.uses.map Prod.fst).eraseDups.filterMap fun option =>
    (invocation.uses.reverse.lookup option).map (option, ·)

end Invocation

/-- The kind of file that a path leads to, if it leads anywhere. -/
abbrev FileLookup := String → Option FileKind

/-- What a path leads to, if it is a path at all. -/
def kindOf (files : FileLookup) (path : String) : Except ValueError (Option FileKind) :=
  if path.toList.contains '\x00' then .error .invalidPath else .ok (files path)

/-- Check that a path leads to a file. -/
def checkFile (files : FileLookup) (path : String) : Except ValueError Unit := do
  match ← kindOf files path with
  | some .file => return ()
  | some .directory => .error (.isDirectory path)
  | none => .error (.missingPath .file path)

/-- Check that a path leads to a directory. -/
def checkDirectory (files : FileLookup) (path : String) : Except ValueError Unit := do
  match ← kindOf files path with
  | some .directory => return ()
  | some .file => .error (.isFile path)
  | none => .error (.missingPath .directory path)

/-- Check that a path does not lead to a directory. -/
def checkWritable (files : FileLookup) (path : String) : Except ValueError Unit := do
  match ← kindOf files path with
  | some .directory => .error (.isDirectory path)
  | _ => return ()

namespace CommandOption

/-- The name of the setting that an option changes; the output is no setting. -/
def setting? : CommandOption → Option String
  | .output => none
  | .tiles => some "tiles_dir"
  | .cellSize => some "cell_size"
  | .font => some "font_path"
  | .banner => some "banner"
  | .imports => some "include_imports"
  | .logLevel => some "log_level"

/-- Check the value of an option. -/
def checkValue (files : FileLookup) (option : CommandOption) (value : OptionValue) :
    Except ValueError Json :=
  match option, value with
  | .output, .text path => do checkWritable files path; return .string path
  | .tiles, .text path => do checkDirectory files path; return .string path
  | .font, .text path => do checkFile files path; return .string path
  | .cellSize, .text text =>
      match Text.integer? text with
      | some size => .ok (.integer size)
      | none => .error (.notInteger text)
  | .logLevel, .text text =>
      if levelChoices.contains (Text.lowerAscii text) then .ok (.string (Text.upper text))
      else .error (.notLevel text)
  | _, .text text => .ok (.string text)
  | _, .switch value => .ok (.bool value)

end CommandOption

/-- A command line with all values checked. -/
structure Request.Checked where
  source : String
  output : Option String
  settings : List (String × Json)

namespace Invocation

/-- Check an option of an invocation. -/
def checkUse (files : FileLookup) (use : CommandOption × OptionValue) :
    Except UsageError (CommandOption × Json) :=
  match use.1.checkValue files use.2 with
  | .ok json => .ok (use.1, json)
  | .error error => .error (.invalidValue use.1.hint error)

/-- Check the values of an invocation. -/
def check (files : FileLookup) (invocation : Invocation) : Except UsageError Request.Checked := do
  let options ← invocation.lastUses.mapM (checkUse files)
  match invocation.arguments with
  | [] => .error .missingSource
  | source :: extra =>
      match checkFile files source with
      | .error error => .error (.invalidValue "'SOURCE'" error)
      | .ok () =>
          if !extra.isEmpty then .error (.extraArguments extra)
          else
            return {
              source
              output := (options.lookup .output).bind Json.string?
              settings := options.filterMap fun (option, json) => option.setting?.map (·, json) }

end Invocation

end WordGrid
