import WordGrid.Command.Arguments
import WordGrid.Journal.Level
import WordGrid.Layout.TextForm
import WordGrid.Outline.Document
import WordGrid.Picture.Painting
import WordGrid.Settings.Load
import WordGrid.Text.Plain
import WordGrid.Text.Utf8

/-!
# Running the command

`Command.run` is what the command does, as a function of its arguments and of the world it finds.
It summarises the source and then prints the grid, or draws it when an output is named. What it
prints, records and draws is its result.
-/

namespace WordGrid

/-- The world that a command finds: the variables of the environment, what paths lead to, and the
documents in the files. -/
structure World where
  environment : List (String × String)
  files : FileLookup
  read : String → Document

/-- Why a picture cannot be written. -/
inductive WriteError where
  | missingDirectory (path : String)
  | notDirectory (path : String)
  | isDirectory (path : String)
  | nameTooLong (path : String)
  deriving DecidableEq, Repr

namespace WriteError

/-- The wording of why a picture cannot be written. -/
def message : WriteError → String
  | .missingDirectory path => "[Errno 2] No such file or directory: " ++ Text.quoted path
  | .notDirectory path => "[Errno 20] Not a directory: " ++ Text.quoted path
  | .isDirectory path => "[Errno 21] Is a directory: " ++ Text.quoted path
  | .nameTooLong path => "[Errno 36] File name too long: " ++ Text.quoted path

/-- The most bytes that a name on a path has. -/
def nameLimit : Nat := 255

/-- The most bytes that a path has. -/
def pathLimit : Nat := 4095

/-- Is the last name on a path too long? -/
def endsTooLong (path : String) : Bool :=
  match (Path.names path).getLast? with
  | some name => nameLimit < (Utf8.encode name).length
  | none => false

/-- Check that a file can be written at a path: every directory on the way is there, and no
directory is in its place. -/
def check (files : FileLookup) (path : String) : Except WriteError Unit :=
  let blocks := fun ancestor => endsTooLong ancestor || files ancestor != some .directory
  if pathLimit < (Utf8.encode path).length then .error (.nameTooLong path)
  else
    match (Path.ancestors path).find? blocks with
    | some ancestor =>
        if endsTooLong ancestor then .error (.nameTooLong path)
        else if files ancestor == some .file then .error (.notDirectory path)
        else .error (.missingDirectory path)
    | none =>
        if endsTooLong path then .error (.nameTooLong path)
        else if files path == some .directory then .error (.isDirectory path)
        else .ok ()

end WriteError

/-- Why a command stops. -/
inductive CommandError where
  | usage (error : UsageError)
  | invalidPath
  | nothingToDraw (source : String)
  | invalidSettings (invalid : Invalid)
  | unknownLevel (name : String)
  | failed (failure : Failure)
  | unpaintable (error : PaintError)
  | unwritable (error : WriteError)

/-- What a command does: what it prints, the records of its journal, the picture it writes and
where, and why it stopped if it did. -/
structure Effect where
  output : String
  records : List Record := []
  picture : Option (String × Picture) := none
  error : Option CommandError := none

namespace CommandError

/-- What the command prints about an error. Only errors in its use are printed; the others are
passed on. -/
def report : CommandError → String
  | .usage error => error.report
  | .invalidPath => ""
  | .nothingToDraw source => "Error: " ++ source ++ " has no declarations to draw\n"
  | .invalidSettings _ => ""
  | .unknownLevel _ => ""
  | .failed _ => ""
  | .unpaintable _ => ""
  | .unwritable _ => ""

/-- The exit code of a command that stops with an error. -/
def exitCode : CommandError → Nat
  | .usage _ => 2
  | _ => 1

end CommandError

namespace Effect

/-- The effect of a command that stops with an error. -/
def stop (error : CommandError) (records : List Record) : Effect :=
  { output := error.report, records, error := some error }

/-- The exit code of a command. -/
def exitCode (effect : Effect) : Nat :=
  match effect.error with
  | some error => error.exitCode
  | none => 0

end Effect

/-- Is there no cell at all in a grid? -/
def Grid.isBlank (grid : Grid) : Bool :=
  grid.all List.isEmpty

/-- The paths where the tiles of a grid would be. -/
def Grid.tilePaths (settings : Settings) (grid : Grid) : List String :=
  grid.placed.filterMap fun placed => (placed.tileKey settings).path?

/-- A summary that is ready to be shown. -/
structure Summary where
  request : Request.Checked
  settings : Settings
  level : Level
  records : List Record
  grid : Grid

namespace Summary

/-- Draw the grid of a summary and write the picture. -/
def draw (files : FileLookup) (available : Available) (output : String) (summary : Summary) :
    Effect :=
  let path := Path.normal output
  match (summary.grid.paint summary.settings available .empty).1 with
  | .error error => .stop (.unpaintable error) summary.records
  | .ok picture =>
      match WriteError.check files path with
      | .error error => .stop (.unwritable error) summary.records
      | .ok () =>
          let written :=
            Notice.imageWritten path summary.grid.length picture.width picture.height
          { output := "Wrote " ++ path ++ "\n"
            records := summary.records ++ summary.level.record [written.event]
            picture := some (path, picture) }

/-- Print the grid of a summary, or draw it when an output is named. -/
def present (files : FileLookup) (available : Available) (summary : Summary) : Effect :=
  match summary.request.output with
  | none => { output := summary.grid.toText none ++ "\n", records := summary.records }
  | some output =>
      if summary.grid.isBlank then
        .stop (.nothingToDraw (Path.normal summary.request.source)) summary.records
      else summary.draw files available output

/-- The files that drawing a summary looks for. -/
def wanted (summary : Summary) : Available :=
  ⟨summary.grid.tilePaths summary.settings, (Path.given? summary.settings.fontPath).toList⟩

end Summary

namespace Command

/-- Summarise the source of a checked call, or stop. -/
def summarise (world : World) (request : Request.Checked) : Except Effect Summary :=
  match Settings.load world.environment request.settings with
  | .error invalid => .error (.stop (.invalidSettings invalid) [])
  | .ok settings =>
      let name := Text.upper settings.logLevel
      match Level.ofName? name with
      | none => .error (.stop (.unknownLevel name) [])
      | some level =>
          let document := world.read request.source
          let reading := document.grid settings.includeImports settings.banner
            (some (Path.normal request.source))
          let records := level.record (reading.notices.map Notice.event)
          match reading.result with
          | .error failure => .error (.stop (.failed failure) records)
          | .ok grid => .ok ⟨request, settings, level, records, grid⟩

/-- Read the arguments and summarise the source, or stop: at a wrong call, or after giving help. -/
def prepare (world : World) (arguments : List String) : Except Effect Summary :=
  match Invocation.ofArguments arguments with
  | .error error => .error (.stop (.usage error) [])
  | .ok invocation =>
      if invocation.help then .error { output := helpText }
      else
        match invocation.check world.files with
        | .error (.invalidValue _ .invalidPath) => .error (.stop .invalidPath [])
        | .error error => .error (.stop (.usage error) [])
        | .ok request => summarise world request

/-- Run the command. What it prints is plain text. -/
def run (world : World) (available : Available) (arguments : List String) : Effect :=
  let effect :=
    match prepare world arguments with
    | .error effect => effect
    | .ok summary => summary.present world.files available
  { effect with output := Text.plain effect.output }

end Command

end WordGrid
