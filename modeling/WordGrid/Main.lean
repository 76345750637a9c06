import WordGrid.Command.Run
import WordGrid.Exchange.PictureRecord
import WordGrid.Exchange.TreeRecord

/-!
# The command

The command line around `Command.run`. The syntax tree of the source is read from standard input
as a tree record. A picture is written as a picture record.
-/

namespace WordGrid.Main

/-- The most bytes that are read from standard input at a time. -/
def chunkSize : USize := 65536

/-- Read a stream up to its end. -/
partial def readAll (stream : IO.FS.Stream) (done : ByteArray) : IO ByteArray := do
  let chunk ← stream.read chunkSize
  if chunk.isEmpty then return done else readAll stream (done ++ chunk)

/-- Read a file, if the path leads to one that can be read. -/
def readFile? (path : String) : IO (Option ByteArray) := do
  try
    return some (← IO.FS.readBinFile path)
  catch _ =>
    return none

/-- What a path leads to. A path that cannot be read because it leads nowhere leads to nothing;
any other path that cannot be read is taken for a directory. -/
def kindOf? (path : String) : IO (Option FileKind) := do
  try
    let _ ← IO.FS.readBinFile path
    return some .file
  catch error =>
    match error with
    | .noFileOrDirectory .. => return none
    | _ => return some .directory

/-- The words of a command line that may be paths, with the directories on the way: every argument,
and what stands after an equals sign or a short name in it. -/
def candidates (arguments : List String) : List String :=
  arguments.flatMap fun argument =>
    let chars := argument.toList
    let words :=
      [argument, String.ofList ((chars.dropWhile (· != '=')).drop 1), String.ofList (chars.drop 2)]
    words.flatMap fun word => [word, Path.normal word] ++ Path.ancestors word

/-- The variables of the environment that settings are taken from. -/
def environment : IO (List (String × String)) := do
  let entries ← Settings.fieldNames.mapM fun field => do
    let name := (Settings.variableName field).toUpper
    return (← IO.getEnv name).map fun value => (name, value)
  return entries.filterMap id

/-- The files out of a list that can be read. -/
def readable (paths : List String) : IO (List String) :=
  paths.filterM fun path => return (← readFile? path).isSome

/-- Find out about the world, run the command, and carry its effect out. -/
def perform (arguments : List String) : IO UInt32 := do
  let paths := candidates arguments
  let kinds ← paths.mapM fun path => return (path, ← kindOf? path)
  let files ← paths.mapM fun path => return (path, ← readFile? path)
  let input ← readAll (← IO.getStdin) .empty
  let tree := ((Json.read? (Utf8.decode input.toList)).bind Node.ofJson?).getD default
  let world : World := {
    environment := ← environment
    files := fun path => (kinds.lookup path).join
    read := fun path => ⟨⟨(((files.lookup path).join).getD .empty).toList⟩, tree⟩ }
  let wanted :=
    match Command.prepare world arguments with
    | .ok summary => summary.wanted
    | .error _ => ⟨[], []⟩
  let available : Available := ⟨← readable wanted.tiles, ← readable wanted.fonts⟩
  let effect := Command.run world available arguments
  for record in effect.records do
    IO.eprintln (record.severity ++ " - " ++ record.message)
  if let some (path, picture) := effect.picture then
    IO.FS.writeFile path picture.toJson.write
  match effect.error with
  | some .invalidPath => IO.eprintln ValueError.invalidPath.message
  | some (.invalidSettings invalid) => IO.eprintln invalid.message
  | some (.unknownLevel name) => IO.eprintln (JournalError.unknownLevel name).message
  | some (.failed failure) => IO.eprintln failure.message
  | some (.unpaintable error) => IO.eprintln error.message
  | some (.unwritable error) => IO.eprintln error.message
  | some _ => IO.eprint effect.output
  | none => IO.print effect.output
  return UInt32.ofNat effect.exitCode

end WordGrid.Main

/-- Run the command on the arguments of the command line. -/
def main (arguments : List String) : IO UInt32 :=
  WordGrid.Main.perform arguments
