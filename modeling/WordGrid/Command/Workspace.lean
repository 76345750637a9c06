import WordGrid.Command.Usage
import WordGrid.Text.Path

/-!
# Workspaces

A workspace is a directory with files and directories in it. It tells what a path leads to when
the path starts from it.
-/

namespace WordGrid

/-- The files and directories below a directory, by their paths from it. -/
structure Workspace where
  files : List String
  directories : List String

namespace Workspace

/-- What stands at a place, given as the names that lead to it. The directories on the way to a
file or directory are there too. -/
def kindAt? (workspace : Workspace) (place : List String) : Option FileKind :=
  let files := workspace.files.map Path.names
  let directories := workspace.directories.map Path.names
  if place.isEmpty || directories.any (place.isPrefixOf ·) then some .directory
  else if files.contains place then some .file
  else if files.any (place.isPrefixOf ·) then some .directory
  else none

/-- Follow names from a place. Only a directory can be entered or left. -/
def follow? (workspace : Workspace) : List String → List String → Option (List String)
  | place, [] => some place
  | place, name :: rest =>
      if workspace.kindAt? place == some .directory then
        if name == ".." then follow? workspace place.dropLast rest
        else follow? workspace (place ++ [name]) rest
      else none

/-- What a path leads to. A path with a slash at its end leads to a directory or nowhere, and of
the paths from the root only the root itself is known. -/
def lookup (workspace : Workspace) (path : String) : Option FileKind :=
  if path == "" then none
  else if Path.root path != "" then
    if (Path.names path).isEmpty then some .directory else none
  else
    match (workspace.follow? [] (Path.names path)).bind workspace.kindAt? with
    | some .file => if path.toList.getLast? == some '/' then none else some .file
    | kind => kind

end Workspace

end WordGrid
