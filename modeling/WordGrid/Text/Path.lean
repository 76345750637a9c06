/-!
# Paths

A path is a text in which slashes set names apart. `join` appends a name to a directory, and
`normal` is the shortest spelling of a path that names the same place without following `..`.
-/

namespace WordGrid.Path

/-- Append a name to a directory. A name that starts at the root stands for itself, and no slash
is added to a directory that ends in one. -/
def join (directory name : String) : String :=
  if name.toList.head? == some '/' then name
  else if directory == "" || directory.toList.getLast? == some '/' then directory ++ name
  else directory ++ "/" ++ name

/-- The names on a path, without empty ones and without `.`. -/
def names (path : String) : List String :=
  (path.splitOn "/").filter fun name => name != "" && name != "."

/-- The slashes at the start of a path that count: none, one, or exactly two. -/
def root (path : String) : String :=
  match path.toList with
  | '/' :: '/' :: '/' :: _ => "/"
  | '/' :: '/' :: _ => "//"
  | '/' :: _ => "/"
  | _ => ""

/-- The spelling of a path with single slashes between its names. The path without any name is
the directory it starts from. -/
def normal (path : String) : String :=
  let spelled := root path ++ "/".intercalate (names path)
  if spelled == "" then "." else spelled

/-- The paths of the directories on the way to a path, from the first one on. -/
def ancestors (path : String) : List String :=
  let names := names path
  (List.range (names.length - 1)).map fun count =>
    root path ++ "/".intercalate (names.take (count + 1))

end WordGrid.Path
