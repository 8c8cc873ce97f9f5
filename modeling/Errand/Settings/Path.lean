import Errand.Text.Search

/-!
# Paths

Paths of files as text, with slashes between their names.
-/

namespace Errand.Path

/-- A name below a directory. -/
def join (directory name : String) : String :=
  if directory.isEmpty || Text.endsWith "/" directory then directory ++ name
  else directory ++ "/" ++ name

/-- The directory that the last name of a path is below. -/
def parent (path : String) : String :=
  match Chars.breakAt? ['/'] path.toList.reverse with
  | some (_, before) => String.ofList before.reverse
  | none => ""

/-- A directory, given from the root, and the directories that it is below, the
nearest first. -/
def ancestors (directory : String) : List String :=
  let names := Chars.splitOn ['/'] directory.toList
  (List.range names.length).map fun i =>
    let path := ['/'].intercalate (names.take (names.length - i))
    if path.isEmpty then "/" else String.ofList path

end Errand.Path
