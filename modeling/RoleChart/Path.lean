import RoleChart.Text.Basic

/-!
# Paths

A path is a text: names with slashes between them. A path from the root starts with a slash. Empty
names and the name `.` lead nowhere.
-/

namespace RoleChart

/-- Whether a path starts at the root. -/
def isAbsolute (path : String) : Bool := path.toList.head? == some '/'

/-- A path below another. A path from the root stays as it is. -/
def joinPath (base path : String) : String :=
  if isAbsolute path || base.isEmpty then path
  else if Text.endsWith '/' base.toList then base ++ path
  else base ++ "/" ++ path

/-- The directory part of a path: everything up to its last slash. -/
def directoryPart (path : String) : String :=
  String.ofList (path.toList.reverse.dropWhile (· != '/')).reverse

/-- The names on the way of a path. -/
def pathNames (path : String) : List String :=
  ((Text.splitOn '/' path.toList).map String.ofList).filter fun name => name != "" && name != "."

/-- Whether a path can only lead to a directory: it ends with a slash or with a dot for a name. -/
def isDirectoryPath (path : String) : Bool :=
  match (Text.splitOn '/' path.toList).getLast? with
  | some [] => true
  | some ['.'] => true
  | _ => false

/-- The beginnings of a list that are not empty, shortest first. -/
def beginnings {α : Type} : List α → List (List α)
  | [] => []
  | x :: xs => [x] :: (beginnings xs).map (x :: ·)

/-- The path through the given names, from the root or not. -/
def pathThrough (absolute : Bool) (names : List String) : String :=
  (if absolute then "/" else "") ++ "/".intercalate names

/-- The paths to each directory on the way of a path and to its end, longest first. -/
def ancestors (path : String) : List String :=
  ((beginnings (pathNames path)).map (pathThrough (isAbsolute path))).reverse

end RoleChart
