import Gatehouse.Text.Blank
/-!
# Paths

A path is a text with slashes between the names on the way.  Empty names and single dots go nowhere,
two dots go back, and a slash at the end asks for a directory.
-/

namespace Gatehouse.Path

/-- Whether a path starts at the root. -/
def isAbsolute (path : String) : Bool := path.toList.head? = some '/'

/-- The names on the way, with a dot at the end of a path that asks for a directory. -/
def steps (path : String) : List String :=
  let names := (Text.split '/' path).filter fun name => !name.isEmpty
  if path.toList.getLast? = some '/' then names ++ ["."] else names

/-- The path that goes on from a directory.  An absolute path starts anew. -/
def join (directory path : String) : String :=
  if isAbsolute path || directory.isEmpty then path
  else if directory.toList.getLast? = some '/' then directory ++ path
  else directory ++ "/" ++ path

/-- A reversed path without the slashes and single dots at its end.  The slash of the root stays. -/
def trimEnd : List Char → List Char
  | ['/'] => ['/']
  | '/' :: rest => trimEnd rest
  | '.' :: '/' :: rest => trimEnd ('/' :: rest)
  | path => path

/-- The directory in which the last name of a path stands, if the path has a name. -/
def parent? (path : String) : Option String :=
  match trimEnd path.toList.reverse with
  | [] => none
  | ['/'] => none
  | trimmed =>
      match trimmed.dropWhile (· ≠ '/') with
      | [] => some ""
      | rest => some (String.ofList (trimEnd rest).reverse)

/-- The last name of a path. -/
def name? (path : String) : Option String := ((steps path).filter (· ≠ ".")).getLast?

end Gatehouse.Path
