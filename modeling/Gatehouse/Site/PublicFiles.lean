import Gatehouse.Data.Percent
import Gatehouse.Files.Tree
import Gatehouse.Http.MediaType
import Gatehouse.Http.Message
/-!
# Files over the network

Every path that has no other meaning names a file below the directory of public files.  A directory
stands for its index page, and it is asked for with a slash at the end.
-/

namespace Gatehouse.Site

/-- The methods that can be used on files. -/
def fileMethods : String := "GET,HEAD"

/-- The names on the way that a path takes below the directory, unless it would leave it. -/
def namesBelow? (path : String) : Option (List String) :=
  match Percent.decodeText? (String.ofList (path.toList.dropWhile (· = '/'))) with
  | none => none
  | some decoded =>
      let names := Text.split '/' decoded
      if Path.isAbsolute decoded || names.contains ".." then none
      else some (names.filter fun name => !name.isEmpty && name ≠ ".")

/-- The response about a file that cannot be read. -/
def faultResponse : PathFault → Http.Response
  | .missing => .bare 404
  | .notDirectory => .bare 404
  | _ => .bare 500

/-- The response that holds the file at a path. -/
def fileResponse (tree : FileTree) (path : String) : Http.Response :=
  match tree.read path with
  | .ok content =>
      ⟨200, [("content-type", Http.MediaType.ofName ((Path.name? path).getD ""))], content⟩
  | .error fault => faultResponse fault

/-- The response that sends a client on to the same target with a slash at the end.  A lone
authority has no such target. -/
def slashResponse (target : Http.Target) : Http.Response :=
  match target.resource with
  | none => .bare 500
  | some _ => .redirect 307 target.withSlash

/-- The response to a request for a file below `root`. -/
def publicFile (tree : FileTree) (root : String) (method : String) (target : Http.Target) :
    Http.Response :=
  if Http.isRetrieval method then
    match namesBelow? target.path with
    | none => .bare 404
    | some names =>
        let path := names.foldl Path.join root
        if !tree.isDirectory path then fileResponse tree path
        else if target.path.toList.getLast? = some '/' then
          fileResponse tree (Path.join path "index.html")
        else slashResponse target
  else .methodNotAllowed fileMethods

end Gatehouse.Site
