import Gatehouse.Dialogue
import Gatehouse.Files.Tree
/-!
# Calls to a file system

What the program asks of the files of its machine.  A file tree is a partner that answers every call
from what it holds.
-/

namespace Gatehouse

/-- A call to a file system. -/
inductive FileCall where
  /-- The content of a file. -/
  | read (path : String)
  /-- Replace a whole file, or leave it as it was.  Only the owner may read the new one. -/
  | replace (path text : String)
  /-- Add to the end of a file, which is made if it is missing. -/
  | append (path text : String)
  /-- Make a directory, with the directories on the way to it. -/
  | makeDirectory (path : String)
  /-- Whether there is anything at the end of a path. -/
  | probe (path : String)
deriving DecidableEq, Repr

/-- The answer to a call. -/
abbrev FileCall.Answer : FileCall → Type
  | .read _ => Except PathFault Bytes
  | .replace _ _ => Except PathFault Unit
  | .append _ _ => Except PathFault Unit
  | .makeDirectory _ => Except PathFault Unit
  | .probe _ => Bool

/-- A computation that uses files. -/
abbrev FileTalk (α : Type) := Dialogue FileCall FileCall.Answer α

/-- Replace the file at a path, in a directory that is made if it is missing. -/
def FileTalk.write (path text : String) : FileTalk (Except PathFault Unit) :=
  match Path.parent? path with
  | none => .ask (.replace path text) .done
  | some parent =>
      .ask (.makeDirectory parent) fun
        | .error fault => .done (.error fault)
        | .ok () => .ask (.replace path text) .done

namespace FileTree

/-- The tree after a change that may have been refused. -/
def settle (tree : FileTree) : Except PathFault FileTree → Except PathFault Unit × FileTree
  | .ok changed => (.ok (), changed)
  | .error fault => (.error fault, tree)

/-- Answer a call. -/
def answer (tree : FileTree) : (call : FileCall) → call.Answer × FileTree
  | .read path => (tree.read path, tree)
  | .replace path text => tree.settle (tree.replace path (Utf8.encode text))
  | .append path text => tree.settle (tree.append path (Utf8.encode text))
  | .makeDirectory path => tree.settle (tree.makeDirectory path)
  | .probe path => ((tree.resolve path).toOption.isSome, tree)

end FileTree

end Gatehouse
