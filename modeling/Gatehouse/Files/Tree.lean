import Gatehouse.Data.Utf8
import Gatehouse.Files.Path
/-!
# File trees

A tree of directories with files and symbolic links in them, and the way a path takes through it.
Links are followed wherever they stand on the way.
-/

namespace Gatehouse

/-- The names on the way from the root of a tree, none of them leading back. -/
abbrev Place := List String

/-- What can stand at a place. -/
inductive FileEntry where
  | file (content : Bytes)
  | directory
  /-- A symbolic link to the target. -/
  | link (target : String)
deriving DecidableEq, Repr

/-- A file tree, with what stands at each place.  The root is a directory. -/
structure FileTree where
  entries : List (Place × FileEntry)
deriving Inhabited

/-- Why a path cannot be used. -/
inductive PathFault where
  | missing
  | notDirectory
  | isDirectory
  | tooManyLinks
  | nameTooLong
  /-- The path holds a character that no name can hold. -/
  | malformed
  /-- The place is out of reach for another reason. -/
  | denied (detail : String)
deriving DecidableEq, Repr

/-- The text of such a fault. -/
def PathFault.message : PathFault → String
  | .missing => "No such file or directory"
  | .notDirectory => "Not a directory"
  | .isDirectory => "Is a directory"
  | .tooManyLinks => "Too many levels of symbolic links"
  | .nameTooLong => "File name too long"
  | .malformed => "file name contained an unexpected NUL byte"
  | .denied detail => detail

namespace FileTree

/-- The tree with nothing in it. -/
def empty : FileTree := ⟨[]⟩

/-- What stands at a place. -/
def at? (tree : FileTree) (place : Place) : Option FileEntry :=
  if place.isEmpty then some .directory else tree.entries.lookup place

/-- Whether a file stands at a place. -/
def isFile (tree : FileTree) (place : Place) : Bool :=
  match tree.at? place with
  | some (.file _) => true
  | _ => false

/-- Put something at a place. -/
def put (tree : FileTree) (place : Place) (entry : FileEntry) : FileTree :=
  ⟨(place, entry) :: tree.entries.filter fun other => other.1 ≠ place⟩

/-- The longest name in bytes. -/
def nameLimit : Nat := 255

/-- The longest path in bytes. -/
def pathLimit : Nat := 4095

/-- The most links that one path may lead through. -/
def linkLimit : Nat := 40

/-- The place to which some steps lead from a directory, through at most `links` links. -/
def follow (tree : FileTree) (links : Nat) (here : Place) : List String → Except PathFault Place
  | [] => .ok here
  | step :: rest =>
      if step = "." then tree.follow links here rest
      else if step = ".." then tree.follow links here.dropLast rest
      else if nameLimit < (Utf8.encode step).length then .error .nameTooLong
      else
        match tree.at? (here ++ [step]) with
        | none => .error .missing
        | some .directory => tree.follow links (here ++ [step]) rest
        | some (.file _) => if rest.isEmpty then .ok (here ++ [step]) else .error .notDirectory
        | some (.link target) =>
            match links with
            | 0 => .error .tooManyLinks
            | links + 1 =>
                tree.follow links (if Path.isAbsolute target then [] else here)
                  (Path.steps target ++ rest)
termination_by steps => (links, steps.length)

/-- Refuse a path that no tree can hold. -/
def checked (path : String) : Except PathFault Unit :=
  if path.toList.contains '\x00' then .error .malformed
  else if pathLimit < (Utf8.encode path).length then .error .nameTooLong
  else if path.isEmpty then .error .missing
  else .ok ()

/-- The place to which a path leads. -/
def resolve (tree : FileTree) (path : String) : Except PathFault Place :=
  match checked path with
  | .error fault => .error fault
  | .ok () => tree.follow linkLimit [] (Path.steps path)

/-- Whether a path leads to a directory. -/
def isDirectory (tree : FileTree) (path : String) : Bool :=
  match tree.resolve path with
  | .ok place => tree.at? place = some .directory
  | .error _ => false

/-- The content of the file to which a path leads. -/
def read (tree : FileTree) (path : String) : Except PathFault Bytes :=
  match tree.resolve path with
  | .error fault => .error fault
  | .ok place =>
      match tree.at? place with
      | some (.file content) => .ok content
      | _ => .error .isDirectory

/-- Make the directories on the way from a directory that are missing. -/
def makeWay (tree : FileTree) (here : Place) : List String → Except PathFault FileTree
  | [] => .ok tree
  | step :: rest =>
      match tree.follow linkLimit here [step] with
      | .ok place =>
          if tree.at? place = some .directory then tree.makeWay place rest
          else .error .notDirectory
      | .error .missing =>
          if (tree.at? (here ++ [step])).isSome then .error .missing
          else (tree.put (here ++ [step]) .directory).makeWay (here ++ [step]) rest
      | .error fault => .error fault

/-- Make a directory, with the directories on the way to it. -/
def makeDirectory (tree : FileTree) (path : String) : Except PathFault FileTree :=
  if path.isEmpty then .ok tree
  else
    match checked path with
    | .error fault => .error fault
    | .ok () => tree.makeWay [] (Path.steps path)

/-- Put something at a path, with the directories on the way to it. -/
def lay (tree : FileTree) (path : String) (entry : FileEntry) : FileTree :=
  let above := tree.makeDirectory ((Path.parent? path).getD "")
  (above.toOption.getD tree).put ((Path.steps path).filter (· ≠ ".")) entry

/-- The place at which a path would put a file: its last name in the directory before it. -/
def target (tree : FileTree) (path : String) : Except PathFault Place :=
  match checked path, (Path.steps path).getLast? with
  | .error fault, _ => .error fault
  | .ok (), none => .error .isDirectory
  | .ok (), some name =>
      if name = "." || name = ".." then .error .isDirectory
      else if nameLimit < (Utf8.encode name).length then .error .nameTooLong
      else
        match tree.follow linkLimit [] (Path.steps path).dropLast with
        | .error fault => .error fault
        | .ok directory =>
            if tree.at? directory = some .directory then .ok (directory ++ [name])
            else .error .notDirectory

/-- Put a file in the place of whatever stands at the path, unless that is a directory. -/
def replace (tree : FileTree) (path : String) (content : Bytes) : Except PathFault FileTree :=
  match tree.target path with
  | .error fault => .error fault
  | .ok place =>
      if tree.at? place = some .directory then .error .isDirectory
      else .ok (tree.put place (.file content))

/-- Add to the end of a file, which is made if it is missing. -/
def append (tree : FileTree) (path : String) (content : Bytes) : Except PathFault FileTree :=
  match tree.resolve path with
  | .ok place =>
      match tree.at? place with
      | some (.file before) => .ok (tree.put place (.file (before ++ content)))
      | _ => .error .isDirectory
  | .error .missing => tree.replace path content
  | .error fault => .error fault

end FileTree

end Gatehouse
