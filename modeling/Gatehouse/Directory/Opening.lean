import Gatehouse.Directory.FileStore
import Gatehouse.Directory.Operations
/-!
# Opening a directory

A directory is opened from a file, which is made if it is missing, and it gets its system roles.
-/

namespace Gatehouse.Directory

/-- Why a directory cannot be opened. -/
inductive OpeningFault where
  /-- There is no directory for the file. -/
  | place (path : String) (fault : PathFault)
  | store (cause : StoreError)
  | roles (cause : DirectoryError)
deriving DecidableEq, Repr

/-- Run a computation on the directory whose store is kept in the file at a path. -/
def runAt {α : Type} (path : String) (visit : Visit α) (store : Store) : FileTalk (α × Store) :=
  (FileStore.serve visit store).relay (FileStore.atPath path)

/-- Load the store in the file at a path, and put the system roles into it. -/
def load (path : String) : FileTalk (Except OpeningFault Store) :=
  ((FileStore.load path).relay (FileStore.atPath path)).bind fun
    | .error cause => .done (.error (.store cause))
    | .ok store =>
        (runAt path seedSystemRoles store).bind fun outcome =>
          match outcome.1 with
          | .error cause => .done (.error (.roles cause))
          | .ok () => .done (.ok outcome.2)

/-- Open the directory whose store is kept in the file at a path. -/
def openAt (path : String) : FileTalk (Except OpeningFault Store) :=
  match Path.parent? path with
  | none => load path
  | some parent =>
      .ask (.makeDirectory parent) fun
        | .error fault => .done (.error (.place parent fault))
        | .ok () => load path

end Gatehouse.Directory
