import Gatehouse.Directory.Store
import Gatehouse.Files.Call
/-!
# Stores kept in a file

All entries are held in memory and in one file, as one object.  Each change is made in memory and
then writes the whole file anew; when that fails the change is taken back, so memory and file agree.
-/

namespace Gatehouse

/-- What is asked of the disk that holds a store. -/
inductive DiskCall where
  | read
  /-- Replace the whole file, or leave it as it was. -/
  | write (text : String)

/-- What a file holds. -/
inductive FileContent where
  | missing
  | bytes (content : Bytes)
deriving DecidableEq, Repr, Inhabited

/-- The answer of the disk.  A failure is told by its text. -/
abbrev DiskCall.Answer : DiskCall → Type
  | .read => Except String FileContent
  | .write _ => Except String Unit

/-- A computation that uses the disk. -/
abbrev DiskTalk (α : Type) := Dialogue DiskCall DiskCall.Answer α

namespace FileStore

/-- The text of a file that holds the given entries. -/
def text (store : Store) : String := store.document.pretty

/-- The entries that the bytes of a file hold. -/
def parse? (content : Bytes) : Option Store :=
  match Json.parseBytes? content with
  | some (.object members) => some (.ofList members)
  | _ => none

/-- Open the store in the file that has the given name in messages.  It starts without entries when
there is no file. -/
def load (name : String) : DiskTalk (Except StoreError Store) :=
  .ask .read fun
    | .error detail => .done (.error (.unavailable (name ++ ": " ++ detail)))
    | .ok (.bytes content) =>
        match parse? content with
        | some store => .done (.ok store)
        | none => .done (.error (.serialization "the file holds no JSON object"))
    | .ok .missing =>
        .ask (.write (text .empty)) fun
          | .error detail =>
              .done (.error (.unavailable (name ++ ": " ++ (StoreError.io detail).message)))
          | .ok () => .done (.ok .empty)

/-- Put back what a key held. -/
def putBack (store : Store) (key : String) : Option Json → Store
  | some previous => store.insert key previous
  | none => store.erase key

/-- Write the changed contents of a store to its file.  When that fails, the key gets back what it
held before the change. -/
def commit {α : Type} (changed : Store) (key : String) (previous : Option Json) (value : α) :
    DiskTalk (Except StoreError α × Store) :=
  .ask (.write (text changed)) fun
    | .error detail => .done (.error (.io detail), putBack changed key previous)
    | .ok () => .done (.ok value, changed)

/-- Answer a call, with the contents afterwards. -/
def answer (store : Store) : (call : StoreCall) → DiskTalk (call.Answer × Store)
  | .get key => .done (.ok (store.get? key), store)
  | .set key value => commit (store.insert key value) key (store.get? key) ()
  | .delete key =>
      match store.get? key with
      | some previous => commit (store.erase key) key (some previous) true
      | none => .done (.ok false, store)
  | .scan start => .done (.ok (store.scan start), store)
  | .lock => .done ((), store)
  | .unlock => .done ((), store)

/-- Run a computation on a store, with the contents afterwards. -/
def serve {α : Type} (visit : Visit α) (store : Store) : DiskTalk (α × Store) :=
  visit.interpret answer store

/-! ## The disk as part of a file system -/

/-- Answer a call by the file at a path. -/
def atPath (path : String) : (call : DiskCall) → FileTalk call.Answer
  | .read =>
      .ask (.read path) fun
        | .ok content => .done (.ok (.bytes content))
        | .error .missing => .done (.ok .missing)
        | .error fault => .done (.error fault.message)
  | .write text =>
      (FileTalk.write path text).bind fun result => .done (result.mapError PathFault.message)

end FileStore

end Gatehouse
