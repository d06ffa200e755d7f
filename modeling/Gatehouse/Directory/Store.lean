import Gatehouse.Dialogue
import Gatehouse.Json.Record
/-!
# Key-value stores

A store holds documents under texts as keys.  The directory talks to its store in single calls, each
of which may fail and then has no effect.  `Store` is the store that keeps its entries in memory and
never fails; others are partners in the same dialogue.
-/

namespace Gatehouse

/-- The contents of a store. -/
abbrev Store := SortedMap String Json

/-- Why a call to a store failed. -/
inductive StoreError where
  | unavailable (detail : String)
  | io (detail : String)
  | serialization (detail : String)
deriving DecidableEq, Repr

/-- The text of such an error. -/
def StoreError.message : StoreError → String
  | .unavailable detail => "store unavailable: " ++ detail
  | .io detail => "store I/O error: " ++ detail
  | .serialization detail => "store contents are not valid JSON: " ++ detail

/-- A call to a store, or to the lock that orders the directory's changes to it. -/
inductive StoreCall where
  | get (key : String)
  | set (key : String) (value : Json)
  /-- Remove an entry, and say whether there was one. -/
  | delete (key : String)
  /-- All entries whose keys begin with a text, in key order. -/
  | scan (start : String)
  | lock
  | unlock

/-- The answer to a call. -/
abbrev StoreCall.Answer : StoreCall → Type
  | .get _ => Except StoreError (Option Json)
  | .set _ _ => Except StoreError Unit
  | .delete _ => Except StoreError Bool
  | .scan _ => Except StoreError (List (String × Json))
  | .lock => Unit
  | .unlock => Unit

/-- The answer to a call that fails.  The lock does not fail. -/
def StoreCall.failure (error : StoreError) : (call : StoreCall) → call.Answer
  | .get _ => .error error
  | .set _ _ => .error error
  | .delete _ => .error error
  | .scan _ => .error error
  | .lock => ()
  | .unlock => ()

namespace Store

/-- Whether a key begins with a text. -/
def begins (start key : String) : Bool := start.toList.isPrefixOf key.toList

/-- The entries whose keys begin with a text: go to the first key that is not below the text, and
take entries up to the first whose key does not begin with it. -/
def scan (store : Store) (start : String) : List (String × Json) :=
  (store.toList.dropWhile fun entry => compare entry.1 start = .lt).takeWhile
    fun entry => begins start entry.1

/-- Answer a call from memory. -/
def answer (store : Store) : (call : StoreCall) → call.Answer × Store
  | .get key => (.ok (store.get? key), store)
  | .set key value => (.ok (), store.insert key value)
  | .delete key => (.ok (store.contains key), store.erase key)
  | .scan start => (.ok (store.scan start), store)
  | .lock => ((), store)
  | .unlock => ((), store)

/-- The document that holds all entries. -/
def document (store : Store) : Json := .object store.toList

end Store

/-- A computation that calls a store. -/
abbrev Visit (α : Type) := Dialogue StoreCall StoreCall.Answer α

end Gatehouse
