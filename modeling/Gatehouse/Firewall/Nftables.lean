import Gatehouse.Json.Record
import Gatehouse.Firewall.Error
import Gatehouse.Firewall.Nftables.Listing
/-!
# The nftables backend

The backend remembers the handle of every rule in the managed table, so that it deletes exactly the
rules that it added.  Each change is one batch, which the program commits or refuses as a whole.
-/

namespace Gatehouse.Firewall

/-- A session with nftables. -/
structure Nftables where
  /-- The rules known to be in the managed table, with their handles. -/
  handles : SortedMap Rule Nat
  /-- Whether the managed table has been created and not been deleted since. -/
  tablePresent : Bool
  closed : Bool

namespace Nftables

/-- The name of the backend. -/
def name : String := "nftables"

/-- A session before anything is known of the table. -/
def fresh : Nftables := ⟨.empty, false, false⟩

/-- The rules held, in order. -/
def rules (backend : Nftables) : List Rule := backend.handles.keys

/-- The blanks of an output that holds nothing. -/
def isBlankByte (b : UInt8) : Bool := b = 32 || b = 9 || b = 10 || b = 12 || b = 13

/-- The document that the program printed. -/
def document (stdout : Bytes) : Except Error Json :=
  match Json.parseBytes? stdout with
  | some json => .ok json
  | none => .error (.serialization "the output is no JSON document")

/-- What an output of a batch reports; nothing when there is none. -/
def report (stdout : Bytes) : Except Error Json :=
  if stdout.all isBlankByte then .ok .null else document stdout

/-- The command that commits a batch, reporting the rules that it adds if `echo`. -/
def batchCommand (batch : Json) (echo : Bool) : Command where
  program := .nft
  arguments :=
    if echo then ["--json", "--echo", "--handle", "-f", "-"] else ["--json", "-f", "-"]
  input := some batch.compact

/-- The command that lists the managed chain. -/
def listCommand : Command :=
  ⟨.nft, ["--json", "list", "chain", tableFamily, tableName, chainName], none⟩

/-- The output of a run that succeeded. -/
def accepted : Reply → Except Error Output
  | .error error => .error error
  | .ok output => if output.status.isSuccess then .ok output else .error (.ofOutput name output)

/-- Commit a batch. -/
def apply (batch : Json) (echo : Bool) : Talk (Except Error Json) :=
  (ask (batchCommand batch echo)).bind fun reply =>
    .done ((accepted reply).bind fun output => report output.stdout)

/-- Remember handles, the last one given for a rule. -/
def adopt (backend : Nftables) (found : List (Rule × Nat)) : Nftables :=
  { backend with
    handles := found.foldl (fun handles entry => handles.insert entry.1 entry.2) backend.handles }

/-- Create table and chain, and take over the rules that are already there. -/
def start : Talk (Except Error Nftables) :=
  (apply setupBatch false).bind fun
    | .error error => .done (.error error)
    | .ok _ =>
        (ask listCommand).bind fun reply =>
          .done do
            let output ← accepted reply
            let listing ← document output.stdout
            return { fresh with tablePresent := true }.adopt (reportedHandles listing [])

/-- The rules of a batch that are not held yet, each once, in order of first occurrence. -/
def pending (held : SortedMap Rule Nat) : List Rule → List Rule → Except Error (List Rule)
  | found, [] => .ok found
  | found, rule :: rest =>
      match rule.validated with
      | .error error => .error error
      | .ok rule =>
          if held.contains rule || found.contains rule then pending held found rest
          else pending held (found ++ [rule]) rest

/-- Take over the handles that an echo reports; every rule asked for has to have one then. -/
def settle (backend : Nftables) (asked : List Rule) (echoed : Json) : Outcome Nftables :=
  let after := { backend with tablePresent := true }.adopt (reportedHandles echoed asked)
  match asked.filter fun rule => !after.handles.contains rule with
  | [] => (after, .ok ())
  | missing =>
      (after, .error (.internal
        ("nft did not report handles for " ++ ", ".intercalate (missing.map Rule.text))))

/-- The error for operations on a session that has been closed. -/
def closedError : Error := .internal "nftables backend is closed"

/-- Allow a batch of rules. -/
def allowAll (backend : Nftables) (rules : List Rule) : Talk (Outcome Nftables) :=
  if backend.closed then .done (backend, .error closedError)
  else
    match pending backend.handles [] rules with
    | .error error => .done (backend, .error error)
    | .ok [] => .done (backend, .ok ())
    | .ok asked =>
        (apply (allowBatch asked) true).bind fun
          | .error error => .done (backend, .error error)
          | .ok echoed => .done (backend.settle asked echoed)

/-- Allow one rule. -/
def allow (backend : Nftables) (rule : Rule) : Talk (Outcome Nftables) :=
  match rule.validated with
  | .error error => .done (backend, .error error)
  | .ok rule => backend.allowAll [rule]

/-- Delete the rule that was added for a protocol and port, if there is one. -/
def revoke (backend : Nftables) (rule : Rule) : Talk (Outcome Nftables) :=
  if backend.closed then .done (backend, .error closedError)
  else
    match rule.validated with
    | .error error => .done (backend, .error error)
    | .ok rule =>
        match backend.handles.get? rule with
        | none => .done (backend, .ok ())
        | some handle =>
            (apply (revokeBatch handle) false).bind fun
              | .error error => .done (backend, .error error)
              | .ok _ => .done ({ backend with handles := backend.handles.erase rule }, .ok ())

/-- Delete the managed table. -/
def flush (backend : Nftables) : Talk (Outcome Nftables) :=
  if backend.tablePresent then
    (apply flushBatch false).bind fun
      | .error error => .done (backend, .error error)
      | .ok _ => .done ({ backend with handles := .empty, tablePresent := false }, .ok ())
  else .done ({ backend with handles := .empty }, .ok ())

/-- End the session. -/
def close (backend : Nftables) : Nftables := { backend with closed := true }

end Nftables

end Gatehouse.Firewall
