import Gatehouse.Elevation
import Gatehouse.Firewall.Rule
import Gatehouse.Dialogue
/-!
# What can go wrong with a packet filter

The causes for which an operation on a packet filter fails, their texts, and the dialogue with the
programs that such operations hold.
-/

namespace Gatehouse.Firewall

/-- Why an operation on a packet filter failed. -/
inductive Error where
  /-- A program could not be given its input or its output could not be read. -/
  | io (detail : String)
  /-- A program printed something that is no JSON. -/
  | serialization (detail : String)
  | unsupportedProtocol (input : String)
  | validation (field message : String)
  /-- A program ran and refused. -/
  | communication (backend message : String) (stderr : Option String) (code : Option Nat)
  | unavailable (detail : String)
  | notImplemented (backend operation : String)
  | unsupported (backend operation : String)
  /-- A batch stopped part way; the rules in `applied` are in force. -/
  | partialBatch (applied : List Rule) (source : Error)
  | elevation (refusal : Elevation.Refusal)
  | internal (detail : String)
deriving Repr, Inhabited

namespace Error

/-- The text of an error. -/
def message : Error → String
  | .io detail => "I/O error: " ++ detail
  | .serialization detail => "JSON error: " ++ detail
  | .unsupportedProtocol input => "Unsupported protocol: " ++ input
  | .validation field message => "Validation error in " ++ field ++ ": " ++ message
  | .communication backend message _ _ => backend ++ " error: " ++ message
  | .unavailable detail => "No packet-filter backend available: " ++ detail
  | .notImplemented backend operation =>
      operation ++ " is not implemented by the " ++ backend ++ " backend"
  | .unsupported backend operation =>
      operation ++ " is not supported by the " ++ backend ++ " backend"
  | .partialBatch applied source =>
      "Batch failed after " ++ Text.ofNat applied.length ++ " rule(s) were applied: " ++
        source.message
  | .elevation refusal => "Elevation error: " ++ refusal.message
  | .internal detail => "Internal error: " ++ detail

/-- Whether the backend can never do what was asked. -/
def isUnsupported : Error → Bool
  | .notImplemented _ _ => true
  | .unsupported _ _ => true
  | _ => false

/-- The error for a run that did not succeed: what the program wrote, or else how it ended. -/
def ofOutput (backend : String) (output : Output) : Error :=
  let stderr := Text.trim (Utf8.lossyText output.stderr)
  .communication backend
    (if stderr.isEmpty then "command exited with " ++ output.status.text else stderr)
    (some stderr) output.status.code?

end Error

/-- What comes back from a command: an output, or the reason why the program could not be run. -/
abbrev Reply := Except Error Output

/-- A computation that runs commands. -/
abbrev Talk (α : Type) := Dialogue Command (fun _ => Reply) α

/-- Run one command. -/
def ask (command : Command) : Talk Reply := .ask command .done

/-- What an operation on a backend leaves: the backend after it, and its result. -/
abbrev Outcome (σ : Type) := σ × Except Error Unit

/-- A rule that may take effect: its port is not zero. -/
def Rule.validated (rule : Rule) : Except Error Rule :=
  if rule.port = 0 then .error (.validation "port" portOutOfRange) else .ok rule

/-- The protocol with the given name. -/
def Protocol.parse (input : String) : Except Error Protocol :=
  match Protocol.parse? input with
  | some protocol => .ok protocol
  | none => .error (.unsupportedProtocol input)

/-- The rule that a user names by a protocol and a number. -/
def Rule.ofRequest (protocol : String) (port : Nat) : Except Error Rule :=
  match Protocol.parse protocol with
  | .error error => .error error
  | .ok protocol =>
      match checkPort port with
      | .ok port => .ok ⟨protocol, port⟩
      | .error message => .error (.validation "port" message)

end Gatehouse.Firewall
