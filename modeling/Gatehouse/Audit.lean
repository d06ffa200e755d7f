import Gatehouse.Files.Call
import Gatehouse.Firewall.Rule
import Gatehouse.Json.Record
import Gatehouse.Net.Address
import Gatehouse.Time.Timestamp
/-!
# The audit log

Every change to the packet filter and every decision about access leaves a line in the audit log,
and each line is one document.  The log only grows.  Lines that are no events are passed over when
it is read.
-/

namespace Gatehouse.Audit

/-- What an event is about. -/
inductive Kind where
  | allowPort
  | revokePort
  | flushRules
  | login
  | loginFailed
  | passwordReset
  | logout
deriving DecidableEq, Repr

namespace Kind

/-- The name of a kind. -/
def name : Kind → String
  | .allowPort => "allow_port"
  | .revokePort => "revoke_port"
  | .flushRules => "flush_rules"
  | .login => "login"
  | .loginFailed => "login_failed"
  | .passwordReset => "password_reset"
  | .logout => "logout"

/-- All kinds. -/
def all : List Kind :=
  [.allowPort, .revokePort, .flushRules, .login, .loginFailed, .passwordReset, .logout]

/-- The kind with a name. -/
def ofName? (name : String) : Option Kind := all.find? fun kind => kind.name = name

end Kind

/-- An entry of the log. -/
structure Event where
  timestamp : Instant
  kind : Kind
  success : Bool
  details : Json
  error : Option String

namespace Event

/-- The event of a decision about access: only a failed sign-in is no success. -/
def ofAccess (now : Instant) (kind : Kind) (username : String) (client : Address) : Event where
  timestamp := now
  kind := kind
  success := kind ≠ .loginFailed
  details := .ofMembers [("username", .string username), ("client", .string client.text)]
  error := none

/-- The event of a change to the packet filter, which succeeded unless it ended with an error. -/
def ofChange (now : Instant) (kind : Kind) (backend : String) (rule : Option Firewall.Rule)
    (actor : String) (error : Option String) : Event where
  timestamp := now
  kind := kind
  success := error.isNone
  details := .ofMembers [("backend", .string backend),
    ("rule", .ofText? (rule.map Firewall.Rule.text)), ("actor", .string actor)]
  error := error

/-- The document of an event. -/
def document (event : Event) : Json := .object [
  ("timestamp", .string (Timestamp.text event.timestamp)), ("event_type", .string event.kind.name),
  ("success", .bool event.success), ("details", event.details), ("error", .ofText? event.error)]

/-- How an event is read. -/
def fields : Draft.Fields Event :=
  Event.mk <$> .required "timestamp" (Draft.spelled Timestamp.parse?)
    <*> .required "event_type" (Draft.choice Kind.ofName?) <*> .required "success" Draft.boolean
    <*> .required "details" (Draft.value (Draft.deepest - 1)) <*> .optional "error" Draft.text

/-- The line of an event in the log. -/
def line (event : Event) : String := event.document.compact ++ "\n"

/-- The event of a line. -/
def ofLine? (line : String) : Option Event := (Draft.readText fields.read line).toOption

end Event

/-- The events among the last `count` lines of a log, newest first. -/
def recent (count : Nat) (log : String) : List Event :=
  ((Text.lines log).reverse.take count).filterMap Event.ofLine?

/-- Add an event to the log at a path.  Nothing waits for the log, so a failure is passed over. -/
def record (path : String) (event : Event) : FileTalk Unit :=
  .ask (.append path event.line) fun _ => .done ()

/-- Read the latest events from the log at a path. -/
def readRecent (path : String) (count : Nat) : FileTalk (Except PathFault (List Event)) :=
  .ask (.read path) fun
    | .error fault => .done (.error fault)
    | .ok content =>
        match Utf8.text? content with
        | some log => .done (.ok (recent count log))
        | none => .done (.error (.denied "stream did not contain valid UTF-8"))

end Gatehouse.Audit
