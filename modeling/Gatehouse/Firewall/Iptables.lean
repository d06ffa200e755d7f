import Gatehouse.SortedMap
import Gatehouse.Firewall.Error
/-!
# The iptables backend

Each rule is one line of the `INPUT` chain of the `filter` table with the comment `sleuth`, by which
the backend tells its own lines from those of others.  There are no batches: rules are appended
and deleted one by one.
-/

namespace Gatehouse.Firewall

/-- A session with iptables. -/
structure Iptables where
  /-- The rules known to be in the chain. -/
  owned : SortedMap Rule Unit
  closed : Bool

namespace Iptables

/-- The name of the backend. -/
def name : String := "iptables"

/-- The comment that marks the lines of this program. -/
def comment : String := "sleuth"

/-- The table of the managed lines. -/
def table : String := "filter"

/-- The chain of the managed lines. -/
def chain : String := "INPUT"

/-! ## Lines of the chain -/

/-- The specification of a rule, the same for looking up, appending and deleting it. -/
def specification (rule : Rule) : List String := [
  "-p", rule.protocol.name, "--dport", Text.ofNat rule.port.toNat,
  "-m", "comment", "--comment", comment, "-j", "ACCEPT"]

/-- A word without the double quotes at its ends. -/
def unquote (word : String) : String :=
  String.ofList ((word.toList.dropWhile (· = '"')).reverse.dropWhile (· = '"')).reverse

/-- The word after the first occurrence of a flag. -/
def valueAfter? (flag : String) : List String → Option String
  | [] => none
  | word :: rest => if word = flag then rest.head?.map unquote else valueAfter? flag rest

/-- The managed rule that a line of a listing shows. -/
def ruleOfLine? (line : String) : Option Rule := do
  let words := Text.words line
  if words.head? = some "-A" ∧ words[1]? = some chain then
    let mark ← valueAfter? "--comment" words
    if mark = comment then
      let target ← valueAfter? "-j" words
      if target = "ACCEPT" then
        let protocol ← Protocol.parse? (← valueAfter? "-p" words)
        let port ← Text.readNat? 65535 (← valueAfter? "--dport" words).toList
        if port = 0 then none else return ⟨protocol, UInt16.ofNat port⟩
      else none
    else none
  else none

/-- The managed rules that a listing shows. -/
def rulesOfListing (listing : String) : List Rule := (Text.lines listing).filterMap ruleOfLine?

/-! ## Sessions -/

/-- The rules owned, in order. -/
def rules (backend : Iptables) : List Rule := backend.owned.keys

/-- The command that lists the chain. -/
def listCommand : Command := ⟨.iptables, ["-w", "-t", table, "-S", chain], none⟩

/-- The command that applies an operation (`-C`, `-A` or `-D`) to a rule. -/
def command (operation : String) (rule : Rule) : Command :=
  ⟨.iptables, ["-w", "-t", table, operation, chain] ++ specification rule, none⟩

/-- List the chain, and take over the managed rules that are already there. -/
def start : Talk (Except Error Iptables) :=
  (ask listCommand).bind fun
    | .error error => .done (.error error)
    | .ok output =>
        if output.status.isSuccess then
          let found := rulesOfListing (Utf8.lossyText output.stdout)
          .done (.ok ⟨.ofList (found.map fun rule => (rule, ())), false⟩)
        else .done (.error (.ofOutput name output))

/-- What a lookup says: code zero means present, and code one absent. -/
def presence : Reply → Except Error Bool
  | .error error => .error error
  | .ok output =>
      if output.status = .exited 0 then .ok true
      else if output.status = .exited 1 then .ok false
      else .error (.ofOutput name output)

/-- Whether a run succeeded. -/
def accepted : Reply → Except Error Unit
  | .error error => .error error
  | .ok output => if output.status.isSuccess then .ok () else .error (.ofOutput name output)

/-- The session in which a rule is owned. -/
def own (backend : Iptables) (rule : Rule) : Iptables :=
  { backend with owned := backend.owned.insert rule () }

/-- The session in which a rule is not owned. -/
def disown (backend : Iptables) (rule : Rule) : Iptables :=
  { backend with owned := backend.owned.erase rule }

/-- The error for operations on a session that has been closed. -/
def closedError : Error := .internal "iptables backend is closed"

/-- Run `next` for a rule that may take effect, in a session that is open. -/
def guarded (backend : Iptables) (rule : Rule) (next : Rule → Talk (Outcome Iptables)) :
    Talk (Outcome Iptables) :=
  if backend.closed then .done (backend, .error closedError)
  else
    match rule.validated with
    | .error error => .done (backend, .error error)
    | .ok rule => next rule

/-- Allow one rule: append its line unless it is there. -/
def allow (backend : Iptables) (rule : Rule) : Talk (Outcome Iptables) :=
  backend.guarded rule fun rule =>
    (ask (command "-C" rule)).bind fun lookup =>
      match presence lookup with
      | .error error => .done (backend, .error error)
      | .ok true => .done (backend.own rule, .ok ())
      | .ok false =>
          (ask (command "-A" rule)).bind fun reply =>
            match accepted reply with
            | .error error => .done (backend, .error error)
            | .ok () => .done (backend.own rule, .ok ())

/-- Revoke one rule: delete its line if it is there. -/
def revoke (backend : Iptables) (rule : Rule) : Talk (Outcome Iptables) :=
  backend.guarded rule fun rule =>
    (ask (command "-C" rule)).bind fun lookup =>
      match presence lookup with
      | .error error => .done (backend, .error error)
      | .ok false => .done (backend.disown rule, .ok ())
      | .ok true =>
          (ask (command "-D" rule)).bind fun reply =>
            match accepted reply with
            | .error error => .done (backend, .error error)
            | .ok () => .done (backend.disown rule, .ok ())

/-- Delete the lines of some rules, going on after failures; the last failure is the result. -/
def deleteAll (backend : Iptables) (result : Except Error Unit) :
    List Rule → Talk (Outcome Iptables)
  | [] => .done (backend, result)
  | rule :: rest =>
      (ask (command "-D" rule)).bind fun reply =>
        match accepted reply with
        | .ok () => deleteAll (backend.disown rule) result rest
        | .error error => deleteAll backend (.error error) rest

/-- Delete the lines of all rules owned. -/
def flush (backend : Iptables) : Talk (Outcome Iptables) :=
  backend.deleteAll (.ok ()) backend.rules

/-- End the session. -/
def close (backend : Iptables) : Iptables := { backend with closed := true }

end Iptables

end Gatehouse.Firewall
