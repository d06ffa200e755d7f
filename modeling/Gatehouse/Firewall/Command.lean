import Gatehouse.Data.Utf8
import Gatehouse.Text.Decimal
/-!
# Commands to packet filters

What is asked of a packet-filter program, and how a finished run of it looks from outside.
-/

namespace Gatehouse.Firewall

/-- A packet-filter program. -/
inductive Program where
  | nft
  | iptables
deriving DecidableEq, Repr

/-- The name of a program. -/
def Program.name : Program → String
  | .nft => "nft"
  | .iptables => "iptables"

/-- One run of a program: its arguments and what it is given to read. -/
structure Command where
  program : Program
  arguments : List String
  input : Option String
deriving DecidableEq, Repr

/-- How a run ended. -/
inductive ExitStatus where
  /-- The program ended by itself with a code. -/
  | exited (code : Nat)
  /-- The program was ended by a signal, and may have left its memory behind. -/
  | signalled (number : Nat) (dumped : Bool)
deriving DecidableEq, Repr

namespace ExitStatus

/-- Whether the run succeeded. -/
def isSuccess (status : ExitStatus) : Bool := status = .exited 0

/-- The exit code of a program that ended by itself. -/
def code? : ExitStatus → Option Nat
  | .exited code => some code
  | .signalled _ _ => none

/-- The names of the signals, from the first on. -/
def signalNames : List String := [
  "SIGHUP", "SIGINT", "SIGQUIT", "SIGILL", "SIGTRAP", "SIGABRT", "SIGBUS", "SIGFPE", "SIGKILL",
  "SIGUSR1", "SIGSEGV", "SIGUSR2", "SIGPIPE", "SIGALRM", "SIGTERM", "SIGSTKFLT", "SIGCHLD",
  "SIGCONT", "SIGSTOP", "SIGTSTP", "SIGTTIN", "SIGTTOU", "SIGURG", "SIGXCPU", "SIGXFSZ",
  "SIGVTALRM", "SIGPROF", "SIGWINCH", "SIGIO", "SIGPWR", "SIGSYS"]

/-- The text of a status. -/
def text : ExitStatus → String
  | .exited code => "exit status: " ++ Text.ofNat code
  | .signalled number dumped =>
      let name := match if number = 0 then none else signalNames[number - 1]? with
        | some name => " (" ++ name ++ ")"
        | none => ""
      "signal: " ++ Text.ofNat number ++ name ++ (if dumped then " (core dumped)" else "")

end ExitStatus

/-- What a finished run left. -/
structure Output where
  status : ExitStatus
  stdout : Bytes
  stderr : Bytes
deriving DecidableEq, Repr

/-- A run that succeeded without a word. -/
def Output.silent : Output := ⟨.exited 0, [], []⟩

end Gatehouse.Firewall
