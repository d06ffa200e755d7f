import Gatehouse.Elevation
import Gatehouse.Files.Call
import Gatehouse.Firewall.Error
/-!
# Calls to the machine

What the program asks of the machine that it runs on: its files, and runs of programs.
-/

namespace Gatehouse

/-- A call to the machine. -/
inductive MachineCall where
  | file (call : FileCall)
  /-- Run a program, with a text to read. -/
  | execute (invocation : Elevation.Invocation) (input : Option String)
deriving DecidableEq, Repr

/-- The answer to a call.  A program that cannot be started is told by the reason. -/
abbrev MachineCall.Answer : MachineCall → Type
  | .file call => call.Answer
  | .execute _ _ => Except String Firewall.Output

/-- A computation that uses the machine. -/
abbrev MachineTalk (α : Type) := Dialogue MachineCall MachineCall.Answer α

namespace MachineTalk

/-- A computation that uses files alone. -/
def ofFiles {α : Type} (talk : FileTalk α) : MachineTalk α :=
  talk.relay fun call => .question (.file call)

/-- Run a command of a packet filter, with the rights that it needs. -/
def command (host : Elevation.Host) (command : Firewall.Command) : MachineTalk Firewall.Reply :=
  match Elevation.invocation host command.program command.arguments with
  | .error refusal => .done (.error (.elevation refusal))
  | .ok invocation =>
      .ask (.execute invocation command.input) fun
        | .ok output => .done (.ok output)
        | .error reason =>
            .done (.error (.internal
              ("Failed to spawn elevated " ++ command.program.name ++ ": " ++ reason)))

/-- A computation that runs commands alone. -/
def ofFilter {α : Type} (host : Elevation.Host) (talk : Firewall.Talk α) : MachineTalk α :=
  talk.relay (command host)

end MachineTalk

end Gatehouse
