import Gatehouse.Cli.Run
/-!
# The program

The outermost layer: it gathers what a run needs to know, answers the calls of the run from the
files of the machine, and prints the report.  It starts no other programs and listens on no socket.
-/

namespace Gatehouse

/-- The variables that a run may look at. -/
def variableNames : List String := [
  "HOME", "SLEUTH_DATA_DIR", "SLEUTH_ELEVATION_METHOD", "SLEUTH_IPTABLES_COMMAND",
  "SLEUTH_LISTEN_ADDR", "SLEUTH_NFT_COMMAND", "SLEUTH_SESSION_SECRET", "SLEUTH_TEST_NO_ELEVATION",
  "XDG_CONFIG_HOME", "XDG_DATA_HOME", "XDG_STATE_HOME"]

/-- The environment of the program. -/
def readEnvironment : IO Environment := do
  let bindings ← variableNames.filterMapM fun name => do
    return (← IO.getEnv name).map fun value => (name, value)
  return ⟨bindings, none⟩

/-- Why the machine refused something. -/
def refusal : IO.Error → PathFault
  | .noFileOrDirectory _ _ _ => .missing
  | .noSuchThing _ _ _ => .missing
  | error => .denied (toString error)

/-- Do something with a file, and say what the machine refused. -/
def attempt {α : Type} (action : IO α) : IO (Except PathFault α) :=
  tryCatch (.ok <$> action) fun error => pure (.error (refusal error))

/-- Whether something stands at the end of a path. -/
def present (path : String) : IO Bool := do
  match ← attempt (IO.FS.readBinFile path) with
  | .error .missing => return false
  | _ => return true

/-- Let nobody but its owner use a file. -/
def keepPrivate (path : String) : IO Unit :=
  IO.setAccessRights path ⟨⟨true, true, false⟩, {}, {}⟩

/-- Put a text into a file beside the one to replace, and let it take its place. -/
def replaceFile (path text : String) : IO Unit := do
  let fresh := path ++ ".new"
  IO.FS.writeFile fresh text
  keepPrivate fresh
  IO.FS.rename fresh path

/-- Add to the end of a file. -/
def appendToFile (path text : String) : IO Unit := do
  let found ← present path
  let handle ← IO.FS.Handle.mk path .append
  unless found do keepPrivate path
  handle.putStr text

/-- Answer a call from the files of the machine. -/
def answerFile : (call : FileCall) → IO call.Answer
  | .read path => attempt ((·.data.toList) <$> IO.FS.readBinFile path)
  | .replace path text => attempt (replaceFile path text)
  | .append path text => attempt (appendToFile path text)
  | .makeDirectory path => attempt (IO.FS.createDirAll path)
  | .probe path => present path

/-- Answer a call to the machine. -/
def answerMachine : (call : MachineCall) → IO call.Answer
  | .file call => answerFile call
  | .execute _ _ => return .error "programs cannot be started from here"

/-- Run a computation on the machine. -/
def converse {α : Type} : MachineTalk α → IO α
  | .done value => pure value
  | .ask call next => answerMachine call >>= fun answer => converse (next answer)

/-- The present moment: the time at which a file is written. -/
def readClock : IO Instant := do
  let (handle, path) ← IO.FS.createTempFile
  handle.putStr "now"
  handle.flush
  let modified := (← path.metadata).modified
  IO.FS.removeFile path
  return (Instant.ofParts? modified.sec modified.nsec.toNat).getD default

end Gatehouse

open Gatehouse in
/-- Run the command line, print what it says, and end with its code. -/
def main (arguments : List String) : IO UInt32 := do
  let environment ← readEnvironment
  let superuser := (← IO.getEnv "USER") = some "root"
  let host : Elevation.Host := ⟨environment, superuser, false, fun _ => false⟩
  let report ← match ← converse (Cli.run host (← readClock) arguments) with
    | .report report => pure report
    | .serving warnings _ => pure ((Cli.Report.failed "there is no listener").after warnings)
  for line in report.output do IO.println line
  for line in report.errors do IO.eprintln line
  return UInt32.ofNat report.code
