import Gatehouse.Environment
import Gatehouse.Firewall.Command
import Gatehouse.Text.Lower
/-!
# Running a packet-filter program with the rights it needs

As the superuser the program is run directly.  Otherwise it is handed to a program that grants
rights: the one that is asked for, or else the first suitable one.  Only the two packet-filter
programs are ever run in this way.
-/

namespace Gatehouse.Elevation

open Firewall (Program)

/-- A program that grants rights. -/
inductive Method where
  | sudo
  | run0
  | pkexec
deriving DecidableEq, Repr

/-- The name of the program. -/
def Method.binary : Method → String
  | .sudo => "sudo"
  | .run0 => "run0"
  | .pkexec => "pkexec"

/-- Why no command could be built. -/
inductive Refusal where
  | pkexecNotFound
  | methodNotAvailable (name : String)
  | invalidMethod (name : String)
deriving DecidableEq, Repr

/-- The text of a refusal. -/
def Refusal.message : Refusal → String
  | .pkexecNotFound => "pkexec not found - please install PolicyKit or run as root"
  | .methodNotAvailable name =>
      "Elevation method '" ++ name ++ "' is not available (binary not found)"
  | .invalidMethod name =>
      "Invalid SLEUTH_ELEVATION_METHOD '" ++ name ++ "'. Valid options: sudo, run0, pkexec"

/-- What the machine is like. -/
structure Host where
  environment : Environment
  isSuperuser : Bool
  hasTerminal : Bool
  /-- Whether there is a program of this name or path. -/
  hasBinary : String → Bool

/-- A program with its arguments. -/
structure Invocation where
  program : String
  arguments : List String
deriving DecidableEq, Repr

/-- The method that the environment asks for; none when it leaves the choice open. -/
def forcedMethod (environment : Environment) : Except Refusal (Option Method) :=
  match environment.get? "SLEUTH_ELEVATION_METHOD" with
  | none => .ok none
  | some given =>
      let name := Text.toLower given
      if name = "" then .ok none
      else if name = "sudo" then .ok (some .sudo)
      else if name = "run0" then .ok (some .run0)
      else if name = "pkexec" then .ok (some .pkexec)
      else .error (.invalidMethod name)

/-- The path of a packet-filter program. -/
def programPath (environment : Environment) : Program → String
  | .nft => (environment.get? "SLEUTH_NFT_COMMAND").getD "nft"
  | .iptables => (environment.get? "SLEUTH_IPTABLES_COMMAND").getD "iptables"

/-- Hand a program to one that grants rights. -/
def wrapped (method : Method) (program : String) (arguments : List String) : Invocation :=
  ⟨method.binary, program :: arguments⟩

/-- How a packet-filter program is run.  A wish that names no method is refused even by the
superuser, who needs none. -/
def invocation (host : Host) (program : Program) (arguments : List String) :
    Except Refusal Invocation :=
  let path := programPath host.environment program
  if (host.environment.get? "SLEUTH_TEST_NO_ELEVATION").isSome then .ok ⟨path, arguments⟩
  else
    match forcedMethod host.environment with
    | .error refusal => .error refusal
    | .ok forced =>
        if host.isSuperuser then .ok ⟨path, arguments⟩
        else
          match forced with
          | some method =>
              if host.hasBinary method.binary then .ok (wrapped method path arguments)
              else .error (.methodNotAvailable method.binary)
          | none =>
              if host.hasBinary Method.run0.binary then .ok (wrapped .run0 path arguments)
              else if host.hasTerminal then .ok (wrapped .sudo path arguments)
              else if host.hasBinary Method.pkexec.binary then .ok (wrapped .pkexec path arguments)
              else .error .pkexecNotFound

end Gatehouse.Elevation
