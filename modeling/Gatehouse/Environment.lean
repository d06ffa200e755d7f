/-!
# Environment variables
-/

namespace Gatehouse

/-- What the surroundings of the program say: the variables that are set, each with its value, and
the home directory of the account that runs it. -/
structure Environment where
  bindings : List (String × String)
  accountHome : Option String
deriving Inhabited

namespace Environment

/-- The value of a variable, if it is set. -/
def get? (environment : Environment) (name : String) : Option String :=
  environment.bindings.lookup name

/-- The value of a variable, if it is set to anything but the empty text. -/
def nonEmpty? (environment : Environment) (name : String) : Option String :=
  (environment.get? name).filter fun value => !value.isEmpty

/-- The home directory: the one that is set, or else the one of the account. -/
def home? (environment : Environment) : Option String :=
  (environment.nonEmpty? "HOME").orElse fun _ => environment.accountHome

end Environment

end Gatehouse
