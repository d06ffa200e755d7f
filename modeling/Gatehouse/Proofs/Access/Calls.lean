import Gatehouse.Proofs.Access.Exchange
import Gatehouse.Proofs.Interleaving.Run
/-!
# Calls on a directory that is in use

Whoever uses a directory calls an operation on it, or submits a form of the exchange.  A reset is
one look at the record that the ticket is for, and then the operation that sets a password.
-/

namespace Gatehouse.Access

/-- A call: an operation on the directory, or a step of the exchange. -/
inductive Call where
  | operation (request : Directory.Request)
  | submission (form : Form) (now : Instant) (id : Uuid)

/-- What comes of a call. -/
abbrev Call.Result : Call → Type
  | .operation request => Except DirectoryError request.Result
  | .submission _ _ _ => Outcome

/-- What a call does. -/
def Call.visit (issuer : Issuer) : (call : Call) → Visit call.Result
  | .operation request => request.perform
  | .submission form now id => Exchange.run issuer form now id

/-- What calls do that are made side by side. -/
abbrev visits {ι : Type} (issuer : Issuer) (calls : ι → Call) (call : ι) :
    Visit (calls call).Result :=
  (calls call).visit issuer

end Gatehouse.Access
