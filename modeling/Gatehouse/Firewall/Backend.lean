import Gatehouse.Firewall.Nftables
import Gatehouse.Firewall.Iptables
/-!
# Backends

The facilities that can put port rules into force.  Two of them drive the kernel.  Software NAT
hides whole flows behind one address and knows no rules for single ports, so it refuses them.  The
null backend accepts everything and does nothing.
-/

namespace Gatehouse.Firewall

/-- A facility with its session. -/
inductive Backend where
  | nftables (session : Nftables)
  | iptables (session : Iptables)
  /-- Software NAT behind an external address. -/
  | softwareNat (external : BitVec 32)
  | null

namespace Backend

instance : Inhabited Backend := ⟨.null⟩

/-- The name of software NAT. -/
def natName : String := "software-nat"

/-- The name of a backend. -/
def name : Backend → String
  | .nftables _ => Nftables.name
  | .iptables _ => Iptables.name
  | .softwareNat _ => natName
  | .null => "null"

/-- Whether rules are enforced by the kernel. -/
def enforces : Backend → Bool
  | .nftables _ => true
  | .iptables _ => true
  | _ => false

/-- The rules that a backend owns, in order. -/
def rules : Backend → List Rule
  | .nftables session => session.rules
  | .iptables session => session.rules
  | _ => []

/-- An outcome of a session as one of its backend. -/
def lift {σ : Type} (wrap : σ → Backend) (talk : Talk (Outcome σ)) : Talk (Outcome Backend) :=
  talk.bind fun outcome => .done (wrap outcome.1, outcome.2)

/-- What software NAT makes of a rule. -/
def natRefusal (operation : String) (rule : Rule) : Except Error Unit :=
  match rule.validated with
  | .error error => .error error
  | .ok _ => .error (.unsupported natName operation)

/-- Allow one rule. -/
def allow (backend : Backend) (rule : Rule) : Talk (Outcome Backend) :=
  match backend with
  | .nftables session => lift .nftables (session.allow rule)
  | .iptables session => lift .iptables (session.allow rule)
  | .softwareNat external => .done (.softwareNat external, natRefusal "allow_port" rule)
  | .null => .done (.null, rule.validated.map fun _ => ())

/-- Revoke one rule. -/
def revoke (backend : Backend) (rule : Rule) : Talk (Outcome Backend) :=
  match backend with
  | .nftables session => lift .nftables (session.revoke rule)
  | .iptables session => lift .iptables (session.revoke rule)
  | .softwareNat external => .done (.softwareNat external, natRefusal "revoke_port" rule)
  | .null => .done (.null, rule.validated.map fun _ => ())

/-- The error of a batch in which `error` came after the rules in `applied`. -/
def batchError (applied : List Rule) (error : Error) : Error :=
  match applied with
  | [] => error
  | _ => .partialBatch applied error

/-- Allow rules one by one up to the first failure. -/
def allowEach (backend : Backend) (applied : List Rule) : List Rule → Talk (Outcome Backend)
  | [] => .done (backend, .ok ())
  | rule :: rest =>
      (backend.allow rule).bind fun outcome =>
        match outcome.2 with
        | .error error => .done (outcome.1, .error (batchError applied error))
        | .ok () => allowEach outcome.1 (applied ++ [rule]) rest

/-- Allow a batch of rules: as a whole where there are batches, and one by one elsewhere. -/
def allowAll (backend : Backend) (rules : List Rule) : Talk (Outcome Backend) :=
  match backend with
  | .nftables session => lift .nftables (session.allowAll rules)
  | _ => backend.allowEach [] rules

/-- Remove all rules that the backend owns. -/
def flush (backend : Backend) : Talk (Outcome Backend) :=
  match backend with
  | .nftables session => lift .nftables session.flush
  | .iptables session => lift .iptables session.flush
  | other => .done (other, .ok ())

/-- End the session of a backend, which may have been ended before. -/
def close : Backend → Backend
  | .nftables session => .nftables session.close
  | .iptables session => .iptables session.close
  | other => other

end Backend

end Gatehouse.Firewall
