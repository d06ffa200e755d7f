import Gatehouse.Firewall.Backend
import Gatehouse.Data.Word
import Gatehouse.Text.Lower
/-!
# Choosing a backend

The operator prefers a facility, or leaves the choice to the program.  A facility that is missing or
does not come up is never an error: the null backend takes its place.
-/

namespace Gatehouse.Firewall

/-- What the operator prefers. -/
inductive Preference where
  /-- The first facility of the kernel that comes up. -/
  | auto
  | nftables
  | iptables
  | softwareNat
  | disabled
deriving DecidableEq, Repr, Inhabited

namespace Preference

/-- The preferences by their numbers. -/
def all : List Preference := [.auto, .nftables, .iptables, .softwareNat, .disabled]

/-- The name of a preference. -/
def name : Preference → String
  | .auto => "auto"
  | .nftables => "nftables"
  | .iptables => "iptables"
  | .softwareNat => "software-nat"
  | .disabled => "disabled"

/-- The preference with exactly the given name. -/
def ofName? (name : String) : Option Preference :=
  all.find? fun preference => preference.name = name

/-- The preference that a lower-case name or another common name stands for. -/
def ofAlias? (name : String) : Option Preference :=
  if name = "auto" || name = "" then some .auto
  else if name = "nftables" || name = "nft" then some .nftables
  else if name = "iptables" || name = "legacy" then some .iptables
  else if name = "software-nat" || name = "software_nat" || name = "nat" then some .softwareNat
  else if name = "disabled" || name = "none" || name = "off" || name = "null" then some .disabled
  else none

/-- The preference that a user names, by a name or by its number. -/
def parse? (input : String) : Option Preference :=
  let name := Text.toLowerAscii (Text.trim input)
  match Text.readNat? Word.greatest64 name.toList with
  | some index => all[index]?
  | none => ofAlias? name

/-- What is said about an unknown name. -/
def unknownMessage (input : String) : String :=
  "unknown firewall backend '" ++ input ++
    "' (expected auto, nftables, iptables, software-nat or disabled)"

end Preference

namespace Selection

/-- Bring up nftables. -/
def tryNftables (available : Program → Bool) : Talk (Option Backend) :=
  if available .nft then
    Nftables.start.bind fun
      | .ok session => .done (some (.nftables session))
      | .error _ => .done none
  else .done none

/-- Bring up iptables. -/
def tryIptables (available : Program → Bool) : Talk (Option Backend) :=
  if available .iptables then
    Iptables.start.bind fun
      | .ok session => .done (some (.iptables session))
      | .error _ => .done none
  else .done none

/-- Bring up the backend for a preference. -/
def select (available : Program → Bool) (external : BitVec 32) : Preference → Talk Backend
  | .auto =>
      (tryNftables available).bind fun
        | some backend => .done backend
        | none => (tryIptables available).bind fun found => .done (found.getD .null)
  | .nftables => (tryNftables available).bind fun found => .done (found.getD .null)
  | .iptables => (tryIptables available).bind fun found => .done (found.getD .null)
  | .softwareNat => .done (.softwareNat external)
  | .disabled => .done .null

end Selection

end Gatehouse.Firewall
