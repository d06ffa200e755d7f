import Gatehouse.Text.Blank
import Gatehouse.Text.Decimal
/-!
# Port rules

A rule allows inbound traffic of one transport protocol to one port.  Rules are ordered by protocol
and then by port.  Port zero is reserved: a rule for it can be written down, and every operation
that would make it take effect refuses it.
-/

namespace Gatehouse.Firewall

/-- A transport protocol with ports. -/
inductive Protocol where
  | tcp
  | udp
deriving DecidableEq, Repr, Inhabited

namespace Protocol

/-- The name of a protocol. -/
def name : Protocol → String
  | .tcp => "tcp"
  | .udp => "udp"

/-- The number of a protocol in packet headers. -/
def number : Protocol → Nat
  | .tcp => 6
  | .udp => 17

/-- The protocol with the given number. -/
def ofNumber? (n : Nat) : Option Protocol :=
  if n = 6 then some .tcp else if n = 17 then some .udp else none

/-- The protocol with the given name, in any letter case and with blanks around it. -/
def parse? (input : String) : Option Protocol :=
  let name := (Text.trim input).toList.map Char.toLower
  if name = ['t', 'c', 'p'] then some .tcp
  else if name = ['u', 'd', 'p'] then some .udp
  else none

end Protocol

/-- Allow one protocol on one port. -/
structure Rule where
  protocol : Protocol
  port : UInt16
deriving DecidableEq, Repr, Inhabited

namespace Rule

/-- The text of a rule. -/
def text (rule : Rule) : String := rule.protocol.name ++ "/" ++ Text.ofNat rule.port.toNat

/-- The place of a rule in the order of all rules. -/
def code (rule : Rule) : Nat :=
  match rule.protocol with
  | .tcp => rule.port.toNat
  | .udp => 65536 + rule.port.toNat

theorem code_injective {first second : Rule} (same : first.code = second.code) :
    first = second := by
  have firstBound := first.port.toNat_lt
  have secondBound := second.port.toNat_lt
  obtain ⟨firstProtocol, firstPort⟩ := first
  obtain ⟨secondProtocol, secondPort⟩ := second
  cases firstProtocol <;> cases secondProtocol <;> simp only [code] at same firstBound secondBound
  · exact congrArg _ (UInt16.toNat_inj.1 same)
  · omega
  · omega
  · exact congrArg _ (UInt16.toNat_inj.1 (by omega))

instance : Ord Rule := ⟨fun first second => compare first.code second.code⟩

theorem compare_eq (first second : Rule) :
    compare first second = compare first.code second.code := rfl

instance : Std.TransOrd Rule where
  eq_swap := by
    intro a b
    simpa only [compare_eq] using Std.OrientedCmp.eq_swap
  isLE_trans := by
    intro a b c
    simpa only [compare_eq] using Std.TransCmp.isLE_trans

instance : Std.LawfulEqOrd Rule where
  compare_self := by intro a; exact Std.ReflCmp.compare_self
  eq_of_compare := by
    intro a b h
    exact code_injective (Std.LawfulEqCmp.eq_of_compare (by simpa only [compare_eq] using h))

/-- The rules in order. -/
def sort (rules : List Rule) : List Rule := rules.mergeSort fun a b => (compare a b).isLE

end Rule

/-! ## Ports given by users -/

/-- What is said about a port out of range. -/
def portOutOfRange : String := "Port must be between 1 and 65535"

/-- The port with a given number, unless it is out of range. -/
def checkPort (number : Nat) : Except String UInt16 :=
  if 1 ≤ number ∧ number ≤ 65535 then .ok (UInt16.ofNat number) else .error portOutOfRange

/-- A warning for ports whose opening deserves a second look. -/
def portWarning? (port : UInt16) : Option String :=
  let n := port.toNat
  if n = 22 then some "Port 22 is SSH - exposing it opens remote shell access"
  else if n = 23 then some "Port 23 is Telnet - unencrypted remote access"
  else if n = 53 then some "Port 53 is DNS - make sure the resolver is not open to the internet"
  else if n = 3306 || n = 5432 then some ("Port " ++ Text.ofNat n ++ " is a database port")
  else if 1 ≤ n && n ≤ 1023 then some ("Port " ++ Text.ofNat n ++ " is a privileged port")
  else none

end Gatehouse.Firewall
