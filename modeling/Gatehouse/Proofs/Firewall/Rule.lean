import Gatehouse.Firewall.Error
import Gatehouse.Proofs.Text.Decimal
/-!
# Rules that may take effect

A protocol is known by its name, and a rule that is let through is the rule itself, with a port that
is not zero.  Rules are in order by protocol and then by port.
-/

namespace Gatehouse.Firewall

theorem Protocol.parse?_name (protocol : Protocol) :
    Protocol.parse? protocol.name = some protocol := by
  cases protocol <;> decide

theorem Protocol.isWord_name (protocol : Protocol) : Text.IsWord protocol.name := by
  cases protocol <;> decide

/-- A protocol is known by its name in any letter case. -/
theorem Protocol.parse?_of_toLower {text : String} {protocol : Protocol}
    (same : text.toList.map Char.toLower = protocol.name.toList) :
    parse? text = some protocol := by
  have solid : ∀ c ∈ text.toList, Text.isBlank c = false := by
    intro c isMember
    have lower : c.toLower ∈ protocol.name.toList := same ▸ List.mem_map_of_mem isMember
    have notBlank : Text.isBlank c.toLower = false := protocol.isWord_name.2 _ lower
    cases blank : Text.isBlank c with
    | false => rfl
    | true =>
        rw [Text.toLower_of_isBlank blank, blank] at notBlank
        cases notBlank
  rw [parse?, Text.trim_of_forall_not solid, same]
  cases protocol <;> rfl

theorem Protocol.name_injective {first second : Protocol} (same : first.name = second.name) :
    first = second := by
  have parsed := congrArg Protocol.parse? same
  rw [parse?_name, parse?_name] at parsed
  exact Option.some.inj parsed

theorem Protocol.eq_number_of_ofNumber? {n : Nat} {protocol : Protocol}
    (known : ofNumber? n = some protocol) : n = protocol.number := by
  unfold ofNumber? at known
  split at known
  · cases known
    assumption
  · split at known
    · cases known
      assumption
    · cases known

theorem Rule.validated_of_port_zero {rule : Rule} (zero : rule.port = 0) :
    rule.validated = .error (.validation "port" portOutOfRange) :=
  if_pos zero

theorem Rule.eq_of_validated {rule valid : Rule} (validated : rule.validated = .ok valid) :
    valid = rule ∧ rule.port ≠ 0 := by
  unfold Rule.validated at validated
  split at validated
  · cases validated
  · rename_i nonzero
    exact ⟨(Except.ok.inj validated).symm, nonzero⟩

/-- A rule comes before others by its protocol, and by its port where the protocol is the same. -/
def Rule.Precedes (first second : Rule) : Prop :=
  first.protocol = .tcp ∧ second.protocol = .udp ∨
    first.protocol = second.protocol ∧ first.port < second.port

theorem Rule.compare_eq_lt_iff {first second : Rule} :
    compare first second = .lt ↔ first.Precedes second := by
  obtain ⟨firstProtocol, firstPort⟩ := first
  obtain ⟨secondProtocol, secondPort⟩ := second
  have firstBound := firstPort.toNat_lt
  have secondBound := secondPort.toNat_lt
  rw [compare_eq, Nat.compare_eq_lt, Precedes, UInt16.lt_iff_toNat_lt]
  cases firstProtocol <;> cases secondProtocol <;> simp [code] <;> omega

end Gatehouse.Firewall
