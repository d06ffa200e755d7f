import Gatehouse.Access.AllowList
import Gatehouse.Proofs.SortedMap
import Gatehouse.Proofs.Time.Instant
/-!
# Entries of the list of grants

A grant is entered for one address, in place of what was there, and an address that is revoked has no
entry.  An entry admits from the moment it is given up to the sum of that moment and the lifetime, which
is for ever when the lifetime is zero or the sum lies beyond the calendar.
-/

namespace Gatehouse.Access

/-- A grant given at a start still admits. -/
def InForce (lifetime : Span) (start now : Instant) : Prop :=
  lifetime = .zero ∨ (∃ deadline, start.add? lifetime = some deadline ∧ now < deadline) ∨
    (start.add? lifetime = none ∧ Instant.calendarEnd ≤ start.elapsed + lifetime.nanos)

theorem isLive_after_iff {lifetime : Span} (forward : 0 ≤ lifetime.nanos) {start now : Instant} :
    (Expiry.after lifetime start).isLive now = true ↔ InForce lifetime start now := by
  unfold InForce Expiry.after
  by_cases endless : lifetime = .zero
  · simp [endless, Expiry.isLive]
  rw [if_neg endless]
  cases sum : start.add? lifetime with
  | some deadline => simp [endless, Expiry.isLive]
  | none => simp [endless, Expiry.isLive, Instant.calendarEnd_le_of_add?_eq_none forward sum]

namespace AllowList

variable {list : AllowList} {client other : Address}

theorem get?_grant (subject : String) (now : Instant) :
    (list.grant client subject now).entries.get? client =
      some ⟨subject, .after list.lifetime now⟩ :=
  SortedMap.get?_insert_self ..

theorem get?_grant_of_ne (subject : String) (now : Instant) (apart : other ≠ client) :
    (list.grant client subject now).entries.get? other = list.entries.get? other :=
  SortedMap.get?_insert_of_ne _ _ apart

theorem get?_revoke : (list.revoke client).entries.get? client = none :=
  SortedMap.get?_erase_self ..

theorem get?_revoke_of_ne (apart : other ≠ client) :
    (list.revoke client).entries.get? other = list.entries.get? other :=
  SortedMap.get?_erase_of_ne _ apart

end AllowList

end Gatehouse.Access
