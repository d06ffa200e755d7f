import Gatehouse.Net.Address
import Gatehouse.SortedMap
import Gatehouse.Time.Instant
/-!
# Grants to addresses

Somebody who has signed in may also have the address granted from which that was done.  A grant ends
by itself: it stays in the list and stops admitting.
-/

namespace Gatehouse.Access

/-- When a grant stops admitting. -/
inductive Expiry where
  | never
  | at (deadline : Instant)
deriving DecidableEq

namespace Expiry

/-- The expiry of a grant given now.  A lifetime of zero stands for no end, and so does one that
goes beyond the calendar. -/
def after (lifetime : Span) (now : Instant) : Expiry :=
  if lifetime = Span.zero then .never
  else
    match now.add? lifetime with
    | some deadline => .at deadline
    | none => .never

/-- Whether a grant admits. -/
def isLive (expiry : Expiry) (now : Instant) : Bool :=
  match expiry with
  | .never => true
  | .at deadline => now < deadline

end Expiry

/-- Admission of whoever comes from an address. -/
structure Grant where
  /-- The principal that signed in from there. -/
  subject : String
  expiry : Expiry
deriving DecidableEq

/-- The grants by address. -/
structure AllowList where
  entries : SortedMap Address Grant
  /-- How long a grant admits; zero for ever. -/
  lifetime : Span

namespace AllowList

/-- The list without grants. -/
def ofLifetime (lifetime : Span) : AllowList := ⟨.empty, lifetime⟩

/-- The expiry of a grant given now. -/
def expiry (list : AllowList) (now : Instant) : Expiry := .after list.lifetime now

/-- Grant an address, in place of the grant that it has. -/
def grant (list : AllowList) (client : Address) (subject : String) (now : Instant) : AllowList :=
  { list with entries := list.entries.insert client ⟨subject, list.expiry now⟩ }

/-- The grant by which an address is admitted. -/
def admits? (list : AllowList) (client : Address) (now : Instant) : Option Grant :=
  (list.entries.get? client).filter fun grant => grant.expiry.isLive now

/-- Whether there is an entry for an address, live or not. -/
def holds (list : AllowList) (client : Address) : Bool := list.entries.contains client

/-- Remove the entry for an address. -/
def revoke (list : AllowList) (client : Address) : AllowList :=
  { list with entries := list.entries.erase client }

/-- The number of entries. -/
def size (list : AllowList) : Nat := list.entries.size

end AllowList

end Gatehouse.Access
