import Gatehouse.Time.Span
/-!
# Instants

An instant is a second of the calendar, counted from the start of 1970, and the nanoseconds passed
in it.  The last second of a minute may be followed by a leap second: its nanoseconds then go on
beyond the first billion.  Instants run from the start of the year -262143 to the end of the year
262142, and arithmetic that would leave the calendar gives no instant.
-/

namespace Gatehouse

namespace Instant

/-- The first second of the calendar. -/
def firstSecond : Int := -8334601228800

/-- The last second of the calendar. -/
def lastSecond : Int := 8210266876799

/-- Seconds and nanoseconds that make an instant. -/
def Valid (seconds : Int) (nanos : Nat) : Prop :=
  firstSecond ≤ seconds ∧ seconds ≤ lastSecond ∧
    (nanos < 1000000000 ∨ (nanos < 2000000000 ∧ seconds % 60 = 59))

instance (seconds : Int) (nanos : Nat) : Decidable (Valid seconds nanos) := by
  unfold Valid; infer_instance

end Instant

/-- An instant of the calendar. -/
structure Instant where
  /-- Seconds since the start of 1970. -/
  seconds : Int
  /-- Nanoseconds since the start of that second; a billion and more during a leap second. -/
  nanos : Nat
  valid : Instant.Valid seconds nanos
deriving DecidableEq

namespace Instant

/-- The instant with the given seconds and nanoseconds, if there is one. -/
def ofParts? (seconds : Int) (nanos : Nat) : Option Instant :=
  if valid : Valid seconds nanos then some ⟨seconds, nanos, valid⟩ else none

/-- The start of 1970. -/
def epoch : Instant := ⟨0, 0, by decide⟩

instance : Inhabited Instant := ⟨epoch⟩

/-- The last instant of the calendar outside a leap second. -/
def last : Instant := ⟨lastSecond, 999999999, by decide⟩

/-- Whether one instant comes before another. -/
def Before (first second : Instant) : Prop :=
  first.seconds < second.seconds ∨
    (first.seconds = second.seconds ∧ first.nanos < second.nanos)

instance : LT Instant := ⟨Before⟩

instance (first second : Instant) : Decidable (first < second) := by
  change Decidable (Before first second); unfold Before; infer_instance

/-- The instant that lies `nanos` nanoseconds, less than a second before or two seconds after the
start of a second. -/
def settle? (seconds nanos : Int) : Option Instant :=
  if nanos < 0 then ofParts? (seconds - 1) (nanos + nanosPerSecond).toNat
  else if nanos < nanosPerSecond then ofParts? seconds nanos.toNat
  else ofParts? (seconds + 1) (nanos - nanosPerSecond).toNat

/-- The instant a span later.  Inside a leap second the instant stays there as long as it moves by
less than a second and does not reach its end; otherwise the leap second counts as the second
before it when time goes forward, and as the second after it when time goes back. -/
def add? (instant : Instant) (span : Span) : Option Instant :=
  let seconds := span.seconds
  let subsecond := span.subsecond
  let nanos : Int := instant.nanos
  if nanos < nanosPerSecond then settle? (instant.seconds + seconds) (nanos + subsecond)
  else if 0 < seconds ∨ (0 < subsecond ∧ 2 * nanosPerSecond ≤ nanos + subsecond) then
    settle? (instant.seconds + seconds) (nanos - nanosPerSecond + subsecond)
  else if seconds < 0 then
    settle? (instant.seconds + 1 + seconds) (nanos - nanosPerSecond + subsecond)
  else ofParts? instant.seconds (nanos + subsecond).toNat

end Instant

end Gatehouse
