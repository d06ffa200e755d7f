/-!
# Spans of time

A span is a whole number of nanoseconds of either sign.  Spans end at the largest number of
milliseconds that fits into 64 bits; a conversion that would pass that limit gives no span.
-/

namespace Gatehouse

/-- Nanoseconds in a second. -/
def nanosPerSecond : Nat := 1000000000

/-- The nanoseconds of the longest span. -/
def longestNanos : Nat := 9223372036854775807000000

/-- A span of time. -/
structure Span where
  nanos : Int
  inRange : nanos.natAbs ≤ longestNanos
deriving DecidableEq

namespace Span

/-- The span of some nanoseconds, within the limit. -/
def ofNanos? (nanos : Int) : Option Span :=
  if inRange : nanos.natAbs ≤ longestNanos then some ⟨nanos, inRange⟩ else none

/-- The span of some seconds, within the limit. -/
def ofSeconds? (seconds : Int) : Option Span := ofNanos? (seconds * nanosPerSecond)

/-- The span of some hours, within the limit. -/
def ofHours? (hours : Int) : Option Span := ofSeconds? (hours * 3600)

/-- The longest span. -/
def longest : Span := ⟨longestNanos, by simp⟩

/-- The longest span, backwards. -/
def shortest : Span := ⟨-longestNanos, by simp⟩

/-- The span of a configured number of seconds; the longest span when it is too large. -/
def saturating (seconds : Nat) : Span := (ofSeconds? seconds).getD longest

/-- The span without length. -/
def zero : Span := ⟨0, by decide⟩

instance : Inhabited Span := ⟨zero⟩

/-- The whole seconds of a span, cut towards zero. -/
def seconds (span : Span) : Int := span.nanos.tdiv nanosPerSecond

/-- What a span has beyond its whole seconds, with the sign of the span. -/
def subsecond (span : Span) : Int := span.nanos.tmod nanosPerSecond

end Span

end Gatehouse
