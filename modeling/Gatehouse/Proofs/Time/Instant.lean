import Gatehouse.Time.Instant
/-!
# Sums of instants and spans

A sum with a span that does not go back is missing only when it lies beyond the end of the calendar,
which is after every instant.  A sum with a span of a second or more is the sum of the nanoseconds,
but for a leap second at its start.  Outside leap seconds a sum with any span is the sum of the
nanoseconds, and it is missing exactly when that lies outside the calendar.
-/

namespace Gatehouse.Instant

/-- The nanoseconds since the start of 1970. -/
def elapsed (instant : Instant) : Int := instant.seconds * nanosPerSecond + instant.nanos

/-- The nanoseconds from the start of 1970 to the end of the calendar. -/
def calendarEnd : Int := (lastSecond + 1) * nanosPerSecond

/-- The time comes before the sum of an instant and a span, which may lie beyond the calendar. -/
structure BeforeSum (time start : Instant) (span : Span) : Prop where
  within : ∀ sum, start.add? span = some sum → time < sum
  beyond : start.add? span = none → calendarEnd ≤ start.elapsed + span.nanos

theorem ofParts?_eq_none {seconds : Int} {nanos : Nat} :
    ofParts? seconds nanos = none ↔ ¬ Valid seconds nanos := by
  unfold ofParts?
  split <;> simp_all

theorem ofParts?_of_valid {seconds : Int} {nanos : Nat} (valid : Valid seconds nanos) :
    ofParts? seconds nanos = some ⟨seconds, nanos, valid⟩ :=
  dif_pos valid

theorem parts_of_ofParts? {seconds : Int} {nanos : Nat} {instant : Instant}
    (found : ofParts? seconds nanos = some instant) :
    instant.seconds = seconds ∧ instant.nanos = nanos := by
  unfold ofParts? at found
  split at found
  · cases found
    exact ⟨rfl, rfl⟩
  · cases found

theorem calendarEnd_le_of_add?_eq_none {start : Instant} {span : Span} (forward : 0 ≤ span.nanos)
    (missing : start.add? span = none) : calendarEnd ≤ start.elapsed + span.nanos := by
  obtain ⟨seconds, nanos, first, last, inSecond⟩ := start
  have whole : span.seconds = span.nanos / 1000000000 :=
    Int.tdiv_eq_ediv_of_nonneg forward
  have part : span.subsecond = span.nanos % 1000000000 :=
    Int.tmod_eq_emod_of_nonneg forward
  unfold firstSecond at first
  unfold lastSecond at last
  unfold calendarEnd elapsed
  simp only [add?, settle?, whole, part, nanosPerSecond, lastSecond] at missing ⊢
  split at missing
  · split at missing
    · omega
    · split at missing <;>
      · rw [ofParts?_eq_none] at missing
        unfold Valid firstSecond lastSecond at missing
        omega
  · split at missing
    · split at missing
      · omega
      · split at missing <;>
        · rw [ofParts?_eq_none] at missing
          unfold Valid firstSecond lastSecond at missing
          omega
    · split at missing
      · omega
      · rw [ofParts?_eq_none] at missing
        unfold Valid firstSecond lastSecond at missing
        omega

/-- An instant before the second in which a sum lies comes before the sum, and so does any instant
when the sum lies beyond the calendar. -/
theorem beforeSum_of_seconds_lt {time start latest : Instant} {span : Span}
    (forward : 0 ≤ span.nanos)
    (before : time.seconds < ((start.add? span).getD latest).seconds) :
    time.BeforeSum start span where
  within sum found := by
    rw [found, Option.getD_some] at before
    exact Or.inl before
  beyond missing := calendarEnd_le_of_add?_eq_none forward missing

/-- A span without length leads nowhere, also inside a leap second. -/
theorem add?_of_nanos_eq_zero {span : Span} (zero : span.nanos = 0) (now : Instant) :
    now.add? span = some now := by
  obtain ⟨seconds, nanos, valid⟩ := now
  have whole : span.seconds = 0 := by
    rw [Span.seconds, zero]
    rfl
  have part : span.subsecond = 0 := by
    rw [Span.subsecond, zero]
    rfl
  have positive : ¬ (nanos : Int) < 0 := Int.not_lt.2 (Int.natCast_nonneg _)
  simp only [add?, settle?, whole, part, Int.add_zero, Int.lt_irrefl, false_and, or_false,
    if_false, Int.toNat_natCast, ofParts?_of_valid valid, if_neg positive]
  split <;> rfl

/-! ## Sums with a second and more -/

theorem parts_of_settle? {seconds nanos : Int} {instant : Instant} (positive : 0 ≤ nanos)
    (small : nanos < 2 * nanosPerSecond) (found : settle? seconds nanos = some instant) :
    instant.nanos < nanosPerSecond ∧
      instant.elapsed = seconds * nanosPerSecond + nanos := by
  unfold settle? at found
  unfold elapsed
  rw [if_neg (Int.not_lt.2 positive)] at found
  split at found <;>
  · obtain ⟨same, rest⟩ := parts_of_ofParts? found
    rw [same, rest]
    unfold nanosPerSecond at *
    omega

/-- A span of a second or more leads out of a leap second, which does not count. -/
theorem add?_eq_settle? (start : Instant) {span : Span} (long : nanosPerSecond ≤ span.nanos) :
    start.add? span =
      settle? (start.seconds + span.seconds) (start.nanos % nanosPerSecond + span.subsecond) := by
  have bound : start.nanos < 2 * nanosPerSecond := by
    have inSecond := start.valid.2.2
    unfold nanosPerSecond
    omega
  have forward : 0 < span.seconds := by
    unfold Span.seconds
    rw [Int.tdiv_eq_ediv_of_nonneg (by unfold nanosPerSecond at long; omega)]
    unfold nanosPerSecond at *
    omega
  unfold add?
  dsimp only
  split
  · rename_i inside
    rw [Int.emod_eq_of_lt (by omega) inside]
  · have rest : (start.nanos : Int) % nanosPerSecond = start.nanos - nanosPerSecond := by
      unfold nanosPerSecond at *
      omega
    rw [if_pos (.inl forward), rest]

/-- The sum has the nanoseconds of its two parts. -/
theorem elapsed_of_add? {start sum : Instant} {span : Span} (long : nanosPerSecond ≤ span.nanos)
    (found : start.add? span = some sum) :
    sum.nanos < nanosPerSecond ∧
      sum.elapsed =
        start.seconds * nanosPerSecond + start.nanos % nanosPerSecond + span.nanos := by
  have whole : span.seconds * nanosPerSecond + span.subsecond = span.nanos :=
    Int.tdiv_mul_add_tmod ..
  have part : 0 ≤ span.subsecond ∧ span.subsecond < nanosPerSecond := by
    unfold Span.subsecond nanosPerSecond at *
    rw [Int.tmod_eq_emod_of_nonneg (by omega)]
    omega
  rw [add?_eq_settle? start long] at found
  obtain ⟨small, same⟩ := parts_of_settle? (by unfold nanosPerSecond at *; omega)
    (by unfold nanosPerSecond at *; omega) found
  refine ⟨small, ?_⟩
  rw [same]
  unfold nanosPerSecond at *
  omega

/-- A time that is a second before a sum lies in a second before that of the sum. -/
theorem seconds_lt_sum {time start : Instant} {span : Span} (long : nanosPerSecond ≤ span.nanos)
    (early : time.seconds < lastSecond)
    (before : time.seconds * nanosPerSecond + nanosPerSecond ≤
      start.seconds * nanosPerSecond + start.nanos % nanosPerSecond + span.nanos) :
    time.seconds < ((start.add? span).getD .last).seconds := by
  cases found : start.add? span with
  | none => exact early
  | some sum =>
      obtain ⟨small, same⟩ := elapsed_of_add? long found
      rw [← same] at before
      rw [Option.getD_some]
      unfold elapsed nanosPerSecond at *
      omega

/-! ## Sums outside leap seconds -/

/-- The instant lies outside leap seconds. -/
def IsRegular (instant : Instant) : Prop := instant.nanos < nanosPerSecond

instance (instant : Instant) : Decidable instant.IsRegular :=
  inferInstanceAs (Decidable (instant.nanos < nanosPerSecond))

/-- The nanoseconds from the start of 1970 to the start of the calendar. -/
def calendarStart : Int := firstSecond * nanosPerSecond

/-- The instant outside leap seconds that lies so many nanoseconds after the start of 1970. -/
def ofElapsed? (nanos : Int) : Option Instant :=
  ofParts? (nanos / nanosPerSecond) (nanos % nanosPerSecond).toNat

theorem ofElapsed?_eq_some_iff {nanos : Int} {instant : Instant} :
    ofElapsed? nanos = some instant ↔ instant.IsRegular ∧ instant.elapsed = nanos := by
  constructor
  · intro found
    obtain ⟨seconds, rest⟩ := parts_of_ofParts? found
    unfold IsRegular elapsed
    rw [seconds, rest]
    unfold nanosPerSecond
    omega
  · rintro ⟨regular, rfl⟩
    have seconds : instant.elapsed / nanosPerSecond = instant.seconds := by
      unfold IsRegular at regular
      unfold elapsed nanosPerSecond at *
      omega
    have rest : (instant.elapsed % nanosPerSecond).toNat = instant.nanos := by
      unfold IsRegular at regular
      unfold elapsed nanosPerSecond at *
      omega
    rw [ofElapsed?, seconds, rest, ofParts?_of_valid instant.valid]

theorem ofElapsed?_eq_none_iff {nanos : Int} :
    ofElapsed? nanos = none ↔ nanos < calendarStart ∨ calendarEnd ≤ nanos := by
  rw [ofElapsed?, ofParts?_eq_none]
  unfold Valid calendarStart calendarEnd firstSecond lastSecond nanosPerSecond
  omega

theorem settle?_eq_ofElapsed? {seconds nanos : Int} (least : -nanosPerSecond < nanos)
    (greatest : nanos < 2 * nanosPerSecond) :
    settle? seconds nanos = ofElapsed? (seconds * nanosPerSecond + nanos) := by
  -- Both sides name the same second and the same nanoseconds in it.
  have parts {second rest : Int} (positive : 0 ≤ rest) (small : rest < nanosPerSecond)
      (same : seconds * nanosPerSecond + nanos = second * nanosPerSecond + rest) :
      ofElapsed? (seconds * nanosPerSecond + nanos) = ofParts? second rest.toNat := by
    have whole : (seconds * nanosPerSecond + nanos) / nanosPerSecond = second := by
      unfold nanosPerSecond at *
      omega
    have part : (seconds * nanosPerSecond + nanos) % nanosPerSecond = rest := by
      unfold nanosPerSecond at *
      omega
    rw [ofElapsed?, whole, part]
  unfold settle?
  split
  · exact (parts (by omega) (by omega) (by unfold nanosPerSecond; omega)).symm
  · split
    · exact (parts (by omega) (by omega) rfl).symm
    · exact (parts (by omega) (by omega) (by unfold nanosPerSecond; omega)).symm

/-- Outside leap seconds, a sum has the nanoseconds of its two parts. -/
theorem add?_eq_ofElapsed? {start : Instant} (regular : start.IsRegular) (span : Span) :
    start.add? span = ofElapsed? (start.elapsed + span.nanos) := by
  have whole : span.seconds * nanosPerSecond + span.subsecond = span.nanos :=
    Int.tdiv_mul_add_tmod ..
  have part : -nanosPerSecond < span.subsecond ∧ span.subsecond < nanosPerSecond :=
    ⟨Int.lt_tmod_of_pos _ (by decide), Int.tmod_lt_of_pos _ (by decide)⟩
  have same : (start.seconds + span.seconds) * nanosPerSecond + (start.nanos + span.subsecond) =
      start.elapsed + span.nanos := by
    rw [← whole, elapsed, Int.add_mul]
    omega
  unfold IsRegular at regular
  unfold add?
  rw [if_pos (Int.ofNat_lt.2 regular), settle?_eq_ofElapsed? (by omega) (by omega), same]

theorem add?_eq_some_iff {start sum : Instant} (regular : start.IsRegular) {span : Span} :
    start.add? span = some sum ↔ sum.IsRegular ∧ sum.elapsed = start.elapsed + span.nanos := by
  rw [add?_eq_ofElapsed? regular, ofElapsed?_eq_some_iff]

theorem add?_eq_none_iff {start : Instant} (regular : start.IsRegular) {span : Span} :
    start.add? span = none ↔ start.elapsed + span.nanos < calendarStart ∨
      calendarEnd ≤ start.elapsed + span.nanos := by
  rw [add?_eq_ofElapsed? regular, ofElapsed?_eq_none_iff]

/-- The instants outside leap seconds lie within the calendar. -/
theorem elapsed_mem_calendar {instant : Instant} (regular : instant.IsRegular) :
    calendarStart ≤ instant.elapsed ∧ instant.elapsed < calendarEnd := by
  have found := ofElapsed?_eq_some_iff.2 ⟨regular, rfl⟩
  refine Decidable.byContradiction fun outside => ?_
  rw [ofElapsed?_eq_none_iff.2 (by omega)] at found
  cases found

/-- A sum within the calendar is there. -/
theorem exists_add?_eq_some {start : Instant} (regular : start.IsRegular) {span : Span}
    (least : calendarStart ≤ start.elapsed + span.nanos)
    (greatest : start.elapsed + span.nanos < calendarEnd) :
    ∃ sum, start.add? span = some sum ∧ sum.IsRegular ∧
      sum.elapsed = start.elapsed + span.nanos := by
  cases found : start.add? span with
  | some sum => exact ⟨sum, rfl, (add?_eq_some_iff regular).1 found⟩
  | none =>
      rcases (add?_eq_none_iff regular).1 found with before | beyond
      · exact absurd least (Int.not_le.2 before)
      · exact absurd greatest (Int.not_lt.2 beyond)

end Gatehouse.Instant
