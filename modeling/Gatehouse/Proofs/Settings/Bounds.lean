import Gatehouse.Proofs.Data.Utf8
import Gatehouse.Proofs.Time.Instant
import Gatehouse.Settings.Configuration
/-!
# Settings within their bounds

Settings without a violation have lifetimes that a span can represent, so that no lifetime is cut
off where it is put to use, and sessions have a lifetime.  Tickets for a new password need not have
one: zero is within their bounds.
-/

namespace Gatehouse

namespace Configuration

theorem lifetimeViolation?_eq_none {key : String} {seconds : Nat} :
    lifetimeViolation? key seconds = none ↔ seconds ≤ longestLifetime := by
  unfold lifetimeViolation?
  split <;> simp_all

/-- The bounds that settings have to keep within. -/
theorem violation?_eq_none {settings : Configuration} :
    settings.violation? = none ↔
      settings.grantLifetime ≤ longestLifetime ∧ settings.sessionLifetime ≤ longestLifetime ∧
        settings.resetLifetime ≤ longestLifetime ∧ settings.sessionLifetime ≠ 0 ∧
        0 ≤ settings.initialResetHours ∧ settings.initialResetHours ≤ mostResetHours := by
  simp [violation?, lifetimeViolation?_eq_none]

/-- There is always a secret. -/
theorem secret_ne_empty (settings : Configuration) : settings.secret ≠ "" := by
  unfold secret
  cases chosen : settings.sessionSecret.filter fun secret => !secret.isEmpty with
  | none => decide
  | some secret =>
      have nonempty := (Option.filter_eq_some_iff.1 chosen).2
      rintro rfl
      cases nonempty

theorem encode_secret_ne_nil (settings : Configuration) : Utf8.encode settings.secret ≠ [] := by
  intro isNil
  have same : Utf8.text? (Utf8.encode settings.secret) = Utf8.text? (Utf8.encode "") := by
    rw [isNil]
    rfl
  rw [Utf8.text?_encode, Utf8.text?_encode] at same
  exact settings.secret_ne_empty (Option.some.inj same)

end Configuration

/-! ## Lifetimes -/

namespace Span

theorem eq_zero_iff {span : Span} : span = zero ↔ span.nanos = 0 := by
  constructor
  · rintro rfl
    rfl
  · obtain ⟨nanos, inRange⟩ := span
    rintro rfl
    rfl

theorem ofSeconds?_eq_some_iff {seconds : Int} {span : Span} :
    ofSeconds? seconds = some span ↔ span.nanos = seconds * nanosPerSecond := by
  obtain ⟨nanos, inRange⟩ := span
  unfold ofSeconds? ofNanos?
  constructor
  · intro found
    split at found
    · cases found
      rfl
    · cases found
  · rintro rfl
    rw [dif_pos inRange]

/-- A lifetime within the bounds is converted as it is. -/
theorem ofSeconds?_eq_saturating {seconds : Nat}
    (within : seconds ≤ Configuration.longestLifetime) :
    ofSeconds? seconds = some (saturating seconds) := by
  have inRange : ((seconds : Int) * nanosPerSecond).natAbs ≤ longestNanos := by
    unfold Configuration.longestLifetime at within
    unfold nanosPerSecond longestNanos
    omega
  rw [saturating, ofSeconds?, ofNanos?, dif_pos inRange]
  rfl

/-- A lifetime within the bounds is the span of its seconds. -/
theorem nanos_saturating {seconds : Nat} (within : seconds ≤ Configuration.longestLifetime) :
    (saturating seconds).nanos = seconds * nanosPerSecond :=
  ofSeconds?_eq_some_iff.1 (ofSeconds?_eq_saturating within)

end Span

/-- A lifetime is over in the second in which it begins if and only if it has no length. -/
theorem Instant.seconds_sum_le_iff {seconds : Nat} {now : Instant}
    (within : seconds ≤ Configuration.longestLifetime) (early : now.seconds < lastSecond) :
    ((now.add? (Span.saturating seconds)).getD .last).seconds ≤ now.seconds ↔ seconds = 0 := by
  have nanos := Span.nanos_saturating within
  constructor
  · intro ended
    refine Decidable.byContradiction fun positive => ?_
    have long : nanosPerSecond ≤ (Span.saturating seconds).nanos := by
      rw [nanos]
      unfold nanosPerSecond
      omega
    have before : now.seconds * nanosPerSecond + nanosPerSecond ≤
        now.seconds * nanosPerSecond + now.nanos % nanosPerSecond +
          (Span.saturating seconds).nanos := by
      unfold nanosPerSecond at *
      omega
    exact absurd ended (Int.not_le.2 (seconds_lt_sum long early before))
  · rintro rfl
    rw [add?_of_nanos_eq_zero (by rw [nanos]; rfl)]
    exact Int.le_refl _

end Gatehouse
