import Gatehouse.Proofs.Access.Lifetimes
import Gatehouse.Proofs.Settings.Bounds
import Gatehouse.Proofs.Site.ForcedReset
/-!
# Deadlines of a site

The lifetimes of settings within their bounds are spans, and ten years before the end of the
calendar every deadline that they lead to lies within it.  So no lifetime is cut off, and none
becomes endless because it is too long.  A deadline for a new password may be any number of hours
away: it is the exact sum, or it is refused.
-/

namespace Gatehouse

/-! ## Hours for a new password -/

namespace Directory

variable {now deadline : Instant} {hours : Int}

/-- The deadline is the exact sum, if the calendar has it. -/
theorem resetDeadline_eq_ok_iff (regular : now.IsRegular) :
    resetDeadline now hours = .ok deadline ↔
      Instant.ofElapsed? (now.elapsed + 3600 * hours * nanosPerSecond) = some deadline := by
  have same : hours * 3600 * nanosPerSecond = 3600 * hours * nanosPerSecond := by
    rw [Int.mul_comm hours]
  unfold resetDeadline Span.ofHours? Span.ofSeconds? Span.ofNanos?
  rw [same]
  by_cases inRange : (3600 * hours * nanosPerSecond).natAbs ≤ longestNanos
  · rw [dif_pos inRange, Option.bind_some, Instant.add?_eq_ofElapsed? regular]
    cases Instant.ofElapsed? (now.elapsed + 3600 * hours * nanosPerSecond) <;> simp
  · -- Hours that no span has lead out of the calendar, which is shorter than the longest span.
    have calendar := Instant.elapsed_mem_calendar regular
    have outside : Instant.ofElapsed? (now.elapsed + 3600 * hours * nanosPerSecond) = none := by
      rw [Instant.ofElapsed?_eq_none_iff]
      unfold Instant.calendarStart Instant.calendarEnd Instant.firstSecond Instant.lastSecond
        nanosPerSecond longestNanos at *
      omega
    rw [dif_neg inRange, outside]
    simp

theorem exists_resetDeadline_iff (regular : now.IsRegular) :
    (∃ deadline, resetDeadline now hours = .ok deadline) ↔
      Instant.calendarStart ≤ now.elapsed + 3600 * hours * nanosPerSecond ∧
        now.elapsed + 3600 * hours * nanosPerSecond < Instant.calendarEnd := by
  simp only [resetDeadline_eq_ok_iff regular]
  rw [← Option.ne_none_iff_exists', ne_eq, Instant.ofElapsed?_eq_none_iff]
  omega

end Directory

/-! ## Lifetimes of settings -/

/-- How many seconds tokens last that are issued for a purpose. -/
def Configuration.lifetime (settings : Configuration) : Access.Purpose → Nat
  | .session => settings.sessionLifetime
  | .passwordReset => settings.resetLifetime

namespace Site

open Access

section

variable {settings : Configuration} {site : Site} {now : Instant}

/-- The lifetimes that a site works with are those of its settings, none of them cut off. -/
structure Converted (settings : Configuration) (site : Site) : Prop where
  grant : Span.ofSeconds? settings.grantLifetime = some site.gate.allowList.lifetime
  token : ∀ purpose, Span.ofSeconds? (settings.lifetime purpose) =
    some (site.gate.issuer.lifetime purpose)

/-- What is given out at a time ends exactly when it should. -/
structure ExactAt (settings : Configuration) (site : Site) (now : Instant) : Prop where
  /-- A grant is endless only where that is set. -/
  endless : site.gate.allowList.expiry now = .never ↔ settings.grantLifetime = 0
  /-- Any other grant ends when its lifetime is over. -/
  grant : settings.grantLifetime ≠ 0 → ∃ deadline,
    site.gate.allowList.expiry now = .at deadline ∧ deadline.IsRegular ∧
      deadline.elapsed = now.elapsed + settings.grantLifetime * nanosPerSecond
  /-- The expiry in a token is the second of the sum, which lies within the calendar. -/
  token : ∀ purpose subject id, ∃ sum,
    now.add? (site.gate.issuer.lifetime purpose) = some sum ∧
      sum.seconds = now.seconds + settings.lifetime purpose ∧
      site.gate.issuer.issue purpose subject now id =
        Token.sign site.gate.issuer ⟨subject, sum.seconds, now.seconds, id, purpose⟩
  /-- The hours for choosing a first password, or the one hour that they are at least, end. -/
  reset : ∃ deadline,
    Directory.resetDeadline now (max settings.initialResetHours 1) = .ok deadline

theorem exists_converted (allowed : settings.violation? = none) (backend : Firewall.Backend) :
    ∃ site, assemble settings backend = .ok site ∧ Converted settings site := by
  obtain ⟨site, assembled, lifetimes⟩ := exists_hasLifetimes settings backend
  obtain ⟨grant, session, reset, _⟩ := Configuration.violation?_eq_none.1 allowed
  refine ⟨site, assembled, ?_, fun purpose => ?_⟩
  · rw [lifetimes.grant]
    exact Span.ofSeconds?_eq_saturating grant
  · cases purpose with
    | session =>
        rw [Issuer.lifetime, lifetimes.session]
        exact Span.ofSeconds?_eq_saturating session
    | passwordReset =>
        rw [Issuer.lifetime, lifetimes.reset]
        exact Span.ofSeconds?_eq_saturating reset

/-- A sum of an early time and a lifetime within the bounds lies within the calendar. -/
theorem exists_sum {seconds : Nat} {span : Span} (regular : now.IsRegular)
    (early : now.elapsed + Configuration.longestLifetime * nanosPerSecond < Instant.calendarEnd)
    (within : seconds ≤ Configuration.longestLifetime)
    (converted : Span.ofSeconds? seconds = some span) :
    ∃ sum, now.add? span = some sum ∧ sum.IsRegular ∧
      sum.elapsed = now.elapsed + seconds * nanosPerSecond := by
  have nanos := Span.ofSeconds?_eq_some_iff.1 converted
  have started := (Instant.elapsed_mem_calendar regular).1
  have forward : 0 ≤ span.nanos := by
    rw [nanos]
    exact Int.mul_nonneg (Int.natCast_nonneg _) (Int.natCast_nonneg _)
  have short : span.nanos ≤ Configuration.longestLifetime * nanosPerSecond := by
    rw [nanos]
    exact Int.mul_le_mul_of_nonneg_right (Int.ofNat_le.2 within) (Int.natCast_nonneg _)
  rw [← nanos]
  exact Instant.exists_add?_eq_some regular
    (Int.le_trans started (Int.le_add_of_nonneg_right forward))
    (Int.lt_of_le_of_lt (Int.add_le_add_left short _) early)

/-- Ten years before the end of the calendar every lifetime within the bounds is exact. -/
theorem exactAt_of_converted (allowed : settings.violation? = none)
    (converted : Converted settings site) (regular : now.IsRegular)
    (early : now.elapsed + Configuration.longestLifetime * nanosPerSecond < Instant.calendarEnd) :
    ExactAt settings site now := by
  obtain ⟨grant, session, reset, _, least, most⟩ := Configuration.violation?_eq_none.1 allowed
  obtain ⟨deadline, sum, sumRegular, same⟩ := exists_sum regular early grant converted.grant
  have nanos := Span.ofSeconds?_eq_some_iff.1 converted.grant
  have isZero : site.gate.allowList.lifetime = .zero ↔ settings.grantLifetime = 0 := by
    rw [Span.eq_zero_iff, nanos]
    unfold nanosPerSecond
    omega
  constructor
  case endless =>
    rw [AllowList.expiry, Expiry.after, sum, ← isZero]
    split <;> simp_all
  case grant =>
    intro positive
    refine ⟨deadline, ?_, sumRegular, same⟩
    rw [AllowList.expiry, Expiry.after, if_neg fun zero => positive (isZero.1 zero), sum]
  case token =>
    intro purpose subject id
    have within : settings.lifetime purpose ≤ Configuration.longestLifetime := by
      cases purpose with
      | session => exact session
      | passwordReset => exact reset
    obtain ⟨sum, found, sumRegular, same⟩ :=
      exists_sum regular early within (converted.token purpose)
    refine ⟨sum, found, ?_, ?_⟩
    · rw [Instant.seconds_eq_ediv sumRegular, Instant.seconds_eq_ediv regular, same]
      unfold nanosPerSecond
      omega
    · rw [Issuer.issue_eq, Token.claimsFor, Token.expiryAfter, found]
      rfl
  case reset =>
    have started := (Instant.elapsed_mem_calendar regular).1
    rw [Directory.exists_resetDeadline_iff regular]
    unfold Configuration.mostResetHours at most
    unfold Configuration.longestLifetime nanosPerSecond at *
    omega

/-- The arithmetic of the clock is exact, or it is refused.  For settings within their bounds the
lifetimes are converted as they are, and at every time outside leap seconds that lies more than ten
years of 365 days before the end of the calendar everything ends when it should.  At any time
outside leap seconds and for any number of hours, the deadline for a new password is the exact sum
if the calendar has it, and otherwise there is none. -/
theorem clock_is_exact :
    (∀ settings : Configuration, settings.violation? = none → ∀ backend,
      ∃ site, assemble settings backend = .ok site ∧ Converted settings site ∧
        ∀ now : Instant, now.IsRegular →
          now.elapsed + Configuration.longestLifetime * nanosPerSecond < Instant.calendarEnd →
          ExactAt settings site now) ∧
    ∀ (now : Instant) (hours : Int), now.IsRegular →
      let moment := now.elapsed + 3600 * hours * nanosPerSecond
      ((∃ deadline, Directory.resetDeadline now hours = .ok deadline) ↔
        Instant.calendarStart ≤ moment ∧ moment < Instant.calendarEnd) ∧
      ∀ deadline, Directory.resetDeadline now hours = .ok deadline →
        deadline.IsRegular ∧ deadline.elapsed = moment := by
  refine ⟨fun settings allowed backend => ?_, fun now hours regular => ⟨?_, fun deadline ok => ?_⟩⟩
  · obtain ⟨site, assembled, converted⟩ := exists_converted allowed backend
    exact ⟨site, assembled, converted,
      fun now regular early => exactAt_of_converted allowed converted regular early⟩
  · exact Directory.exists_resetDeadline_iff regular
  · exact Instant.ofElapsed?_eq_some_iff.1 ((Directory.resetDeadline_eq_ok_iff regular).1 ok)

end

/-! ### The longest lifetimes, as late as can be -/

namespace Longest

/-- Settings with the longest lifetimes that are within their bounds. -/
def settings : Configuration :=
  { Configuration.standard with
    grantLifetime := Configuration.longestLifetime
    sessionLifetime := Configuration.longestLifetime
    resetLifetime := Configuration.longestLifetime
    initialResetHours := Configuration.mostResetHours }

/-- Ten years and a day before the end of the calendar. -/
def eve : Instant := ⟨8209951430400, 0, by decide⟩

/-- With the longest lifetimes everything ends when it should, and a deadline beyond the calendar is
refused. -/
theorem clock_is_exact_longest :
    (settings.violation? = none ∧ eve.IsRegular ∧
        eve.elapsed + Configuration.longestLifetime * nanosPerSecond < Instant.calendarEnd) ∧
      (∃ site, assemble settings Reset.backend = .ok site ∧ Converted settings site ∧
        ExactAt settings site eve) ∧
      (∃ deadline, Directory.resetDeadline eve 87623 = .ok deadline ∧
        deadline.elapsed = (Instant.lastSecond + 1 - 3600) * nanosPerSecond) ∧
      ¬ ∃ deadline, Directory.resetDeadline eve 87624 = .ok deadline := by
  have allowed : settings.violation? = none := rfl
  have regular : eve.IsRegular := by decide
  have early : eve.elapsed + Configuration.longestLifetime * nanosPerSecond <
      Instant.calendarEnd := by decide
  obtain ⟨site, assembled, converted, exactAt⟩ := clock_is_exact.1 settings allowed Reset.backend
  have near := clock_is_exact.2 eve 87623 regular
  have far := clock_is_exact.2 eve 87624 regular
  obtain ⟨deadline, ok⟩ := near.1.2 (by decide)
  refine ⟨⟨allowed, regular, early⟩, ⟨site, assembled, converted, exactAt eve regular early⟩,
    ⟨deadline, ok, ?_⟩, fun found => ?_⟩
  · rw [(near.2 deadline ok).2]
    decide
  · exact absurd (far.1.1 found) (by decide)

end Longest

end Site

end Gatehouse
