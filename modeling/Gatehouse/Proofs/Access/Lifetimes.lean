import Gatehouse.Proofs.Access.Token
import Gatehouse.Proofs.Time.Instant
import Gatehouse.Site.Challenge
/-!
# How tokens run out

A token of a lifetime expires in the second in which its issue and the lifetime add up, or in the
last second of the calendar.  A validator looks at whole seconds too.  So the token is refused from
the exact sum on, and it is accepted up to a second before the sum, whatever parts of a second the
issue, the lifetime and the time of validation have.
-/

namespace Gatehouse

namespace Instant

theorem seconds_eq_ediv {instant : Instant} (regular : instant.IsRegular) :
    instant.seconds = instant.elapsed / nanosPerSecond := by
  unfold IsRegular at regular
  unfold elapsed nanosPerSecond at *
  omega

/-- The second of a sum that is kept within the calendar. -/
theorem seconds_getD_add? {start : Instant} (regular : start.IsRegular) {span : Span}
    (forward : 0 ≤ span.nanos) :
    ((start.add? span).getD .last).seconds =
      min ((start.elapsed + span.nanos) / nanosPerSecond) lastSecond := by
  cases found : start.add? span with
  | some sum =>
      obtain ⟨sumRegular, same⟩ := (add?_eq_some_iff regular).1 found
      have within := sum.valid.2.1
      rw [seconds_eq_ediv sumRegular, same] at within
      rw [Option.getD_some, seconds_eq_ediv sumRegular, same, Int.min_eq_left within]
  | none =>
      have started := (elapsed_mem_calendar regular).1
      have beyond : calendarEnd ≤ start.elapsed + span.nanos := by
        rcases (add?_eq_none_iff regular).1 found with before | beyond
        · omega
        · exact beyond
      have late : lastSecond ≤ (start.elapsed + span.nanos) / nanosPerSecond := by
        unfold calendarEnd nanosPerSecond at *
        omega
      rw [Int.min_eq_right late]
      rfl

end Instant

namespace Access

namespace Issuer

/-- How long the tokens last that an issuer issues for a purpose. -/
def lifetime (issuer : Issuer) : Purpose → Span
  | .session => issuer.sessionLifetime
  | .passwordReset => issuer.resetLifetime

/-- The token that an issuer issues for a purpose. -/
def issue (issuer : Issuer) (purpose : Purpose) (subject : String) (now : Instant) (id : Uuid) :
    String :=
  match purpose with
  | .session => issuer.issueSession subject now id
  | .passwordReset => issuer.issueTicket subject now id

theorem issue_eq (issuer : Issuer) (purpose : Purpose) (subject : String) (now : Instant)
    (id : Uuid) :
    issuer.issue purpose subject now id =
      Token.sign issuer (Token.claimsFor subject purpose (issuer.lifetime purpose) now id) := by
  cases purpose <;> rfl

end Issuer

namespace Token

section

variable {issuer : Issuer} {token : String} {purpose : Purpose} {claims : Claims}
  {issued time later : Instant} {deadline : Int}

/-- The token runs out at a deadline, in nanoseconds since the start of 1970.  The deadline may lie
beyond the end of the calendar. -/
structure RunsOut (issuer : Issuer) (token : String) (purpose : Purpose) (claims : Claims)
    (deadline : Int) : Prop where
  /-- From the deadline on the token has expired.  No time comes after a deadline that lies beyond
  the calendar. -/
  expired : ∀ time : Instant, time.IsRegular → deadline ≤ time.elapsed →
    validate issuer token purpose time = .error .expired
  /-- Up to a second before the deadline the token is good. -/
  accepted : ∀ time : Instant, time.IsRegular → deadline < Instant.calendarEnd →
    time.elapsed + nanosPerSecond ≤ deadline → validate issuer token purpose time = .ok claims
  /-- A token whose deadline lies beyond the calendar is good up to the last second. -/
  beyond : ∀ time : Instant, Instant.calendarEnd ≤ deadline → time.seconds < Instant.lastSecond →
    validate issuer token purpose time = .ok claims
  /-- A token that has expired does not become good again. -/
  stays : ∀ time later : Instant, validate issuer token purpose time = .error .expired →
    time < later → validate issuer token purpose later = .error .expired

/-- A token is good as long as the second of its expiry has not begun. -/
theorem validate_issue (subject : String) (regular : issued.IsRegular) (id : Uuid)
    (forward : 0 ≤ (issuer.lifetime purpose).nanos) :
    validate issuer (issuer.issue purpose subject issued id) purpose time =
      if min ((issued.elapsed + (issuer.lifetime purpose).nanos) / nanosPerSecond)
          Instant.lastSecond ≤ time.seconds then
        .error .expired
      else .ok (claimsFor subject purpose (issuer.lifetime purpose) issued id) := by
  rw [Issuer.issue_eq, validate_issued, Instant.seconds_getD_add? regular forward]

/-- What expires in the second of a deadline, or in the last second of the calendar, runs out at the
deadline. -/
theorem runsOut_of_validate {claims : Claims}
    (validated : ∀ time, validate issuer token purpose time =
      if min (deadline / nanosPerSecond) Instant.lastSecond ≤ time.seconds then .error .expired
      else .ok claims) :
    RunsOut issuer token purpose claims deadline where
  expired time regular reached := by
    have second := Instant.seconds_eq_ediv regular
    rw [validated, if_pos]
    unfold nanosPerSecond at *
    omega
  accepted time regular _ before := by
    have second := Instant.seconds_eq_ediv regular
    have last := (Instant.elapsed_mem_calendar regular).2
    rw [validated, if_neg]
    unfold Instant.calendarEnd nanosPerSecond at *
    omega
  beyond time beyond early := by
    rw [validated, if_neg]
    unfold Instant.calendarEnd nanosPerSecond at *
    omega
  stays time later refused order := by
    have second : time.seconds ≤ later.seconds := by
      rcases order with less | ⟨same, _⟩
      · exact Int.le_of_lt less
      · exact Int.le_of_eq same
    rw [validated] at refused ⊢
    split at refused
    · rename_i reached
      rw [if_pos (Int.le_trans reached second)]
    · cases refused

/-- A lifetime of whole seconds is what lies between the two seconds of the claims. -/
theorem seconds_of_claimsFor (subject : String) (purpose : Purpose) {lifetime : Span}
    (regular : issued.IsRegular) (id : Uuid) (whole : (nanosPerSecond : Int) ∣ lifetime.nanos)
    (forward : 0 ≤ lifetime.nanos)
    (representable : issued.elapsed + lifetime.nanos < Instant.calendarEnd) :
    (claimsFor subject purpose lifetime issued id).expiry -
      (claimsFor subject purpose lifetime issued id).issuedAt = lifetime.seconds := by
  have issuedAt : (claimsFor subject purpose lifetime issued id).issuedAt = issued.seconds := rfl
  rw [expiry_claimsFor, Instant.seconds_getD_add? regular forward, issuedAt,
    Instant.seconds_eq_ediv regular, Span.seconds, Int.tdiv_eq_ediv_of_nonneg forward]
  unfold Instant.calendarEnd nanosPerSecond at *
  omega

/-- The tokens that are issued outside leap seconds run out when their lifetime is over, session
tokens and tickets alike.  A lifetime of whole seconds that ends within the calendar is the
difference of expiry and issue, and the session cookie is kept for just as long. -/
theorem tokens_run_out (issuer : Issuer) (purpose : Purpose)
    (forward : 0 ≤ (issuer.lifetime purpose).nanos) (subject : String) {issued : Instant}
    (regular : issued.IsRegular) (id : Uuid) :
    let token := issuer.issue purpose subject issued id
    let claims := claimsFor subject purpose (issuer.lifetime purpose) issued id
    let deadline := issued.elapsed + (issuer.lifetime purpose).nanos
    RunsOut issuer token purpose claims deadline ∧
      ((nanosPerSecond : Int) ∣ (issuer.lifetime purpose).nanos → deadline < Instant.calendarEnd →
        (claims.expiry - claims.issuedAt) * nanosPerSecond = (issuer.lifetime purpose).nanos ∧
          ∀ site : Site, site.gate.issuer = issuer → purpose = .session →
            (site.sessionCookie token).maxAge = claims.expiry - claims.issuedAt) := by
  refine ⟨runsOut_of_validate fun time => validate_issue subject regular id forward, ?_⟩
  intro whole representable
  have seconds := seconds_of_claimsFor subject purpose regular id whole forward representable
  constructor
  · rw [seconds, Span.seconds, Int.tdiv_mul_cancel whole]
  · rintro site rfl rfl
    rw [seconds]
    rfl

end

/-! ### A ticket that is issued within a second -/

namespace Brief

/-- An issuer of tickets for five minutes. -/
def issuer : Issuer :=
  ⟨[116], by decide, ⟨7200000000000, by decide⟩, ⟨300000000000, by decide⟩⟩

/-- Three quarters of the hundredth second have passed. -/
def issued : Instant := ⟨100, 750000000, by decide⟩

/-- A second before the five minutes are over. -/
def before : Instant := ⟨399, 750000000, by decide⟩

/-- The five minutes are over. -/
def after : Instant := ⟨400, 750000000, by decide⟩

/-- The ticket. -/
def ticket : String := issuer.issue .passwordReset "ada" issued (.random 7)

/-- The ticket is good at the one time, and it has expired at the other. -/
theorem tokens_run_out_ticket :
    (0 ≤ (issuer.lifetime .passwordReset).nanos ∧ issued.IsRegular) ∧
      (∃ claims, validate issuer ticket .passwordReset before = .ok claims) ∧
      validate issuer ticket .passwordReset after = .error .expired := by
  have forward : 0 ≤ (issuer.lifetime .passwordReset).nanos := by decide
  have regular : issued.IsRegular := by decide
  obtain ⟨runsOut, _⟩ :=
    tokens_run_out issuer .passwordReset forward "ada" regular (.random 7)
  exact ⟨⟨forward, regular⟩, ⟨_, runsOut.accepted before (by decide) (by decide) (by decide)⟩,
    runsOut.expired after (by decide) (by decide)⟩

end Brief

end Token

end Access

end Gatehouse
