import Gatehouse.Proofs.Access.Answered
import Gatehouse.Proofs.Access.Tickets
import Gatehouse.Proofs.Settings.Bounds
import Gatehouse.Site.Basic
/-!
# Forced resets

A principal who has to choose a new password signs in, gets a ticket and presents it.  A site with
settings that keep within their bounds always hands out the ticket.  It accepts the ticket at the
time of the login unless tickets have no lifetime, which the bounds do not rule out; then a ticket
has expired when it is issued.
-/

namespace Gatehouse

/-! ## Tickets -/

namespace Access

variable {issuer : Issuer} {seconds : Nat} {now : Instant}

/-- A ticket that is presented at once is accepted if tickets have a lifetime, and it has expired if
they have none. -/
theorem Token.validate_issueTicket (subject : String) (id : Uuid)
    (lifetime : issuer.resetLifetime = Span.saturating seconds)
    (within : seconds ≤ Configuration.longestLifetime) (early : now.seconds < Instant.lastSecond) :
    Token.validate issuer (issuer.issueTicket subject now id) .passwordReset now =
      if seconds = 0 then .error .expired
      else .ok (Token.claimsFor subject .passwordReset issuer.resetLifetime now id) := by
  rw [Issuer.issueTicket, Token.validate_issued, lifetime]
  simp only [Instant.seconds_sum_le_iff within early]

/-- A new password that is chosen with a ticket at the time of the login is set if tickets have a
lifetime, and it is refused if they have none. -/
theorem Exchange.run_of_ticket {store : Store} {principal : Principal} {form : Form}
    (id other : Uuid) (lifetime : issuer.resetLifetime = Span.saturating seconds)
    (within : seconds ≤ Configuration.longestLifetime) (early : now.seconds < Instant.lastSecond)
    (held : store.Holds (Directory.userKey principal.name) principal)
    (enabled : principal.enabled = true) (pending : principal.resetPending now = true)
    (chooses : Chooses form principal.name (issuer.issueTicket principal.name now id)) :
    (run issuer form now other).run Store.answer store =
      if seconds = 0 then (.prompt (some (Refusal.userMessage (.ticket .expired))), store)
      else (.granted principal.name true, store.insert (Directory.userKey principal.name)
        (Record.document (principal.withCredential form.newPassword))) := by
  have validated := Token.validate_issueTicket principal.name id lifetime within early
  split
  · rename_i zero
    rw [if_pos zero] at validated
    exact run_of_expired chooses validated
  · rename_i positive
    rw [if_neg positive] at validated
    exact run_of_chooses chooses validated rfl held enabled pending

end Access

/-! ## A reset from the login to the new password -/

namespace Site

open Access

/-- A site works with the lifetimes that are set, as far as a span can represent them. -/
structure HasLifetimes (settings : Configuration) (site : Site) : Prop where
  grant : site.gate.allowList.lifetime = Span.saturating settings.grantLifetime
  session : site.gate.issuer.sessionLifetime = Span.saturating settings.sessionLifetime
  reset : site.gate.issuer.resetLifetime = Span.saturating settings.resetLifetime

/-- A site can be set up with any settings. -/
theorem exists_hasLifetimes (settings : Configuration) (backend : Firewall.Backend) :
    ∃ site, assemble settings backend = .ok site ∧ HasLifetimes settings site := by
  rw [assemble, Issuer.ofSecret, dif_pos settings.encode_secret_ne_nil]
  exact ⟨_, rfl, rfl, rfl, rfl⟩

/-- A site can be set up with any settings; its tickets have the lifetime that is set. -/
theorem exists_assemble (settings : Configuration) (backend : Firewall.Backend) :
    ∃ site, assemble settings backend = .ok site ∧
      site.gate.issuer.resetLifetime = Span.saturating settings.resetLifetime := by
  obtain ⟨site, assembled, lifetimes⟩ := exists_hasLifetimes settings backend
  exact ⟨site, assembled, lifetimes.reset⟩

/-- A login of an enabled principal with a pending reset. -/
structure ResetLogin (store : Store) (form : Form) (principal : Principal) (now : Instant) :
    Prop where
  isLogin : form.action = some "login"
  presents : Exchange.Presents store form principal
  name : Text.trim form.username = principal.name
  pending : principal.resetPending now = true

/-- With settings that keep within their bounds, a login while a reset is pending is answered with a
ticket.  Presented at the same time with a new password, the ticket is accepted if tickets have a
lifetime, and it has expired if they have none. -/
theorem forced_reset_completes {settings : Configuration} (allowed : settings.violation? = none)
    (backend : Firewall.Backend) :
    ∃ site, assemble settings backend = .ok site ∧
      ∀ (store : Store) (login : Form) (principal : Principal) (now : Instant) (id : Uuid),
        ResetLogin store login principal now → now.seconds < Instant.lastSecond →
        ∃ ticket,
          (Exchange.run site.gate.issuer login now id).run Store.answer store =
            (.reset principal.name ticket none, store) ∧
          ∀ (chosen : Form) (other : Uuid), Exchange.Chooses chosen principal.name ticket →
            (Exchange.run site.gate.issuer chosen now other).run Store.answer store =
              if settings.resetLifetime = 0 then
                (.prompt (some (Exchange.Refusal.userMessage (.ticket .expired))), store)
              else (.granted principal.name true,
                store.insert (Directory.userKey principal.name)
                  (Record.document (principal.withCredential chosen.newPassword))) := by
  obtain ⟨site, assembled, lifetime⟩ := exists_assemble settings backend
  have within := (Configuration.violation?_eq_none.1 allowed).2.2.1
  refine ⟨site, assembled, fun store login principal now id reset early => ?_⟩
  have held := reset.presents.held
  rw [reset.name] at held
  exact ⟨_, Exchange.run_of_presents reset.isLogin reset.presents reset.pending,
    fun _ other => Exchange.run_of_ticket id other lifetime within early held reset.presents.enabled
      reset.pending⟩

/-! ### Settings with tickets that last, and settings without -/

namespace Reset

open Access.Reset

/-- The backend in use. -/
def backend : Firewall.Backend := .nftables .fresh

theorem resetLogin_ada : ResetLogin store login.form ada signedIn where
  isLogin := rfl
  presents := ⟨holds_store, rfl, rfl⟩
  name := rfl
  pending := rfl

/-- The form with a new password and a ticket. -/
def formWith (ticket : String) : Form := { form with ticket := some ticket }

theorem chooses_formWith (ticket : String) : Exchange.Chooses (formWith ticket) ada.name ticket :=
  ⟨rfl, rfl, .inl rfl, rfl, rfl⟩

/-- With the standard settings a reset is completed. -/
theorem forced_reset_completes_standard :
    ∃ site, assemble .standard backend = .ok site ∧ ∃ ticket,
      (Exchange.run site.gate.issuer login.form signedIn id).run Store.answer store =
        (.reset "ada" ticket none, store) ∧
      ((Exchange.run site.gate.issuer (formWith ticket) signedIn id).run Store.answer store).1 =
        .granted "ada" true := by
  have allowed : Configuration.standard.violation? = none := rfl
  obtain ⟨site, assembled, completes⟩ := forced_reset_completes allowed backend
  obtain ⟨ticket, given, chosen⟩ :=
    completes store login.form ada signedIn id resetLogin_ada (by decide)
  refine ⟨site, assembled, ticket, given, ?_⟩
  rw [chosen _ _ (chooses_formWith ticket)]
  rfl

/-- Settings under which a ticket does not last. -/
def unlasting : Configuration := { Configuration.standard with resetLifetime := 0 }

/-- These settings keep within their bounds, and a reset cannot be completed with them. -/
theorem forced_reset_without_lifetime :
    unlasting.violation? = none ∧ ∃ site, assemble unlasting backend = .ok site ∧ ∃ ticket,
      (Exchange.run site.gate.issuer login.form signedIn id).run Store.answer store =
        (.reset "ada" ticket none, store) ∧
      (Exchange.run site.gate.issuer (formWith ticket) signedIn id).run Store.answer store =
        (.prompt (some "your reset session has expired, please sign in again"), store) := by
  obtain ⟨site, assembled, lifetime⟩ := exists_assemble unlasting backend
  have zero : unlasting.resetLifetime = 0 := rfl
  have early : signedIn.seconds < Instant.lastSecond := by decide
  have chooses := chooses_formWith (site.gate.issuer.issueTicket ada.name signedIn id)
  have refused :=
    Exchange.run_of_ticket id id lifetime (Nat.zero_le _) early holds_store rfl rfl chooses
  rw [if_pos zero] at refused
  exact ⟨rfl, site, assembled, _,
    Exchange.run_of_presents resetLogin_ada.isLogin resetLogin_ada.presents resetLogin_ada.pending,
    refused⟩

end Reset

end Site

end Gatehouse
