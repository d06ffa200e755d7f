import Gatehouse.Proofs.Access.Refusals
import Gatehouse.Proofs.Site.Trail
/-!
# The trail of the decisions about access

Whoever is granted access, is refused or signs out leaves one event, and nobody else leaves any.
There is one exception: whoever is refused because of the ticket for a new password leaves none.
What a request is told about names is what the directory has when it is asked.
-/

namespace Gatehouse.Site

open Access.Exchange (Told Ruled Refused Cause actionFor)
open Audit (Event Kind)
open Directory (userKey lookupPrincipal)

/-! ## A directory that can be read -/

/-- How the store of the directory answers, where the moments up to the last one are given. -/
def storeReplyWithin (whole past : List Moment) (call : StoreCall) (answer : call.Answer)
    (now : List Moment) : Prop :=
  storeReply past call answer now ∧ now <+: whole

/-- What a visit meets lies within the moments at its end. -/
theorem ends_within {α : Type} {talk : Visit α} {past now : List Moment} {result : α}
    (ended : talk.Ends storeReply past result now) :
    talk.Ends (storeReplyWithin now) past result now := by
  induction ended with
  | done value moments => exact .done value moments
  | ask replied rest ih => exact .ask ⟨replied, prefix_of_ends (ends_visit.2 rest)⟩ ih

namespace Handling

/-- The directory can be read: whoever asks it first for the record of a name is given what it has
there, and that is what is known about the name. -/
def Consults (handling : Handling) (known : String → Option Principal) : Prop :=
  ∀ directory name answer,
    handling.moments.head? = some ⟨directory, .store (.get (userKey name)), answer⟩ →
      answer = .ok (directory.get? (userKey name)) ∧
        Directory.decode? (userKey name) (directory.get? (userKey name)) = .ok (known name)

variable {handling : Handling} {known : String → Option Principal}

theorem Consults.told (consults : handling.Consults known) :
    Told (storeReplyWithin handling.moments) [] known := by
  intro name result after looked
  obtain ⟨answer, middle, ⟨⟨directory, _, rfl⟩, others, same⟩, ended⟩ := Dialogue.ends_ask.1 looked
  obtain ⟨rfl, _⟩ := Dialogue.ends_done.1 ended
  have isFirst : handling.moments.head? =
      some ⟨directory, .store (.get (userKey name)), answer⟩ := by
    rw [← same]
    rfl
  obtain ⟨rfl, read⟩ := consults directory name answer isFirst
  exact read

/-! ## Decisions -/

/-- The event of a decision about whoever sends the request. -/
def accessEvent (handling : Handling) (kind : Kind) (name : String) : Event :=
  .ofAccess handling.now kind name (handling.client.getD .unspecified)

/-- The kind of the event of a grant. -/
def grantKind (afterReset : Bool) : Kind := if afterReset then .passwordReset else .login

/-- A form is posted without admission, and the directory can be read. -/
structure Submits (handling : Handling) (known : String → Option Principal) : Prop where
  elsewhere : handling.request.target.path ≠ logoutPath
  denied : handling.admission = .denied
  isPost : handling.request.method = "POST"
  consults : handling.Consults known

/-- The form is refused for a cause. -/
def IsRefused (handling : Handling) (known : String → Option Principal) (cause : Cause) : Prop :=
  Refused handling.site.gate.issuer handling.form handling.now known cause

/-- A form that is posted is ruled by what is known, and the outcome tells the events. -/
theorem Submits.exists_ruled (submits : handling.Submits known) (happens : handling.Happens) :
    ∃ outcome, handling.Exchanges outcome ∧
      Ruled handling.site.gate.issuer handling.form handling.now known outcome ∧
      handling.handled.events =
        outcomeEvents (handling.client.getD .unspecified) handling.now outcome := by
  obtain ⟨outcome, exchanges, answered⟩ :=
    exists_exchanges happens submits.elsewhere submits.denied submits.isPost
  refine ⟨outcome, exchanges, ?_, ?_⟩
  · exact submits.consults.told.ruled (ends_within (ends_visit.1 exchanges.ended))
  · rw [answered, events_concluded]

/-- A grant leaves the event of the action that it is for. -/
theorem Submits.events_of_granted (submits : handling.Submits known) (happens : handling.Happens)
    {subject : String} {afterReset : Bool}
    (granted : handling.Exchanges (.granted subject afterReset)) :
    handling.form.action = some (actionFor afterReset) ∧
      handling.handled.events = [handling.accessEvent (grantKind afterReset) subject] := by
  obtain ⟨outcome, exchanges, ruled, events⟩ := submits.exists_ruled happens
  cases granted.unique exchanges
  exact ⟨ruled.action_of_granted, events⟩

/-- A refusal leaves one event, or none if it is because of the ticket. -/
theorem Submits.events_of_refused (submits : handling.Submits known) (happens : handling.Happens)
    {cause : Cause} (refused : handling.IsRefused known cause) :
    handling.handled.events =
      if cause.isTicket then []
      else [handling.accessEvent .loginFailed handling.form.username] := by
  obtain ⟨outcome, exchanges, ruled, events⟩ := submits.exists_ruled happens
  rw [events, ruled.eq_of_refused refused]
  cases cause <;> rfl

/-- Without a grant and without a refusal there is no event. -/
theorem Submits.events_eq_nil (submits : handling.Submits known) (happens : handling.Happens)
    (notGranted : ∀ subject afterReset, ¬ handling.Exchanges (.granted subject afterReset))
    (notRefused : ∀ cause, ¬ handling.IsRefused known cause) : handling.handled.events = [] := by
  obtain ⟨outcome, exchanges, ruled, events⟩ := submits.exists_ruled happens
  rw [events]
  cases ruled with
  | refused refused => exact absurd refused (notRefused _)
  | granted => exact absurd exchanges (notGranted _ _)
  | reset | prompt => rfl

/-- Signing out leaves one event if the gate knows who it is, and none otherwise. -/
theorem events_of_logout (happens : handling.Happens)
    (isLogout : handling.request.target.path = logoutPath) :
    (∃ name, handling.site.gate.Vouches handling.request handling.now name ∧
      handling.handled.events = [handling.accessEvent .logout name]) ∨
    (∀ name, ¬ handling.site.gate.Vouches handling.request handling.now name) ∧
      handling.handled.events = [] := by
  rw [handled_of_logout happens isLogout, events_sent]
  unfold logout
  dsimp only
  cases token : handling.site.gate.sessionSubject? handling.request.headers handling.now with
  | some name => exact .inl ⟨name, Access.Gate.vouches_of_sessionSubject? token, rfl⟩
  | none =>
      cases admitted : handling.client.bind fun client =>
          handling.site.gate.allowList.admits? client handling.now with
      | some grant => exact .inl ⟨grant.subject, Access.Gate.vouches_of_admits? admitted, rfl⟩
      | none => exact .inr ⟨fun name => Access.Gate.not_vouches token admitted, rfl⟩

end Handling

open Handling (grantKind)

/-- Decisions about access are recorded.  When a form is posted without admission and the directory
can be read, a grant leaves one event of its action, a refusal leaves one event of a failed login
unless it is because of the ticket, and what is neither leaves none; nor does a refusal because of
the ticket.  Signing out leaves one event exactly if the gate knows who it is.  All that is left is
read back from the log to which it is added. -/
theorem decisions_are_recorded {handling : Handling} (happens : handling.Happens) :
    (∀ known, handling.Submits known →
      (∀ subject afterReset, handling.Exchanges (.granted subject afterReset) →
        handling.form.action = some (actionFor afterReset) ∧
          handling.handled.events = [handling.accessEvent (grantKind afterReset) subject]) ∧
      (∀ cause, handling.IsRefused known cause →
        handling.handled.events =
          if cause.isTicket then []
          else [handling.accessEvent .loginFailed handling.form.username]) ∧
      ((∀ subject afterReset, ¬ handling.Exchanges (.granted subject afterReset)) →
        (∀ cause, ¬ handling.IsRefused known cause) → handling.handled.events = [])) ∧
    (handling.request.target.path = logoutPath →
      (∃ name, handling.site.gate.Vouches handling.request handling.now name ∧
        handling.handled.events = [handling.accessEvent .logout name]) ∨
      (∀ name, ¬ handling.site.gate.Vouches handling.request handling.now name) ∧
        handling.handled.events = []) ∧
    ∀ (tree : FileTree) (path : String) (content : Bytes), tree.Holds path content →
      ∃ last log,
        (Audit.recordAll path handling.handled.events).run FileTree.answer tree = ((), last) ∧
        last.Holds path (content ++ Utf8.encode log) ∧
        (Text.lines log).filterMap Event.ofLine? = handling.handled.events := by
  refine ⟨fun known submits => ⟨?_, ?_, ?_⟩, Handling.events_of_logout happens, ?_⟩
  · exact fun subject afterReset granted => submits.events_of_granted happens granted
  · exact fun cause refused => submits.events_of_refused happens refused
  · exact submits.events_eq_nil happens
  · exact fun tree path content holds =>
      Audit.exists_log_recordAll holds (Handling.exact_details happens)

/-! ### A login, and a ticket that is forged -/

namespace Login

/-- The directory has one principal. -/
def known (name : String) : Option Principal := if name = "ada" then some ada else none

theorem submits_handling : handling.Submits known where
  elsewhere := by decide
  denied := rfl
  isPost := rfl
  consults := by
    intro store name answer isFirst
    have first : handling.moments.head? = some
        ⟨directory, .store (.get (userKey "ada")), .ok (some (Record.document ada))⟩ := rfl
    rw [first] at isFirst
    have call : Call.store (.get (userKey "ada")) = .store (.get (userKey name)) :=
      congrArg Moment.call (Option.some.inj isFirst)
    simp only [Call.store.injEq, StoreCall.get.injEq] at call
    obtain rfl := Directory.userKey_injective call
    cases isFirst
    exact ⟨rfl, rfl⟩

/-- The login is recorded. -/
theorem decisions_are_recorded_login :
    handling.Happens ∧ handling.Submits known ∧ handling.Exchanges (.granted "ada" false) ∧
      handling.handled.events = [handling.accessEvent .login "ada"] ∧
      FileTree.empty.Holds "audit.log" [] ∧ ∃ last log,
        (Audit.recordAll "audit.log" handling.handled.events).run FileTree.answer .empty =
          ((), last) ∧
        last.Holds "audit.log" (Utf8.encode log) ∧
        (Text.lines log).filterMap Event.ofLine? = [handling.accessEvent .login "ada"] := by
  obtain ⟨decided, _, recorded⟩ := decisions_are_recorded happens_handling
  have events := ((decided known submits_handling).1 "ada" false exchanges_handling).2
  obtain ⟨last, log, added, held, read⟩ := recorded _ _ _ Audit.holds_empty
  exact ⟨happens_handling, submits_handling, exchanges_handling, events, Audit.holds_empty, last,
    log, added, held, read.trans events⟩

end Login

namespace Forged

open Login (site client now id)

/-- The form for a new password, with a ticket that nobody has issued. -/
def form : Access.Form := { Access.Form.blank with
  action := some "reset_password", username := "ada", newPassword := "new", confirmation := "new",
  ticket := some "forged" }

/-- The request with the form. -/
def request : Http.Request := { Login.request with
  body := Utf8.encode ("sleuth_action=reset_password&username=ada&new_password=new" ++
    "&confirm_password=new&reset_token=forged") }

/-- How the step ends. -/
def outcome : Access.Outcome := Cause.outcome form (.ticket .malformed)

/-- The handling of the request, for which no record is read. -/
def handling : Handling where
  site := site
  tree := .empty
  request := request
  now := now
  id := id
  moments := []
  handled := site.concluded request form (some client) now id outcome

theorem form_handling : handling.form = form := by decide +kernel

theorem validate_ticket :
    Access.Token.validate site.gate.issuer "forged" .passwordReset now = .error .malformed := by
  decide +kernel

theorem exchanges_handling : handling.Exchanges outcome where
  elsewhere := by decide
  denied := rfl
  isPost := rfl
  ended := by
    have step : Access.Exchange.run site.gate.issuer form now id = .done outcome := by
      have isReset : form.action = some "reset_password" := rfl
      have ticket : form.ticket.getD "" = "forged" := rfl
      rw [Access.Exchange.run, if_neg (by decide), if_pos isReset, Access.Exchange.resetPassword,
        ticket, validate_ticket]
      rfl
    have ended : (visit (Access.Exchange.run site.gate.issuer form now id)).Ends Moment.Follows []
        outcome [] := by
      rw [step]
      exact .done _ _
    rw [form_handling]
    exact ended

theorem happens_handling : handling.Happens :=
  Handling.happens_of_exchanges exchanges_handling (by rw [form_handling]; rfl)

/-- A login that fails because the ticket is forged is not recorded. -/
theorem forged_ticket_leaves_no_event :
    handling.Happens ∧ handling.Submits (fun _ => none) ∧
      handling.form.action = some "reset_password" ∧
      handling.IsRefused (fun _ => none) (.ticket .malformed) ∧
      handling.handled.events ≠ [handling.accessEvent .loginFailed "ada"] := by
  have submits : handling.Submits fun _ => none :=
    ⟨exchanges_handling.elsewhere, exchanges_handling.denied, exchanges_handling.isPost,
      fun _ _ _ isFirst => nomatch isFirst⟩
  have isRefused : handling.IsRefused (fun _ => none) (.ticket .malformed) := by
    rw [Handling.IsRefused, form_handling]
    exact .ticket rfl validate_ticket
  have none : handling.handled.events = [] := events_concluded form (some client) id outcome
  refine ⟨happens_handling, submits, ?_, isRefused, ?_⟩
  · rw [form_handling]
    rfl
  · rw [none]
    exact (List.cons_ne_nil _ _).symm

end Forged

end Gatehouse.Site
