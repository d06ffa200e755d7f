import Gatehouse.Proofs.Access.Exchange
import Gatehouse.Proofs.Access.Token
import Gatehouse.Proofs.Time.Instant
/-!
# Where grants come from

A history is a run of steps of the exchange, of operations on the directory and of session tokens
issued, from a directory that has nothing but its system roles.  Any call to the store may fail.
Nobody but the issuer can make tokens, so every ticket that is accepted was handed out before, for
somebody who had presented the right password.
-/

namespace Gatehouse.Access

/-- One step of the exchange: what was submitted, when, and what came of it. -/
structure Submission where
  form : Form
  now : Instant
  id : Uuid
  before : Store
  outcome : Outcome
  after : Store

/-- The step can take place like this. -/
def Submission.Happens (submission : Submission) (issuer : Issuer) : Prop :=
  (Exchange.run issuer submission.form submission.now submission.id).Ends Store.MayReply
    submission.before submission.outcome submission.after

/-- What happens in a history. -/
inductive Event where
  | operation (request : Directory.Request)
  /-- A session token is issued. -/
  | session (token : String)
  | submission (submission : Submission)

/-- The token that is signed with an event: a session token, or the ticket that a step hands out
without complaint. -/
def Event.signed? : Event → Option String
  | .session token => some token
  | .submission ⟨_, _, _, _, .reset _ ticket none, _⟩ => some ticket
  | _ => none

/-- The store of a directory that has nothing but its system roles. -/
def seededStore : Store := (Directory.seedSystemRoles.run Store.answer .empty).2

/-- The events of a history, the latest first, and the store after them. -/
inductive History (issuer : Issuer) : List Event → Store → Prop where
  | start : History issuer [] seededStore
  | operate {events : List Event} {store after : Store} {request : Directory.Request}
      {result : Except DirectoryError request.Result} (past : History issuer events store)
      (performed : request.perform.Ends Store.MayReply store result after) :
      History issuer (.operation request :: events) after
  | issue {events : List Event} {store : Store} (past : History issuer events store)
      (subject : String) (now : Instant) (id : Uuid) :
      History issuer (.session (issuer.issueSession subject now id) :: events) store
  | submit {events : List Event} {submission : Submission}
      (past : History issuer events submission.before) (happens : submission.Happens issuer) :
      History issuer (.submission submission :: events) submission.after

/-- Every ticket that is accepted in the history is, but for blanks around it, a token that was
signed before. -/
def Unforged (issuer : Issuer) (events : List Event) : Prop :=
  ∀ later submission earlier, events = later ++ .submission submission :: earlier →
    submission.form.action = some "reset_password" →
    ∀ claims, Token.validate issuer (submission.form.ticket.getD "") .passwordReset submission.now =
      .ok claims →
    Text.trim (submission.form.ticket.getD "") ∈ earlier.filterMap Event.signed?

section

variable {issuer : Issuer} {events earlier later : List Event} {store : Store}
  {submission : Submission}

/-! ## What holds all along -/

theorem namesAgree_seededStore : Directory.NamesAgree seededStore := by
  have empty : Directory.NamesAgree .empty := by
    rintro name principal ⟨json, found, _⟩
    cases found
  exact Directory.keepsNames_seedSystemRoles _ _ _ empty
    (Dialogue.ends_run Store.mayReply_answer _ _)

/-- Principals stay at the keys of their names. -/
theorem History.namesAgree (history : History issuer events store) :
    Directory.NamesAgree store := by
  induction history with
  | start => exact namesAgree_seededStore
  | operate past performed agree =>
      exact Directory.keepsNames_perform _ _ _ _ agree performed
  | issue past subject now id agree => exact agree
  | submit past happens agree => exact Exchange.keepsNames_run _ _ _ agree happens

/-- A step in a history has taken place after the events before it. -/
theorem History.submission_of_append (history : History issuer events store)
    (split : events = later ++ .submission submission :: earlier) :
    History issuer earlier submission.before ∧ submission.Happens issuer := by
  induction history generalizing later with
  | start => simp at split
  | operate past performed ih =>
      cases later with
      | nil => cases split
      | cons event rest => exact ih (List.cons.inj split).2
  | issue past subject now id ih =>
      cases later with
      | nil => cases split
      | cons event rest => exact ih (List.cons.inj split).2
  | submit past happens ih =>
      cases later with
      | nil =>
          cases split
          exact ⟨past, happens⟩
      | cons event rest => exact ih (List.cons.inj split).2

/-- A step that signs a token is a login with the right password while a reset is pending. -/
theorem Submission.presents_of_signed {token : String} (happens : submission.Happens issuer)
    (signed : Event.signed? (.submission submission) = some token) :
    submission.form.action = some "login" ∧ ∃ principal,
      Exchange.Presents submission.before submission.form principal ∧
        principal.resetPending submission.now = true ∧
        token = issuer.issueTicket principal.name submission.now submission.id := by
  obtain ⟨form, now, id, before, outcome, after⟩ := submission
  cases outcome with
  | reset name ticket error =>
      cases error with
      | none =>
          cases signed
          exact Exchange.ends_run_reset happens
      | some fault => cases signed
  | _ => cases signed

/-- A token that was signed is a session token, or the ticket that a step has handed out. -/
theorem History.origin_of_signed (history : History issuer events store) {token : String}
    (isSigned : token ∈ events.filterMap Event.signed?) :
    (∃ subject now id, token = issuer.issueSession subject now id) ∨
      ∃ origin, Event.submission origin ∈ events ∧
        Event.signed? (.submission origin) = some token := by
  induction history with
  | start => cases isSigned
  | operate past performed ih =>
      rcases ih isSigned with session | ⟨origin, isMember, signed⟩
      · exact .inl session
      · exact .inr ⟨origin, List.mem_cons_of_mem _ isMember, signed⟩
  | issue past subject now id ih =>
      rcases List.mem_cons.1 isSigned with rfl | isSigned
      · exact .inl ⟨subject, now, id, rfl⟩
      · rcases ih isSigned with session | ⟨origin, isMember, signed⟩
        · exact .inl session
        · exact .inr ⟨origin, List.mem_cons_of_mem _ isMember, signed⟩
  | submit past happens ih =>
      rename_i events submission
      obtain ⟨event, isMember, signed⟩ := List.mem_filterMap.1 isSigned
      rcases List.mem_cons.1 isMember with rfl | isMember
      · exact .inr ⟨submission, List.mem_cons_self, signed⟩
      · rcases ih (List.mem_filterMap.2 ⟨event, isMember, signed⟩) with
          session | ⟨origin, isMember, signed⟩
        · exact .inl session
        · exact .inr ⟨origin, List.mem_cons_of_mem _ isMember, signed⟩

/-! ## Tickets -/

/-- A session token is no ticket. -/
theorem validate_issueSession (issuer : Issuer) (subject : String) (issued : Instant) (id : Uuid)
    (now : Instant) :
    Token.validate issuer (issuer.issueSession subject issued id) .passwordReset now =
      .error .wrongPurpose := by
  rw [Issuer.issueSession, Token.validate_sign_of_fits issuer (Token.fits_claimsFor _ _ _ _ _)]
  rfl

/-- A ticket is accepted for the one it was issued for, before its lifetime is over. -/
theorem accepted_issueTicket (forward : 0 ≤ issuer.resetLifetime.nanos) {subject : String}
    {issued now : Instant} {id : Uuid} {claims : Claims}
    (accepted : Token.validate issuer (issuer.issueTicket subject issued id) .passwordReset now =
      .ok claims) :
    claims.subject = subject ∧ now.BeforeSum issued issuer.resetLifetime := by
  rw [Issuer.issueTicket, Token.validate_issued] at accepted
  split at accepted
  · cases accepted
  · rename_i live
    rw [← Except.ok.inj accepted]
    exact ⟨rfl, Instant.beforeSum_of_seconds_lt forward (Int.not_le.1 live)⟩

/-! ## Grants -/

/-- A deadline that is still to come. -/
theorem resetPending_iff {principal : Principal} {now : Instant} :
    principal.resetPending now = true ↔
      ∃ deadline, principal.resetDeadline = some deadline ∧ now < deadline := by
  unfold Principal.resetPending
  cases principal.resetDeadline <;> simp

/-- Whoever is granted access without a reset has presented the password of an enabled principal
that has no deadline to come. -/
theorem granted_of_password (history : History issuer events store)
    (split : events = later ++ .submission submission :: earlier) {subject : String}
    (granted : submission.outcome = .granted subject false) :
    ∃ principal : Principal, submission.before.Holds (Directory.userKey subject) principal ∧
      principal.enabled = true ∧ principal.credential = submission.form.password ∧
      ∀ deadline, principal.resetDeadline = some deadline → ¬ submission.now < deadline := by
  obtain ⟨past, happens⟩ := history.submission_of_append split
  unfold Submission.Happens at happens
  rw [granted] at happens
  obtain ⟨principal, presents, settled, rfl⟩ := Exchange.ends_run_granted happens
  have named := past.namesAgree _ _ presents.held
  refine ⟨principal, ?_, presents.enabled, presents.credential, ?_⟩
  · rw [named]
    exact presents.held
  · rintro deadline pending toCome
    have isPending := resetPending_iff.2 ⟨deadline, pending, toCome⟩
    rw [settled] at isPending
    cases isPending

/-- Whoever is granted access after a reset has presented the right password before, while the reset
was pending, and not longer ago than a ticket lasts. -/
theorem granted_of_ticket (history : History issuer events store)
    (unforged : Unforged issuer events) (forward : 0 ≤ issuer.resetLifetime.nanos)
    (split : events = later ++ .submission submission :: earlier) {subject : String}
    (granted : submission.outcome = .granted subject true) :
    ∃ origin, Event.submission origin ∈ earlier ∧ origin.form.action = some "login" ∧
      submission.now.BeforeSum origin.now issuer.resetLifetime ∧
      Text.trim origin.form.username = subject ∧
      ∃ principal : Principal, origin.before.Holds (Directory.userKey subject) principal ∧
        principal.enabled = true ∧ principal.credential = origin.form.password ∧
        ∃ deadline, principal.resetDeadline = some deadline ∧ origin.now < deadline := by
  obtain ⟨past, happens⟩ := history.submission_of_append split
  unfold Submission.Happens at happens
  rw [granted] at happens
  obtain ⟨isReset, claims, found, accepted, held, rfl, _⟩ := Exchange.ends_run_granted_reset happens
  have foundName : found.name = claims.subject := past.namesAgree _ _ held
  have isSigned := unforged _ _ _ split isReset claims accepted
  rcases past.origin_of_signed isSigned with
    ⟨user, issued, id, session⟩ | ⟨origin, isMember, signed⟩
  · -- A session token would have been refused for its purpose.
    have same : Text.trim (submission.form.ticket.getD "") =
        Text.trim (issuer.issueSession user issued id) := by
      rw [Issuer.issueSession, Token.trim_sign]
      exact session
    rw [Token.validate_eq_of_trim_eq same, validate_issueSession] at accepted
    cases accepted
  · obtain ⟨more, others, apart⟩ := List.append_of_mem isMember
    obtain ⟨before, occurred⟩ := past.submission_of_append apart
    obtain ⟨isLogin, principal, presents, pending, ticket⟩ :=
      Submission.presents_of_signed occurred signed
    have principalName := before.namesAgree _ _ presents.held
    have same : Text.trim (submission.form.ticket.getD "") =
        Text.trim (issuer.issueTicket principal.name origin.now origin.id) := by
      rw [Issuer.issueTicket, Token.trim_sign]
      exact ticket
    rw [Token.validate_eq_of_trim_eq same] at accepted
    obtain ⟨subject, inTime⟩ := accepted_issueTicket forward accepted
    have username : Text.trim origin.form.username = found.name := by
      rw [← principalName, ← subject, foundName]
    refine ⟨origin, isMember, isLogin, inTime, username, principal, ?_, presents.enabled,
      presents.credential, resetPending_iff.1 pending⟩
    rw [← username]
    exact presents.held

/-- Every grant traces back to a password: one given without a reset to the password presented with
it, and one given after a reset to the password presented for the ticket. -/
theorem grants_trace_back (history : History issuer events store)
    (unforged : Unforged issuer events) (forward : 0 ≤ issuer.resetLifetime.nanos)
    (split : events = later ++ .submission submission :: earlier) (subject : String) :
    (submission.outcome = .granted subject false →
      ∃ principal : Principal, submission.before.Holds (Directory.userKey subject) principal ∧
        principal.enabled = true ∧ principal.credential = submission.form.password ∧
        ∀ deadline, principal.resetDeadline = some deadline → ¬ submission.now < deadline) ∧
    (submission.outcome = .granted subject true →
      ∃ origin, Event.submission origin ∈ earlier ∧ origin.form.action = some "login" ∧
        submission.now.BeforeSum origin.now issuer.resetLifetime ∧
        Text.trim origin.form.username = subject ∧
        ∃ principal : Principal, origin.before.Holds (Directory.userKey subject) principal ∧
          principal.enabled = true ∧ principal.credential = origin.form.password ∧
          ∃ deadline, principal.resetDeadline = some deadline ∧ origin.now < deadline) :=
  ⟨granted_of_password history split, granted_of_ticket history unforged forward split⟩

end

/-! ### A reset from its beginning to its end -/

namespace Reset

/-- The one who signs. -/
def issuer : Issuer := ⟨[1], List.cons_ne_nil _ _, .zero, ⟨600000000000, by decide⟩⟩

/-- Somebody with a reset pending for a day. -/
def ada : Principal := ⟨"ada", "Ada", "", "old", some ⟨86400, 0, by decide⟩, true, "user"⟩

/-- The mark of the ticket. -/
def id : Uuid := ⟨List.replicate 16 0, rfl⟩

/-- When the old password is presented. -/
def signedIn : Instant := ⟨3600, 0, by decide⟩

/-- When the new password is chosen. -/
def chosen : Instant := ⟨3660, 0, by decide⟩

/-- The ticket. -/
def ticket : String := issuer.issueTicket "ada" signedIn id

/-- The directory after the account has been made. -/
def store : Store := ((Directory.createPrincipal ada).run Store.answer seededStore).2

/-- Signing in with the old password. -/
def login : Submission where
  form := { Form.blank with action := some "login", username := "ada", password := "old" }
  now := signedIn
  id := id
  before := store
  outcome := .reset "ada" ticket none
  after := store

/-- The form with the new password. -/
def form : Form :=
  { Form.blank with
    action := some "reset_password", newPassword := "new", confirmation := "new",
    ticket := some ticket }

/-- Choosing the new password, which leaves the directory in some state. -/
def choice (after : Store) : Submission where
  form := form
  now := chosen
  id := id
  before := store
  outcome := .granted "ada" true
  after := after

theorem login_happens : login.Happens issuer := by
  have runs : (Exchange.run issuer login.form signedIn id).run Store.answer store =
      (.reset "ada" ticket none, store) := rfl
  have ended := Dialogue.ends_run Store.mayReply_answer
    (Exchange.run issuer login.form signedIn id) store
  rw [runs] at ended
  exact ended

theorem validate_ticket : Token.validate issuer ticket .passwordReset chosen =
    .ok (Token.claimsFor "ada" .passwordReset issuer.resetLifetime signedIn id) := by
  rw [ticket, Issuer.issueTicket, Token.validate_issued]
  rfl

theorem exists_choice_happens : ∃ after, (choice after).Happens issuer := by
  have granted :
      ((Exchange.run issuer form chosen id).run Store.answer store).1 = .granted "ada" true := by
    have step : Exchange.run issuer form chosen id =
        (Exchange.resetPassword issuer form chosen).bind fun result =>
          .done (Exchange.settle form result) := rfl
    have given : form.ticket = some ticket := rfl
    rw [step, Exchange.resetPassword, given, Option.getD_some, validate_ticket]
    rfl
  have ended := Dialogue.ends_run Store.mayReply_answer (Exchange.run issuer form chosen id) store
  rw [granted] at ended
  -- The directory afterwards stays a name, so that no check computes it.
  obtain ⟨after, reset⟩ : ∃ after, (Exchange.run issuer form chosen id).Ends Store.MayReply store
      (.granted "ada" true) after := ⟨_, ended⟩
  exact ⟨after, reset⟩

/-- The events before the new password is chosen, the latest first. -/
def earlier : List Event := [.submission login, .operation (.createPrincipal ada)]

theorem history {after : Store} (happens : (choice after).Happens issuer) :
    History issuer (.submission (choice after) :: earlier) after :=
  .submit (.submit (.operate .start (Dialogue.ends_run Store.mayReply_answer _ _)) login_happens)
    happens

theorem unforged (after : Store) : Unforged issuer (.submission (choice after) :: earlier) := by
  rintro later submission others split isReset claims _
  have isSigned : Text.trim ticket = ticket := Token.trim_sign issuer _
  rcases later with _ | ⟨first, rest⟩
  · obtain ⟨same, rest⟩ := List.cons.inj split
    rw [← Event.submission.inj same, ← rest]
    exact List.mem_filterMap.2 ⟨.submission login, List.mem_cons_self, congrArg some isSigned.symm⟩
  have isEarlier : .submission submission ∈ earlier := by
    rw [(List.cons.inj split).2]
    exact List.mem_append.2 (.inr List.mem_cons_self)
  rcases List.mem_cons.1 isEarlier with same | isMember
  · rw [Event.submission.inj same] at isReset
    exact absurd (Option.some.inj isReset) (by decide)
  · cases List.mem_singleton.1 isMember

/-- The grant after the reset goes back to the old password. -/
theorem grants_trace_back_reset : ∃ after, (choice after).Happens issuer ∧
    ∃ origin, Event.submission origin ∈ earlier ∧ origin.form.action = some "login" := by
  obtain ⟨after, happens⟩ := exists_choice_happens
  have split : .submission (choice after) :: earlier =
      [] ++ .submission (choice after) :: earlier := rfl
  have traced :=
    (grants_trace_back (history happens) (unforged after) (by decide) split "ada").2 rfl
  exact ⟨after, happens, traced.imp fun _ facts => ⟨facts.1, facts.2.1⟩⟩

end Reset

end Gatehouse.Access
