import Gatehouse.Proofs.Access.Changes
import Gatehouse.Proofs.Directory.Documents
/-!
# What a ticket is good for

A ticket is not marked when it is used: a reset is over because none is pending any more.  So a
ticket sets a password once more as soon as another reset is required of the same principal, and not
before.
-/

namespace Gatehouse.Access

open Directory (Request Settled userKey)

section

variable {issuer : Issuer} {events earlier between later : List Event} {store : Store}
  {submission first second : Submission} {name subject other : String}

/-! ## Documents in a history -/

/-- A step of the exchange changes a document as the operation that sets a password does, or not at
all. -/
theorem Submission.settled (happens : submission.Happens issuer)
    (settled : Settled (submission.before.get? (userKey name))) :
    Settled (submission.after.get? (userKey name)) := by
  rcases Exchange.eq_or_sets_of_ends_run happens with same | ⟨user, sets⟩
  · rwa [same]
  · have written : (Request.setCredential user submission.form.newPassword).perform.Ends
        Store.MayReply submission.before (.ok ()) submission.after := sets
    rw [Directory.get?_of_ends_perform name written]
    exact Directory.settled_documentAfter settled (fun _ => rfl) _

/-- After a step, a document stays settled as long as no operation requires a reset of its
principal. -/
theorem History.settled
    (history : History issuer (between ++ .submission submission :: earlier) store)
    (settled : Settled (submission.after.get? (userKey name)))
    (nobody : ∀ request : Request, .operation request ∈ between → request.target? = some name →
      request.requiresReset = false) :
    Settled (store.get? (userKey name)) := by
  induction between generalizing store with
  | nil =>
      cases history with
      | submit => exact settled
  | cons event between ih =>
      have nobodyBefore : ∀ request : Request, .operation request ∈ between →
          request.target? = some name → request.requiresReset = false :=
        fun request isMember => nobody request (List.mem_cons_of_mem _ isMember)
      cases history with
      | @operate _ _ _ request result past performed =>
          rw [Directory.get?_of_ends_perform name performed]
          exact Directory.settled_documentAfter (ih past nobodyBefore)
            (nobody request List.mem_cons_self) _
      | issue past => exact ih past nobodyBefore
      | submit past happens => exact Submission.settled happens (ih past nobodyBefore)

/-! ## Tickets that are used twice -/

/-- After a grant by a ticket, no reset is pending for the principal that the ticket is for. -/
theorem settled_of_granted (named : Directory.NamesAgree submission.before)
    (happens : submission.Happens issuer) (granted : submission.outcome = .granted subject true) :
    Settled (submission.after.get? (userKey subject)) ∧ ∃ claims : Claims,
      Token.validate issuer (submission.form.ticket.getD "") .passwordReset submission.now =
        .ok claims ∧ claims.subject = subject := by
  unfold Submission.Happens at happens
  rw [granted] at happens
  obtain ⟨_, claims, principal, accepted, held, rfl, sets⟩ :=
    Exchange.ends_run_granted_reset happens
  refine ⟨?_, claims, accepted, (named _ _ held).symm⟩
  obtain ⟨_, _, json, found, parsed⟩ := sets.changes.1
  intro other record isOther isRecord
  cases found.symm.trans isOther
  cases parsed.symm.trans isRecord
  rfl

/-- A ticket by which access has been granted after a reset is accepted for another one only for the
same principal, and only if an operation has required a reset of that principal in between. -/
theorem reset_required_between (history : History issuer events store)
    (split : events = later ++ .submission second :: between ++ .submission first :: earlier)
    (same : Text.trim (second.form.ticket.getD "") = Text.trim (first.form.ticket.getD ""))
    (granted : first.outcome = .granted subject true)
    (again : second.outcome = .granted other true) :
    other = subject ∧ ∃ request : Request, .operation request ∈ between ∧
      request.target? = some subject ∧ request.requiresReset = true := by
  rw [List.append_assoc, List.cons_append] at split
  obtain ⟨past, happensAgain⟩ := history.submission_of_append split
  obtain ⟨before, happens⟩ := past.submission_of_append rfl
  obtain ⟨settled, claims, accepted, isSubject⟩ :=
    settled_of_granted before.namesAgree happens granted
  unfold Submission.Happens at happensAgain
  rw [again] at happensAgain
  obtain ⟨_, found, principal, acceptedAgain, held, rfl, sets⟩ :=
    Exchange.ends_run_granted_reset happensAgain
  rw [Token.validate_eq_of_trim_eq same] at acceptedAgain
  obtain rfl := Token.claims_unique accepted acceptedAgain
  rw [isSubject] at held
  refine ⟨past.namesAgree _ _ held, ?_⟩
  -- If nobody had required another reset, none would be pending when the ticket is used again.
  refine Classical.byContradiction fun nobody => ?_
  have stillSettled := past.settled settled fun request isMember isTarget =>
    Bool.eq_false_iff.2 fun requires => nobody ⟨request, isMember, isTarget, requires⟩
  obtain ⟨json, isThere, parsed⟩ := held
  obtain ⟨deadline, isPending, _⟩ := resetPending_iff.1 sets.pending
  rw [stillSettled json principal isThere parsed] at isPending
  cases isPending

end

/-! ### A ticket that is used twice -/

namespace Reset

/-- When the ticket is used once more. -/
def again : Instant := ⟨3720, 0, by decide⟩

/-- Another reset is required up to the same time. -/
def require : Request := .requireReset "ada" ada.resetDeadline

/-- The directory after the first new password. -/
def changed : Store := store.insert (userKey "ada") (Record.document (ada.withCredential "new"))

/-- Ada after another reset has been required. -/
def pendingAgain : Principal := { ada with credential := "new" }

/-- The directory after another reset has been required. -/
def required : Store := changed.insert (userKey "ada") (Record.document pendingAgain)

/-- Choosing the password once more. -/
def repetition : Submission where
  form := form
  now := again
  id := id
  before := required
  outcome := .granted "ada" true
  after := required.insert (userKey "ada") (Record.document (pendingAgain.withCredential "new"))

theorem holds_store : store.Holds (userKey "ada") ada :=
  ⟨Record.document ada, rfl, by decide +kernel⟩

theorem holds_required : required.Holds (userKey "ada") pendingAgain :=
  ⟨Record.document pendingAgain, SortedMap.get?_insert_self .., by decide +kernel⟩

/-- What the ticket says. -/
def claims : Claims := Token.claimsFor "ada" .passwordReset issuer.resetLifetime signedIn id

/-- The ticket is accepted before it expires. -/
theorem validate_form {now : Instant} (live : ¬ claims.expiry ≤ now.seconds) :
    Token.validate issuer (form.ticket.getD "") .passwordReset now = .ok claims := by
  have given : form.ticket = some ticket := rfl
  have expiry : claims.expiry = ((signedIn.add? issuer.resetLifetime).getD .last).seconds :=
    Token.expiry_claimsFor ..
  rw [given, Option.getD_some, ticket, Issuer.issueTicket, Token.validate_issued, ← expiry,
    if_neg live]
  rfl

theorem choice_happens : (choice changed).Happens issuer := by
  have accepted : Token.validate issuer (form.ticket.getD "") .passwordReset chosen = .ok claims :=
    validate_form (by decide)
  have sets : Exchange.Sets form chosen ada store changed :=
    ⟨rfl, rfl, Directory.ends_setCredential_of_holds rfl holds_store⟩
  have granted : (Exchange.run issuer form chosen id).Ends Store.MayReply store
      (.granted ada.name true) changed :=
    Exchange.ends_run_of_sets rfl rfl accepted holds_store rfl sets
  exact granted

theorem require_performs : require.perform.Ends Store.MayReply changed (.ok ()) required :=
  Directory.ends_modifyPrincipal_of_holds (Directory.holds_insert_document _)

theorem repetition_happens : repetition.Happens issuer := by
  have accepted : Token.validate issuer (form.ticket.getD "") .passwordReset again = .ok claims :=
    validate_form (by decide)
  have sets : Exchange.Sets form again pendingAgain required repetition.after :=
    ⟨rfl, rfl, Directory.ends_setCredential_of_holds rfl holds_required⟩
  have granted : (Exchange.run issuer form again id).Ends Store.MayReply required
      (.granted pendingAgain.name true) repetition.after :=
    Exchange.ends_run_of_sets rfl rfl accepted holds_required rfl sets
  exact granted

/-- What happens until the ticket has been used twice, the latest first. -/
def twice : List Event :=
  .submission repetition :: .operation require :: .submission (choice changed) :: earlier

theorem history_twice : History issuer twice repetition.after :=
  .submit (.operate (history choice_happens) require_performs) repetition_happens

/-- Between the two uses, another reset has been required. -/
theorem reset_required_between_ada : History issuer twice repetition.after ∧
    ∃ request : Request, .operation request ∈ [Event.operation require] ∧
      request.target? = some "ada" ∧ request.requiresReset = true := by
  have split : twice = [] ++ .submission repetition :: [.operation require] ++
      .submission (choice changed) :: earlier := rfl
  exact ⟨history_twice, (reset_required_between history_twice split rfl rfl rfl).2⟩

end Reset

/-- A ticket that was handed out once may be used for two new passwords. -/
theorem ticket_used_twice : ∃ issuer events store, History issuer events store ∧
    ∃ ticket, ticket ∈ events.filterMap Event.signed? ∧
      ∃ later second between first earlier,
        events = later ++ .submission second :: between ++ .submission first :: earlier ∧
        first.form.ticket = some ticket ∧ second.form.ticket = some ticket ∧
        first.outcome = .granted "ada" true ∧ second.outcome = .granted "ada" true :=
  ⟨Reset.issuer, Reset.twice, Reset.repetition.after, Reset.history_twice, Reset.ticket,
    List.mem_filterMap.2 ⟨.submission Reset.login,
      .tail _ (.tail _ (.tail _ List.mem_cons_self)), rfl⟩,
    [], Reset.repetition, [.operation Reset.require], Reset.choice Reset.changed, Reset.earlier,
    rfl, rfl, rfl, rfl, rfl⟩

end Gatehouse.Access
