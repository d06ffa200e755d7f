import Gatehouse.Proofs.Access.Answered
import Gatehouse.Proofs.Access.Changes
import Gatehouse.Proofs.Directory.Documents
/-!
# Empty passwords

The empty password cannot be set, neither by the operation for it nor by a reset.  But a record that
is added or that replaces another one is stored with the password it comes with, and the empty one
is compared like any other when somebody signs in.  So an account is entered with the empty password
only after a record has been stored in one of these two ways, and then it can be.
-/

namespace Gatehouse.Directory

variable {name : String} {document : Option Json} {store after : Store}

/-! ## Documents without the empty password -/

/-- The document is none of a principal with the empty password. -/
def Guarded (document : Option Json) : Prop :=
  ∀ json (principal : Principal), document = some json → Record.parse? json = some principal →
    principal.credential ≠ ""

/-- The record of a principal that an operation stores as it comes. -/
def Request.stores? : Request → Option Principal
  | .createPrincipal principal => some principal
  | .updatePrincipal principal => some principal
  | _ => none

/-- The operation is there to store a record with the empty password under a name. -/
def Request.Opens (name : String) (request : Request) : Prop :=
  ∃ principal, request.stores? = some principal ∧ principal.name = name ∧
    principal.credential = ""

theorem guarded_none : Guarded none := by
  rintro json principal ⟨⟩

theorem guarded_document {principal : Principal} (nonempty : principal.credential ≠ "") :
    Guarded (some (Record.document principal)) := by
  rintro json found ⟨⟩ parsed
  rw [LawfulRecord.parse?_document] at parsed
  cases parsed
  exact nonempty

theorem guarded_revised {change : Principal → Principal}
    (nonempty : ∀ json principal, document = some json → Record.parse? json = some principal →
      (change principal).credential ≠ "") : Guarded (revised document change) := by
  intro json found isRevised parsed
  obtain ⟨old, isOld, isDocument⟩ := Option.bind_eq_some_iff.1 isRevised
  obtain ⟨principal, wasParsed, rfl⟩ := Option.map_eq_some_iff.1 isDocument
  exact guarded_document (nonempty old principal isOld wasParsed) _ _ rfl parsed

/-- The empty password is not set. -/
theorem nonempty_of_ends_setCredential {credential : String} {value : Unit}
    (ended : (setCredential name credential).Ends Store.MayReply store (.ok value) after) :
    credential ≠ "" := by
  rintro rfl
  have refused : setCredential name "" = fail (.invalid "password" "password must not be empty") :=
    rfl
  rw [refused] at ended
  cases (Dialogue.ends_done.1 ended).1

/-- A document stays guarded, unless an operation succeeds in storing a record with the empty
password in its place. -/
theorem guarded_of_ends_perform {request : Request} {result : Except DirectoryError request.Result}
    (guarded : Guarded (store.get? (userKey name)))
    (ended : request.perform.Ends Store.MayReply store result after)
    (spared : (∃ value, result = .ok value) → ¬ request.Opens name) :
    Guarded (after.get? (userKey name)) := by
  rw [get?_of_ends_perform name ended]
  cases result with
  | error error => exact guarded
  | ok value =>
      have closed := spared ⟨value, rfl⟩
      by_cases isTarget : request.target? = some name
      · rw [Request.documentAfter_ok isTarget]
        cases request with
        | createPrincipal principal =>
            cases isTarget
            exact guarded_document fun empty => closed ⟨principal, rfl, rfl, empty⟩
        | updatePrincipal principal =>
            cases isTarget
            exact guarded_document fun empty => closed ⟨principal, rfl, rfl, empty⟩
        | setCredential user credential =>
            -- What it makes of the document does not tell; that it has succeeded does.
            exact guarded_revised fun _ _ _ _ => nonempty_of_ends_setCredential ended
        | requireReset user deadline => exact guarded_revised guarded
        | deletePrincipal user => exact guarded_none
        | _ => cases isTarget
      · rwa [Request.documentAfter_of_ne isTarget]

/-- A record that has been stored as it comes stands at the key of its name. -/
theorem holds_of_stores {request : Request} {value : request.Result} {principal : Principal}
    (ended : request.perform.Ends Store.MayReply store (.ok value) after)
    (stores : request.stores? = some principal) :
    after.Holds (userKey principal.name) principal := by
  have isTarget : request.target? = some principal.name := by
    cases request with
    | createPrincipal | updatePrincipal =>
        cases stores
        rfl
    | _ => cases stores
  have written := get?_of_ends_perform principal.name ended
  rw [Request.documentAfter_ok isTarget] at written
  refine ⟨Record.document principal, ?_, LawfulRecord.parse?_document principal⟩
  rw [written]
  cases request with
  | createPrincipal | updatePrincipal =>
      cases stores
      rfl
  | _ => cases stores

end Gatehouse.Directory

namespace Gatehouse.Access

open Directory (Guarded Request userKey)

/-! ## Entering with a password -/

/-- The step lets somebody in, or lets them choose a new password. -/
def Outcome.enters : Outcome → Bool
  | .granted _ _ => true
  | .reset _ _ _ => true
  | _ => false

namespace Exchange

variable {issuer : Issuer} {form : Form} {now : Instant} {id : Uuid} {store after : Store}
  {outcome : Outcome}

/-- Whoever enters by signing in has presented the password of an enabled principal. -/
theorem presents_of_enters (isLogin : form.action = some "login")
    (ended : (run issuer form now id).Ends Store.MayReply store outcome after)
    (enters : outcome.enters = true) : ∃ principal, Presents store form principal := by
  rcases ends_run ended with ⟨_, result, begun, rfl⟩ | ⟨isReset, _⟩ | ⟨rfl, _⟩
  · have accepted : result = .ok (settle form result) := by
      apply eq_ok_of_settle
      cases same : settle form result with
      | granted subject afterReset => exact .inl ⟨subject, afterReset, rfl⟩
      | reset name ticket error => exact .inr ⟨name, ticket, error, rfl⟩
      | _ =>
          rw [same] at enters
          cases enters
    obtain ⟨principal, presents, _⟩ := (ends_signIn begun).2 _ accepted
    exact ⟨principal, presents⟩
  · rw [isLogin] at isReset
    exact absurd isReset (by decide)
  · cases enters

/-- Signing in lets in just those who present the password of an enabled principal. -/
theorem enters_iff_presents (isLogin : form.action = some "login") :
    ((run issuer form now id).run Store.answer store).1.enters = true ↔
      ∃ principal, Presents store form principal := by
  constructor
  · exact presents_of_enters isLogin (Dialogue.ends_run Store.mayReply_answer _ _)
  · rintro ⟨principal, presents⟩
    have isRight : principal.credentialMatches form.password = true :=
      decide_eq_true presents.credential
    rw [run_of_login isLogin, named, Directory.decode?_of_holds presents.held, verdict,
      presents.enabled, isRight]
    cases principal.resetPending now <;> rfl

end Exchange

/-! ## Accounts that have been opened -/

/-- In the events of a history, an operation has succeeded in storing a record with the empty
password under a name. -/
def Opened (issuer : Issuer) (events : List Event) (name : String) : Prop :=
  ∃ (later earlier : List Event) (before after : Store) (request : Request)
    (value : request.Result), events = later ++ .operation request :: earlier ∧
      History issuer earlier before ∧
      request.perform.Ends Store.MayReply before (.ok value) after ∧ request.Opens name

section

variable {issuer : Issuer} {events : List Event} {store : Store} {submission : Submission}
  {name : String}

theorem Opened.cons (opened : Opened issuer events name) (event : Event) :
    Opened issuer (event :: events) name := by
  obtain ⟨later, earlier, before, after, request, value, rfl, facts⟩ := opened
  exact ⟨event :: later, earlier, before, after, request, value, rfl, facts⟩

theorem guarded_seededStore : Guarded (seededStore.get? (userKey name)) := by
  have seeded : (Request.seedSystemRoles).perform.Ends Store.MayReply .empty _ seededStore :=
    Dialogue.ends_run Store.mayReply_answer _ _
  have isEmpty : Guarded (SortedMap.empty.get? (userKey name)) := Directory.guarded_none
  refine Directory.guarded_of_ends_perform isEmpty seeded ?_
  rintro _ ⟨_, impossible, _⟩
  cases impossible

/-- A reset sets a password that is not empty, and no other step changes anything. -/
theorem Submission.guarded (happens : submission.Happens issuer)
    (guarded : Guarded (submission.before.get? (userKey name))) :
    Guarded (submission.after.get? (userKey name)) := by
  rcases Exchange.eq_or_sets_of_ends_run happens with same | ⟨user, sets⟩
  · rwa [same]
  · have written : (Request.setCredential user submission.form.newPassword).perform.Ends
        Store.MayReply submission.before (.ok ()) submission.after := sets
    refine Directory.guarded_of_ends_perform guarded written ?_
    rintro _ ⟨_, impossible, _⟩
    cases impossible

/-- A principal has a password that is not empty unless its account has been opened. -/
theorem History.guarded_of_not_opened (history : History issuer events store)
    (closed : ¬ Opened issuer events name) : Guarded (store.get? (userKey name)) := by
  induction history with
  | start => exact guarded_seededStore
  | @operate events before after request result past performed ih =>
      have guarded := ih fun opened => closed (opened.cons _)
      refine Directory.guarded_of_ends_perform guarded performed ?_
      rintro ⟨value, rfl⟩ opens
      exact closed ⟨[], events, before, after, request, value, rfl, past, performed, opens⟩
  | issue past subject now id ih => exact ih fun opened => closed (opened.cons _)
  | submit past happens ih =>
      exact Submission.guarded happens (ih fun opened => closed (opened.cons _))

/-- With the empty password nobody enters an account, unless an operation has stored a record with
the empty password for it.  Each account whose record is stored so, and is enabled, can be entered
with it. -/
theorem empty_password_enters_opened_accounts (issuer : Issuer) :
    (∀ events store submission, History issuer (.submission submission :: events) store →
      submission.form.action = some "login" → submission.form.password = "" →
      submission.outcome.enters = true →
      Opened issuer events (Text.trim submission.form.username)) ∧
    ∀ (request : Request) (value : request.Result) (before after : Store) (principal : Principal),
      request.perform.Ends Store.MayReply before (.ok value) after →
      request.stores? = some principal → principal.credential = "" → principal.enabled = true →
      ∀ (form : Form) (now : Instant) (id : Uuid), form.action = some "login" →
        form.password = "" → Text.trim form.username = principal.name →
        ((Exchange.run issuer form now id).run Store.answer after).1.enters = true := by
  constructor
  · intro events store submission history isLogin isEmpty enters
    refine Classical.byContradiction fun closed => ?_
    have split : Event.submission submission :: events =
        [] ++ Event.submission submission :: events := rfl
    obtain ⟨past, happens⟩ := history.submission_of_append split
    obtain ⟨principal, presents⟩ := Exchange.presents_of_enters isLogin happens enters
    obtain ⟨json, found, parsed⟩ := presents.held
    refine past.guarded_of_not_opened closed json principal found parsed ?_
    rw [presents.credential, isEmpty]
  · intro request value before after principal performed stores empty enabled form now id isLogin
      isEmpty isName
    have held := Directory.holds_of_stores performed stores
    rw [← isName] at held
    exact (Exchange.enters_iff_presents isLogin).2
      ⟨principal, held, enabled, empty.trans isEmpty.symm⟩

end

/-! ### An account without a password -/

namespace Passwordless

/-- A principal with the empty password. -/
def bob : Principal := Principal.ofName "bob" ""

/-- The directory after the account has been made. -/
def store : Store := ((Directory.createPrincipal bob).run Store.answer seededStore).2

/-- Signing in with no password. -/
def login : Submission where
  form := { Form.blank with action := some "login", username := "bob" }
  now := Reset.signedIn
  id := Reset.id
  before := store
  outcome := .granted "bob" false
  after := store

theorem create_performs : (Request.createPrincipal bob).perform.Ends Store.MayReply seededStore
    (.ok ()) store :=
  Dialogue.ends_run Store.mayReply_answer (Directory.createPrincipal bob) seededStore

theorem login_happens : login.Happens Reset.issuer := by
  have runs : (Exchange.run Reset.issuer login.form login.now login.id).run Store.answer store =
      (.granted "bob" false, store) := rfl
  have ended := Dialogue.ends_run Store.mayReply_answer
    (Exchange.run Reset.issuer login.form login.now login.id) store
  rw [runs] at ended
  exact ended

theorem history_login : History Reset.issuer
    [.submission login, .operation (.createPrincipal bob)] store :=
  .submit (.operate .start create_performs) login_happens

/-- Bob gets in without a password, and his account has been opened before. -/
theorem empty_password_enters_opened_accounts_bob :
    History Reset.issuer [.submission login, .operation (.createPrincipal bob)] store ∧
      Opened Reset.issuer [.operation (.createPrincipal bob)] "bob" ∧
      ((Exchange.run Reset.issuer login.form Reset.chosen Reset.id).run
        Store.answer store).1.enters = true := by
  obtain ⟨traces, entered⟩ := empty_password_enters_opened_accounts Reset.issuer
  have opened := traces _ _ _ history_login rfl rfl rfl
  have isName : Text.trim login.form.username = "bob" := by decide
  rw [isName] at opened
  refine ⟨history_login, opened, ?_⟩
  exact entered _ _ _ _ bob create_performs rfl rfl rfl login.form Reset.chosen Reset.id rfl rfl
    isName

/-- It is not so that nobody gets in with the empty password. -/
theorem entered_without_password :
    ¬ ∀ (issuer : Issuer) (events : List Event) (store : Store) (submission : Submission),
      History issuer (.submission submission :: events) store →
      submission.form.action = some "login" → submission.form.password = "" →
      submission.outcome.enters = false := by
  intro claimed
  exact absurd (claimed _ _ _ _ history_login rfl rfl) (by decide)

end Passwordless

end Gatehouse.Access
