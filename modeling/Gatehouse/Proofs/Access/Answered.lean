import Gatehouse.Proofs.Access.Exchange
/-!
# The exchange with a store in memory

A store in memory answers every call, so that a step of the exchange ends in one way only.  Signing
in is decided by what the store has under the name, and all who are turned away are told the same.
Whoever presents a ticket that is accepted may choose a new password.
-/

namespace Gatehouse

namespace Directory

variable {store : Store} {name credential : String} {principal : Principal}

theorem decode?_of_holds {α : Type} [Record α] {key : String} {record : α}
    (held : store.Holds key record) : decode? key (store.get? key) = .ok (some record) := by
  obtain ⟨json, found, parsed⟩ := held
  rw [found, decode?, decode, parsed]
  rfl

theorem run_lookupPrincipal (store : Store) (name : String) :
    (lookupPrincipal name).run Store.answer store =
      (decode? (userKey name) (store.get? (userKey name)), store) := rfl

/-- Setting a password for a principal that is held replaces its record. -/
theorem run_setCredential_of_holds (nonempty : credential.isEmpty = false)
    (held : store.Holds (userKey name) principal) :
    (setCredential name credential).run Store.answer store =
      (.ok (), store.insert (userKey name)
        (Record.document (principal.withCredential credential))) := by
  have found := decode?_of_holds held
  rw [setCredential, if_neg (Bool.eq_false_iff.1 nonempty), modifyPrincipal]
  simp only [locked, andThen, lookupPrincipal, read, write, Dialogue.bind_ask, Dialogue.bind_done,
    Dialogue.run, Store.answer, answered, Except.bind, found]

end Directory

namespace Access.Exchange

open Directory (userKey)

variable {issuer : Issuer} {form : Form} {now : Instant} {id : Uuid} {store middle : Store}

theorem run_andThen {α : Type} {op : Directory.Op α} {next : α → Step} {value : α}
    (ended : op.run Store.answer store = (.ok value, middle)) :
    (andThen op next).run Store.answer store = (next value).run Store.answer middle := by
  rw [andThen, Dialogue.run_bind, ended]

/-! ## Signing in -/

/-- What a store has under the name in a form. -/
def named (store : Store) (form : Form) : Except DirectoryError (Option Principal) :=
  Directory.decode? (userKey (Text.trim form.username))
    (store.get? (userKey (Text.trim form.username)))

/-- What signing in comes to, by what the directory says about the name. -/
def verdict (issuer : Issuer) (form : Form) (now : Instant) (id : Uuid) :
    Except DirectoryError (Option Principal) → Except Refusal Outcome
  | .error cause => .error (.directory cause)
  | .ok none => .error .credentials
  | .ok (some principal) =>
      if !principal.enabled || !principal.credentialMatches form.password then .error .credentials
      else if principal.resetPending now then
        .ok (.reset principal.name (issuer.issueTicket principal.name now id) none)
      else .ok (.granted principal.name false)

/-- Signing in leaves the store as it is, and it is decided by what is there under the name. -/
theorem run_signIn (issuer : Issuer) (form : Form) (now : Instant) (id : Uuid) (store : Store) :
    (signIn issuer form now id).run Store.answer store =
      (verdict issuer form now id (named store form), store) := by
  rw [signIn, andThen, Dialogue.run_bind, Directory.run_lookupPrincipal, ← named]
  dsimp only
  rcases named store form with cause | _ | principal
  · rfl
  · rfl
  · dsimp only [verdict]
    split
    · rfl
    · split <;> rfl

/-- A step for signing in, as it is answered. -/
theorem run_of_login (isLogin : form.action = some "login") :
    (run issuer form now id).run Store.answer store =
      (settle form (verdict issuer form now id (named store form)), store) := by
  rw [run, if_pos isLogin, Dialogue.run_bind, run_signIn]
  rfl

/-- The store has no enabled principal with the name and the password in a form: the name is
unknown, or it belongs to a principal that is disabled or has another password. -/
inductive TurnsAway (store : Store) (form : Form) : Prop where
  | unknown (absent : store.get? (userKey (Text.trim form.username)) = none)
  | disabled {principal : Principal}
      (held : store.Holds (userKey (Text.trim form.username)) principal)
      (disabled : principal.enabled = false)
  | wrongPassword {principal : Principal}
      (held : store.Holds (userKey (Text.trim form.username)) principal)
      (apart : principal.credential ≠ form.password)

/-- All who are turned away are told the same. -/
theorem run_of_turnsAway (isLogin : form.action = some "login") (turns : TurnsAway store form) :
    (run issuer form now id).run Store.answer store = (.rejected form.username, store) := by
  rw [run_of_login isLogin]
  cases turns with
  | unknown absent =>
      rw [named, absent]
      rfl
  | disabled held disabled =>
      rw [named, Directory.decode?_of_holds held, verdict, disabled]
      rfl
  | wrongPassword held apart =>
      have mismatch : Principal.credentialMatches _ form.password = false :=
        decide_eq_false apart
      rw [named, Directory.decode?_of_holds held, verdict, mismatch, Bool.not_false, Bool.or_true]
      rfl

/-- Whoever has the right password gets a ticket while a reset is pending. -/
theorem run_of_presents {principal : Principal} (isLogin : form.action = some "login")
    (presents : Presents store form principal) (pending : principal.resetPending now = true) :
    (run issuer form now id).run Store.answer store =
      (.reset principal.name (issuer.issueTicket principal.name now id) none, store) := by
  have isRight : principal.credentialMatches form.password = true :=
    decide_eq_true presents.credential
  rw [run_of_login isLogin, named, Directory.decode?_of_holds presents.held, verdict,
    presents.enabled, isRight, pending]
  rfl

/-! ## Choosing a new password -/

/-- A form that chooses a new password with a ticket: it names the principal or nobody, and it has
the new password twice. -/
structure Chooses (form : Form) (name ticket : String) : Prop where
  isReset : form.action = some "reset_password"
  ticket : form.ticket = some ticket
  username : Text.trim form.username = "" ∨ Text.trim form.username = name
  nonempty : form.newPassword.isEmpty = false
  confirmed : form.newPassword = form.confirmation

variable {name ticket : String}

theorem passwordFault_of_chooses (chooses : Chooses form name ticket) :
    passwordFault form = none := by
  rw [passwordFault, chooses.nonempty, if_neg Bool.false_ne_true,
    if_neg (not_not_intro chooses.confirmed)]

/-- Whoever presents a ticket that is not accepted is asked to sign in again. -/
theorem run_of_expired {cause : TokenError} (chooses : Chooses form name ticket)
    (refused : Token.validate issuer ticket .passwordReset now = .error cause) :
    (run issuer form now id).run Store.answer store =
      (.prompt (some (Refusal.userMessage (.ticket cause))), store) := by
  rw [run, chooses.isReset, if_neg (by decide), if_pos rfl, Dialogue.run_bind, resetPassword,
    chooses.ticket, Option.getD_some, refused]
  rfl

/-- Whoever presents a ticket that is accepted for a principal with a pending reset is granted
access, and the new password is set. -/
theorem run_of_chooses {claims : Claims} {principal : Principal}
    (chooses : Chooses form principal.name ticket)
    (accepted : Token.validate issuer ticket .passwordReset now = .ok claims)
    (subject : claims.subject = principal.name)
    (held : store.Holds (userKey principal.name) principal) (enabled : principal.enabled = true)
    (pending : principal.resetPending now = true) :
    (run issuer form now id).run Store.answer store =
      (.granted principal.name true, store.insert (userKey principal.name)
        (Record.document (principal.withCredential form.newPassword))) := by
  have isOwn : (!(Text.trim form.username).isEmpty &&
      Text.trim form.username ≠ principal.name) = false := by
    rcases chooses.username with blank | same
    · rw [blank]
      rfl
    · simp [same]
  have looked : (Directory.lookupPrincipal principal.name).run Store.answer store =
      (.ok (some principal), store) := by
    rw [Directory.run_lookupPrincipal, Directory.decode?_of_holds held]
  have written := Directory.run_setCredential_of_holds chooses.nonempty held
  have chosen : (resetPassword issuer form now).run Store.answer store =
      (.ok (.granted principal.name true), store.insert (userKey principal.name)
        (Record.document (principal.withCredential form.newPassword))) := by
    rw [resetPassword, chooses.ticket, Option.getD_some, accepted]
    dsimp only
    rw [subject, isOwn, if_neg Bool.false_ne_true, run_andThen looked]
    dsimp only
    rw [enabled, pending, if_neg (by decide), passwordFault_of_chooses chooses]
    dsimp only
    rw [run_andThen written]
    rfl
  rw [run, chooses.isReset, if_neg (by decide), if_pos rfl, Dialogue.run_bind, chosen]
  rfl

end Access.Exchange

end Gatehouse
