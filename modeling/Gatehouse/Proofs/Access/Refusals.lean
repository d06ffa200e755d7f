import Gatehouse.Proofs.Access.Answered
/-!
# Why a step is refused

A form is refused because of its name, its password, a principal that is disabled, a reset that is
not pending, or the ticket.  Which of these it is follows from the form and from what the directory
says about names.  All causes but the ticket look the same: the credentials are rejected.
-/

namespace Gatehouse.Access.Exchange

open Directory (lookupPrincipal)

/-- Why a form is refused. -/
inductive Cause where
  /-- Nobody has the name, or the ticket is for another one. -/
  | name
  | disabled
  | password
  /-- No reset is pending, or the time for it is over. -/
  | window
  | ticket (cause : TokenError)
deriving DecidableEq

/-- Whether it is because of the ticket. -/
def Cause.isTicket : Cause → Bool
  | .ticket _ => true
  | _ => false

/-- How a step ends that is refused. -/
def Cause.outcome (form : Form) : Cause → Outcome
  | .ticket cause => .prompt (some (Refusal.userMessage (.ticket cause)))
  | _ => .rejected form.username

/-- Name and password in a form do not belong to a principal who may sign in. -/
inductive Unfit (form : Form) (known : String → Option Principal) : Cause → Prop where
  | unknown (nobody : known (Text.trim form.username) = none) : Unfit form known .name
  | disabled {principal : Principal} (found : known (Text.trim form.username) = some principal)
      (disabled : principal.enabled = false) : Unfit form known .disabled
  | password {principal : Principal} (found : known (Text.trim form.username) = some principal)
      (apart : principal.credential ≠ form.password) : Unfit form known .password

/-- A ticket for somebody does not entitle whoever sends the form. -/
inductive Barred (form : Form) (now : Instant) (known : String → Option Principal)
    (subject : String) : Cause → Prop where
  | other (named : Text.trim form.username ≠ "") (apart : Text.trim form.username ≠ subject) :
      Barred form now known subject .name
  | unknown (nobody : known subject = none) : Barred form now known subject .name
  | disabled {principal : Principal} (found : known subject = some principal)
      (disabled : principal.enabled = false) : Barred form now known subject .disabled
  | window {principal : Principal} (found : known subject = some principal)
      (closed : principal.resetPending now = false) : Barred form now known subject .window

/-- A form is refused for a cause, where the directory has these principals. -/
inductive Refused (issuer : Issuer) (form : Form) (now : Instant)
    (known : String → Option Principal) : Cause → Prop where
  | login {cause : Cause} (isLogin : form.action = some "login") (unfit : Unfit form known cause) :
      Refused issuer form now known cause
  | ticket {cause : TokenError} (isReset : form.action = some "reset_password")
      (refused : Token.validate issuer (form.ticket.getD "") .passwordReset now = .error cause) :
      Refused issuer form now known (.ticket cause)
  | reset {claims : Claims} {cause : Cause} (isReset : form.action = some "reset_password")
      (accepted : Token.validate issuer (form.ticket.getD "") .passwordReset now = .ok claims)
      (barred : Barred form now known claims.subject cause) : Refused issuer form now known cause

variable {issuer : Issuer} {form : Form} {now : Instant} {id : Uuid} {cause : Cause}
  {known : String → Option Principal}

theorem not_isReset (isLogin : form.action = some "login") :
    form.action ≠ some "reset_password" := by
  rw [isLogin]
  decide

/-- However often a form is refused, it ends in one way. -/
theorem Refused.outcome_unique {other : Cause} (refused : Refused issuer form now known cause)
    (again : Refused issuer form now known other) : cause.outcome form = other.outcome form := by
  have rejected : ∀ {cause}, Unfit form known cause → cause.outcome form = .rejected form.username
  | _, .unknown _ | _, .disabled _ _ | _, .password _ _ => rfl
  have denied : ∀ {subject cause}, Barred form now known subject cause →
      cause.outcome form = .rejected form.username
  | _, _, .other _ _ | _, _, .unknown _ | _, _, .disabled _ _ | _, _, .window _ _ => rfl
  cases refused with
  | login isLogin unfit =>
      cases again with
      | login _ unfitAgain => rw [rejected unfit, rejected unfitAgain]
      | ticket isReset _ => exact absurd isReset (not_isReset isLogin)
      | reset isReset _ _ => exact absurd isReset (not_isReset isLogin)
  | ticket isReset refused =>
      cases again with
      | login isLogin _ => exact absurd isReset (not_isReset isLogin)
      | ticket _ refusedAgain =>
          cases refused.symm.trans refusedAgain
          rfl
      | reset _ accepted _ => cases refused.symm.trans accepted
  | reset isReset accepted barred =>
      cases again with
      | login isLogin _ => exact absurd isReset (not_isReset isLogin)
      | ticket _ refused => cases refused.symm.trans accepted
      | reset _ _ barredAgain => rw [denied barred, denied barredAgain]

/-! ## Steps that are told what the directory has -/

/-- The action that a grant is for. -/
def actionFor (afterReset : Bool) : String := if afterReset then "reset_password" else "login"

/-- How a step may end: as the cause says for which it is refused, or else in a way that is no
refusal. -/
inductive Ruled (issuer : Issuer) (form : Form) (now : Instant)
    (known : String → Option Principal) : Outcome → Prop where
  | refused {cause : Cause} (refused : Refused issuer form now known cause) :
      Ruled issuer form now known (cause.outcome form)
  | granted {subject : String} {afterReset : Bool}
      (accepted : ∀ cause, ¬ Refused issuer form now known cause)
      (asked : form.action = some (actionFor afterReset)) :
      Ruled issuer form now known (.granted subject afterReset)
  /-- A new password has to be chosen, or another one. -/
  | reset {name ticket : String} {error : Option String}
      (accepted : ∀ cause, ¬ Refused issuer form now known cause) :
      Ruled issuer form now known (.reset name ticket error)
  /-- Nothing is asked for, or the directory fails. -/
  | prompt {error : Option String}
      (accepted : ∀ cause, ¬ Refused issuer form now known cause) :
      Ruled issuer form now known (.prompt error)

/-- A form that is refused for a cause ends as the cause says. -/
theorem Ruled.eq_of_refused {outcome : Outcome} (ruled : Ruled issuer form now known outcome)
    (refused : Refused issuer form now known cause) : outcome = cause.outcome form := by
  cases ruled with
  | refused other => exact other.outcome_unique refused
  | granted accepted _ | reset accepted | prompt accepted => exact absurd refused (accepted cause)

/-- A grant is for the action of the form. -/
theorem Ruled.action_of_granted {subject : String} {afterReset : Bool}
    (ruled : Ruled issuer form now known (.granted subject afterReset)) :
    form.action = some (actionFor afterReset) := by
  generalize isOutcome : Outcome.granted subject afterReset = outcome at ruled
  cases ruled with
  | @refused cause => cases cause <;> cases isOutcome
  | granted _ asked =>
      cases isOutcome
      exact asked
  | reset | prompt => cases isOutcome

/-- What is known about a name decides about signing in. -/
theorem ruled_verdict (isLogin : form.action = some "login") :
    Ruled issuer form now known
      (settle form (verdict issuer form now id (.ok (known (Text.trim form.username))))) := by
  cases found : known (Text.trim form.username) with
  | none =>
      have refused : Refused issuer form now known .name := .login isLogin (.unknown found)
      exact .refused refused
  | some principal =>
      cases enabled : principal.enabled with
      | false =>
          have refused : Refused issuer form now known .disabled :=
            .login isLogin (.disabled found enabled)
          rw [verdict, enabled]
          exact .refused refused
      | true =>
          by_cases matched : principal.credential = form.password
          · have accepted : ∀ cause, ¬ Refused issuer form now known cause := by
              rintro cause (⟨_, unfit⟩ | ⟨isReset, _⟩ | ⟨isReset, _, _⟩)
              · rcases unfit with nobody | ⟨foundAgain, disabled⟩ | ⟨foundAgain, apart⟩
                · cases found.symm.trans nobody
                · cases found.symm.trans foundAgain
                  cases enabled.symm.trans disabled
                · cases found.symm.trans foundAgain
                  exact apart matched
              · exact absurd isReset (not_isReset isLogin)
              · exact absurd isReset (not_isReset isLogin)
            have matches' : principal.credentialMatches form.password = true :=
              decide_eq_true matched
            rw [verdict, enabled, matches', if_neg (by decide)]
            split
            · exact .reset accepted
            · exact .granted accepted isLogin
          · have refused : Refused issuer form now known .password :=
              .login isLogin (.password found matched)
            have mismatch : principal.credentialMatches form.password = false :=
              decide_eq_false matched
            rw [verdict, enabled, mismatch]
            exact .refused refused

section

variable {σ : Type} {reply : σ → (call : StoreCall) → call.Answer → σ → Prop} {state after : σ}
  {result : Except Refusal Outcome} {outcome : Outcome}

/-- Whoever looks up a name first is told what is known about it. -/
def Told (reply : σ → (call : StoreCall) → call.Answer → σ → Prop) (state : σ)
    (known : String → Option Principal) : Prop :=
  ∀ name result after, (lookupPrincipal name).Ends reply state result after →
    result = .ok (known name)

/-- A lookup that succeeds as told is gone on with. -/
theorem Told.andThen (told : Told reply state known) {name : String}
    {next : Option Principal → Step}
    (ended : (andThen (lookupPrincipal name) next).Ends reply state result after) :
    ∃ middle, (next (known name)).Ends reply middle result after := by
  rcases ends_andThen.1 ended with ⟨_, looked, _⟩ | ⟨found, middle, looked, ended⟩
  · cases told _ _ _ looked
  · cases told _ _ _ looked
    exact ⟨middle, ended⟩

/-- Signing in ends with the verdict on what is known about the name. -/
theorem Told.signIn (told : Told reply state known)
    (ended : (signIn issuer form now id).Ends reply state result after) :
    result = verdict issuer form now id (.ok (known (Text.trim form.username))) := by
  obtain ⟨middle, ended⟩ := told.andThen ended
  cases found : known (Text.trim form.username) with
  | none =>
      rw [found] at ended
      exact (Dialogue.ends_done.1 ended).1
  | some principal =>
      rw [found] at ended
      dsimp only [verdict] at ended ⊢
      split at ended
      · rw [if_pos ‹_›]
        exact (Dialogue.ends_done.1 ended).1
      rw [if_neg ‹_›]
      split at ended
      · rw [if_pos ‹_›]
        exact (Dialogue.ends_done.1 ended).1
      · rw [if_neg ‹_›]
        exact (Dialogue.ends_done.1 ended).1

/-- The ticket and what is known about the one whom it is for decide about a new password. -/
theorem Told.resetPassword (told : Told reply state known)
    (isReset : form.action = some "reset_password")
    (ended : (resetPassword issuer form now).Ends reply state result after) :
    Ruled issuer form now known (settle form result) := by
  unfold Exchange.resetPassword at ended
  dsimp only at ended
  cases validated : Token.validate issuer (form.ticket.getD "") .passwordReset now with
  | error cause =>
      rw [validated] at ended
      obtain ⟨rfl, _⟩ := Dialogue.ends_done.1 ended
      have refused : Refused issuer form now known (.ticket cause) := .ticket isReset validated
      exact .refused refused
  | ok claims =>
      rw [validated] at ended
      dsimp only at ended
      have barred {cause : Cause} (barred : Barred form now known claims.subject cause) :
          Refused issuer form now known cause := .reset isReset validated barred
      by_cases own : Text.trim form.username ≠ "" ∧ Text.trim form.username ≠ claims.subject
      · rw [if_pos (by simpa using own)] at ended
        obtain ⟨rfl, _⟩ := Dialogue.ends_done.1 ended
        exact .refused (barred (.other own.1 own.2))
      rw [if_neg (by simpa using own)] at ended
      obtain ⟨middle, ended⟩ := told.andThen ended
      cases found : known claims.subject with
      | none =>
          rw [found] at ended
          obtain ⟨rfl, _⟩ := Dialogue.ends_done.1 ended
          exact .refused (barred (.unknown found))
      | some principal =>
          rw [found] at ended
          dsimp only at ended
          split at ended
          · rename_i closed
            obtain ⟨rfl, _⟩ := Dialogue.ends_done.1 ended
            simp only [Bool.or_eq_true, Bool.not_eq_true'] at closed
            rcases closed with disabled | closed
            · exact .refused (barred (.disabled found disabled))
            · exact .refused (barred (.window found closed))
          rename_i admitted
          simp only [Bool.or_eq_true, Bool.not_eq_true', not_or] at admitted
          have accepted : ∀ cause, ¬ Refused issuer form now known cause := by
            rintro cause (⟨isLogin, _⟩ | ⟨_, refused⟩ | ⟨_, again, barred⟩)
            · exact absurd isReset (not_isReset isLogin)
            · cases validated.symm.trans refused
            cases validated.symm.trans again
            rcases barred with ⟨named, apart⟩ | nobody | ⟨foundAgain, disabled⟩ |
              ⟨foundAgain, closed⟩
            · exact own ⟨named, apart⟩
            · cases found.symm.trans nobody
            · cases found.symm.trans foundAgain
              exact admitted.1 disabled
            · cases found.symm.trans foundAgain
              exact admitted.2 closed
          split at ended
          · obtain ⟨rfl, _⟩ := Dialogue.ends_done.1 ended
            exact .reset accepted
          rcases ends_andThen.1 ended with ⟨_, _, rfl⟩ | ⟨_, _, _, ended⟩
          · exact .prompt accepted
          · obtain ⟨rfl, _⟩ := Dialogue.ends_done.1 ended
            exact .granted accepted isReset

/-- A step that is told what the directory has ends as a refusal exactly if there is a cause. -/
theorem Told.ruled (told : Told reply state known)
    (ended : (run issuer form now id).Ends reply state outcome after) :
    Ruled issuer form now known outcome := by
  rcases ends_run ended with
    ⟨isLogin, result, begun, rfl⟩ | ⟨isReset, result, begun, rfl⟩ |
      ⟨rfl, _, noLogin, noReset⟩
  · rw [told.signIn begun]
    exact ruled_verdict isLogin
  · exact told.resetPassword isReset begun
  · refine .prompt ?_
    rintro cause (⟨isLogin, _⟩ | ⟨isReset, _⟩ | ⟨isReset, _, _⟩)
    · exact noLogin isLogin
    · exact noReset isReset
    · exact noReset isReset

end

end Gatehouse.Access.Exchange
