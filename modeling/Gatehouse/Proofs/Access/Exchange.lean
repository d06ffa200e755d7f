import Gatehouse.Access.Exchange
import Gatehouse.Proofs.Directory.Effects
import Gatehouse.Proofs.Directory.Names
/-!
# How a step of the exchange may end

A step ends with a grant or with a new ticket only in front of a record that the credentials of the
form belong to, or in front of a ticket that is accepted.  It leaves the store as it is, unless it
sets a new password.  The laws hold for a store any of whose calls may fail.
-/

namespace Gatehouse.Access.Exchange

open Directory (Op userKey lookupPrincipal KeepsNames)

variable {issuer : Issuer} {form : Form} {now : Instant} {id : Uuid} {store after : Store}

/-- A step that goes on with the result of an operation ends with its error or goes on. -/
theorem ends_andThen {σ α : Type} {reply : σ → (call : StoreCall) → call.Answer → σ → Prop}
    {state last : σ} {op : Op α} {next : α → Step} {result : Except Refusal Outcome} :
    (andThen op next).Ends reply state result last ↔
      (∃ cause, op.Ends reply state (.error cause) last ∧ result = .error (.directory cause)) ∨
        ∃ value middle, op.Ends reply state (.ok value) middle ∧
          (next value).Ends reply middle result last := by
  rw [andThen, Dialogue.ends_bind]
  constructor
  · rintro ⟨found, middle, first, second⟩
    cases found with
    | error cause =>
        cases second
        exact .inl ⟨cause, first, rfl⟩
    | ok value => exact .inr ⟨value, middle, first, second⟩
  · rintro (⟨cause, first, rfl⟩ | ⟨value, middle, first, second⟩)
    · exact ⟨.error cause, last, first, .done _ _⟩
    · exact ⟨.ok value, middle, first, second⟩

/-- The store holds an enabled principal under the name in a form, with the password in the form. -/
structure Presents (store : Store) (form : Form) (principal : Principal) : Prop where
  held : store.Holds (userKey (Text.trim form.username)) principal
  enabled : principal.enabled = true
  credential : principal.credential = form.password

/-- Signing in changes nothing.  It succeeds in front of the record that the credentials belong to:
with a ticket when a reset is pending, and with a grant otherwise. -/
theorem ends_signIn {result : Except Refusal Outcome}
    (ended : (signIn issuer form now id).Ends Store.MayReply store result after) :
    after = store ∧ ∀ outcome, result = .ok outcome →
      ∃ principal, Presents store form principal ∧
        outcome = if principal.resetPending now then
            .reset principal.name (issuer.issueTicket principal.name now id) none
          else .granted principal.name false := by
  rcases ends_andThen.1 ended with ⟨_, looked, rfl⟩ | ⟨found, middle, looked, ended⟩
  · exact ⟨Directory.eq_of_ends_read looked, nofun⟩
  obtain rfl := Directory.eq_of_ends_read looked
  cases found with
  | none =>
      obtain ⟨rfl, rfl⟩ := Dialogue.ends_done.1 ended
      exact ⟨rfl, nofun⟩
  | some principal =>
      dsimp only at ended
      split at ended
      · obtain ⟨rfl, rfl⟩ := Dialogue.ends_done.1 ended
        exact ⟨rfl, nofun⟩
      · rename_i accepted
        simp only [Bool.or_eq_true, Bool.not_eq_true', not_or, Bool.not_eq_false,
          Principal.credentialMatches, decide_eq_true_eq] at accepted
        have presents : Presents middle form principal :=
          ⟨Directory.holds_of_ends_read looked, accepted.1, accepted.2⟩
        by_cases pending : principal.resetPending now = true
        · rw [if_pos pending] at ended
          obtain ⟨rfl, rfl⟩ := Dialogue.ends_done.1 ended
          refine ⟨rfl, fun outcome succeeded => ⟨principal, presents, ?_⟩⟩
          rw [if_pos pending]
          exact (Except.ok.inj succeeded).symm
        · rw [if_neg pending] at ended
          obtain ⟨rfl, rfl⟩ := Dialogue.ends_done.1 ended
          refine ⟨rfl, fun outcome succeeded => ⟨principal, presents, ?_⟩⟩
          rw [if_neg pending]
          exact (Except.ok.inj succeeded).symm

/-- A new password that is fit is set for a principal with a pending reset. -/
structure Sets (form : Form) (now : Instant) (principal : Principal) (store after : Store) :
    Prop where
  pending : principal.resetPending now = true
  fit : passwordFault form = none
  written : (Directory.setCredential principal.name form.newPassword).Ends Store.MayReply store
    (.ok ()) after

/-- Choosing a new password is refused and changes nothing, unless a ticket is accepted for a name
that belongs to a record.  Then the password is set, or the ticket is handed out again with what is
wrong. -/
theorem ends_resetPassword {result : Except Refusal Outcome}
    (ended : (resetPassword issuer form now).Ends Store.MayReply store result after) :
    ((∃ refusal, result = .error refusal) ∧ after = store) ∨
      ∃ (claims : Claims) (principal : Principal),
        Token.validate issuer (form.ticket.getD "") .passwordReset now = .ok claims ∧
        store.Holds (userKey claims.subject) principal ∧
        ((∃ fault, result = .ok (.reset principal.name (form.ticket.getD "") (some fault))) ∧
            after = store ∨
          result = .ok (.granted principal.name true) ∧ Sets form now principal store after) := by
  unfold resetPassword at ended
  dsimp only at ended
  cases validated : Token.validate issuer (form.ticket.getD "") .passwordReset now with
  | error cause =>
      rw [validated] at ended
      obtain ⟨rfl, rfl⟩ := Dialogue.ends_done.1 ended
      exact .inl ⟨⟨_, rfl⟩, rfl⟩
  | ok claims =>
      rw [validated] at ended
      dsimp only at ended
      split at ended
      · obtain ⟨rfl, rfl⟩ := Dialogue.ends_done.1 ended
        exact .inl ⟨⟨_, rfl⟩, rfl⟩
      rcases ends_andThen.1 ended with ⟨_, looked, rfl⟩ | ⟨found, middle, looked, ended⟩
      · exact .inl ⟨⟨_, rfl⟩, Directory.eq_of_ends_read looked⟩
      obtain rfl := Directory.eq_of_ends_read looked
      cases found with
      | none =>
          obtain ⟨rfl, rfl⟩ := Dialogue.ends_done.1 ended
          exact .inl ⟨⟨_, rfl⟩, rfl⟩
      | some principal =>
          have held := Directory.holds_of_ends_read looked
          dsimp only at ended
          split at ended
          · obtain ⟨rfl, rfl⟩ := Dialogue.ends_done.1 ended
            exact .inl ⟨⟨_, rfl⟩, rfl⟩
          rename_i accepted
          simp only [Bool.or_eq_true, Bool.not_eq_true', not_or, Bool.not_eq_false] at accepted
          split at ended
          · rename_i fault _
            obtain ⟨rfl, rfl⟩ := Dialogue.ends_done.1 ended
            exact .inr ⟨claims, principal, rfl, held, .inl ⟨⟨fault, rfl⟩, rfl⟩⟩
          · rename_i fit
            rcases ends_andThen.1 ended with ⟨cause, failed, rfl⟩ | ⟨_, _, written, ended⟩
            · rcases Directory.ends_setCredential failed with unchanged | ⟨_, _, impossible, _⟩
              · exact .inl ⟨⟨_, rfl⟩, unchanged.2⟩
              · cases impossible
            · obtain ⟨rfl, rfl⟩ := Dialogue.ends_done.1 ended
              exact .inr ⟨claims, principal, rfl, held, .inr ⟨rfl, accepted.2, fit, written⟩⟩

/-! ## Whole steps -/

variable {outcome : Outcome}

/-- A step is one for signing in or for choosing a new password, or it prompts. -/
theorem ends_run {σ : Type} {reply : σ → (call : StoreCall) → call.Answer → σ → Prop}
    {state last : σ} (ended : (run issuer form now id).Ends reply state outcome last) :
    (form.action = some "login" ∧ ∃ result,
      (signIn issuer form now id).Ends reply state result last ∧
        outcome = settle form result) ∨
    (form.action = some "reset_password" ∧ ∃ result,
      (resetPassword issuer form now).Ends reply state result last ∧
        outcome = settle form result) ∨
    outcome = .prompt none ∧ last = state ∧ form.action ≠ some "login" ∧
      form.action ≠ some "reset_password" := by
  unfold run at ended
  by_cases isLogin : form.action = some "login"
  · rw [if_pos isLogin] at ended
    obtain ⟨result, middle, begun, ended⟩ := Dialogue.ends_bind.1 ended
    cases ended
    exact .inl ⟨isLogin, result, begun, rfl⟩
  rw [if_neg isLogin] at ended
  by_cases isReset : form.action = some "reset_password"
  · rw [if_pos isReset] at ended
    obtain ⟨result, middle, begun, ended⟩ := Dialogue.ends_bind.1 ended
    cases ended
    exact .inr (.inl ⟨isReset, result, begun, rfl⟩)
  · rw [if_neg isReset] at ended
    obtain ⟨isPrompt, same⟩ := Dialogue.ends_done.1 ended
    exact .inr (.inr ⟨isPrompt, same, isLogin, isReset⟩)

/-- A refusal is neither a grant nor a ticket. -/
theorem eq_ok_of_settle {result : Except Refusal Outcome}
    (accepted : (∃ subject afterReset, settle form result = .granted subject afterReset) ∨
      ∃ name ticket error, settle form result = .reset name ticket error) :
    result = .ok (settle form result) := by
  cases result with
  | ok outcome => rfl
  | error refusal =>
      cases refusal <;> rcases accepted with ⟨_, _, same⟩ | ⟨_, _, _, same⟩ <;> cases same

/-- A new ticket is handed out in front of a record with a pending reset. -/
theorem ends_run_reset {name ticket : String}
    (ended : (run issuer form now id).Ends Store.MayReply store (.reset name ticket none) after) :
    form.action = some "login" ∧ ∃ principal, Presents store form principal ∧
      principal.resetPending now = true ∧
      ticket = issuer.issueTicket principal.name now id := by
  rcases ends_run ended with
    ⟨isLogin, result, begun, same⟩ | ⟨_, result, begun, same⟩ | ⟨impossible, _⟩
  · rw [eq_ok_of_settle (.inr ⟨_, _, _, same.symm⟩), ← same] at begun
    obtain ⟨principal, presents, outcome⟩ := (ends_signIn begun).2 _ rfl
    split at outcome
    · rename_i pending
      cases outcome
      exact ⟨isLogin, principal, presents, pending, rfl⟩
    · cases outcome
  · rw [eq_ok_of_settle (.inr ⟨_, _, _, same.symm⟩), ← same] at begun
    rcases ends_resetPassword begun with
      ⟨⟨_, impossible⟩, _⟩ | ⟨_, _, _, _, ⟨⟨_, impossible⟩, _⟩ | ⟨impossible, _⟩⟩ <;>
      cases impossible
  · cases impossible

/-- A grant without a reset is given in front of a record without a pending reset. -/
theorem ends_run_granted {subject : String}
    (ended : (run issuer form now id).Ends Store.MayReply store (.granted subject false) after) :
    ∃ principal, Presents store form principal ∧ principal.resetPending now = false ∧
      subject = principal.name := by
  rcases ends_run ended with
    ⟨_, result, begun, same⟩ | ⟨_, result, begun, same⟩ | ⟨impossible, _⟩
  · rw [eq_ok_of_settle (.inl ⟨_, _, same.symm⟩), ← same] at begun
    obtain ⟨principal, presents, outcome⟩ := (ends_signIn begun).2 _ rfl
    split at outcome
    · cases outcome
    · rename_i settled
      cases outcome
      exact ⟨principal, presents, Bool.eq_false_iff.2 settled, rfl⟩
  · rw [eq_ok_of_settle (.inl ⟨_, _, same.symm⟩), ← same] at begun
    rcases ends_resetPassword begun with
      ⟨⟨_, impossible⟩, _⟩ | ⟨_, _, _, _, ⟨⟨_, impossible⟩, _⟩ | ⟨impossible, _⟩⟩ <;>
      cases impossible
  · cases impossible

/-- A grant after a reset is given for a ticket that is accepted, when the password has been set. -/
theorem ends_run_granted_reset {subject : String}
    (ended : (run issuer form now id).Ends Store.MayReply store (.granted subject true) after) :
    form.action = some "reset_password" ∧ ∃ (claims : Claims) (principal : Principal),
      Token.validate issuer (form.ticket.getD "") .passwordReset now = .ok claims ∧
      store.Holds (userKey claims.subject) principal ∧ subject = principal.name ∧
      Sets form now principal store after := by
  rcases ends_run ended with
    ⟨_, result, begun, same⟩ | ⟨isReset, result, begun, same⟩ | ⟨impossible, _⟩
  · rw [eq_ok_of_settle (.inl ⟨_, _, same.symm⟩), ← same] at begun
    obtain ⟨principal, presents, outcome⟩ := (ends_signIn begun).2 _ rfl
    split at outcome <;> cases outcome
  · rw [eq_ok_of_settle (.inl ⟨_, _, same.symm⟩), ← same] at begun
    rcases ends_resetPassword begun with
      ⟨⟨_, impossible⟩, _⟩ |
        ⟨claims, principal, validated, held, ⟨⟨_, impossible⟩, _⟩ | ⟨granted, sets⟩⟩
    · cases impossible
    · cases impossible
    · cases granted
      exact ⟨isReset, claims, principal, validated, held, rfl, sets⟩
  · cases impossible

/-- Whoever presents a ticket that is accepted is granted access when the new password is set. -/
theorem ends_run_of_sets {claims : Claims} {principal : Principal}
    (isReset : form.action = some "reset_password")
    (blank : (Text.trim form.username).isEmpty = true)
    (accepted : Token.validate issuer (form.ticket.getD "") .passwordReset now = .ok claims)
    (held : store.Holds (userKey claims.subject) principal) (enabled : principal.enabled = true)
    (sets : Sets form now principal store after) :
    (run issuer form now id).Ends Store.MayReply store (.granted principal.name true) after := by
  have written : (andThen (Directory.setCredential principal.name form.newPassword) fun _ =>
      conclude (.granted principal.name true)).Ends Store.MayReply store
        (.ok (.granted principal.name true)) after :=
    ends_andThen.2 (.inr ⟨(), after, sets.written, .done _ _⟩)
  have chosen : (resetPassword issuer form now).Ends Store.MayReply store
      (.ok (.granted principal.name true)) after := by
    rw [resetPassword, accepted]
    dsimp only
    rw [blank]
    refine ends_andThen.2 (.inr ⟨some principal, store, Directory.ends_read_of_holds held, ?_⟩)
    dsimp only
    rw [enabled, sets.pending, sets.fit]
    exact written
  rw [run, isReset, if_neg (by decide), if_pos rfl]
  exact Dialogue.ends_bind.2 ⟨_, after, chosen, .done _ _⟩

/-- A step keeps keys and names of principals together. -/
theorem keepsNames_run : KeepsNames (run issuer form now id) := by
  have keepsNames_andThen {α : Type} {op : Op α} {next : α → Step} (first : KeepsNames op)
      (rest : ∀ value, KeepsNames (next value)) : KeepsNames (andThen op next) := by
    refine Dialogue.keeps_bind first ?_
    rintro (error | value)
    · exact Dialogue.keeps_done _
    · exact rest value
  unfold run
  split
  · refine Dialogue.keeps_bind (keepsNames_andThen (Directory.keepsNames_read _) ?_) fun _ =>
      Dialogue.keeps_done _
    rintro (_ | principal)
    · exact Dialogue.keeps_done _
    · dsimp only
      repeat' split
      all_goals exact Dialogue.keeps_done _
  · split
    · refine Dialogue.keeps_bind ?_ fun _ => Dialogue.keeps_done _
      unfold resetPassword
      dsimp only
      split
      · exact Dialogue.keeps_done _
      split
      · exact Dialogue.keeps_done _
      refine keepsNames_andThen (Directory.keepsNames_read _) ?_
      rintro (_ | principal)
      · exact Dialogue.keeps_done _
      dsimp only
      split
      · exact Dialogue.keeps_done _
      split
      · exact Dialogue.keeps_done _
      · exact keepsNames_andThen (Directory.keepsNames_setCredential _ _) fun _ =>
          Dialogue.keeps_done _
    · exact Dialogue.keeps_done _

end Gatehouse.Access.Exchange
