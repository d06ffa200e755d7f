import Gatehouse.Proofs.Firewall.Iptables.Run
import Gatehouse.Proofs.Firewall.Nftables.Presence
import Gatehouse.Proofs.Firewall.PartialBatches
/-!
# Backends that have been closed

A backend that drives the kernel refuses to allow and to revoke rules once it has been closed, and
closing it again changes nothing.  Only a flush still has an effect, and it has the same one as
before.  However a closed backend is used, it therefore gives the commands, and ends with the rules,
of an open one that is just flushed as often.
-/

namespace Gatehouse.Firewall

open Dialogue Transcript

namespace Nftables

/-- The request is to remove all rules. -/
def Request.isFlush : Request → Bool
  | .flush => true
  | _ => false

variable {session : Nftables}

theorem allowAll_of_closed (isClosed : session.closed = true) (rules : List Rule) :
    session.allowAll rules = .done (session, .error closedError) :=
  if_pos isClosed

theorem revoke_of_closed (isClosed : session.closed = true) (rule : Rule) :
    session.revoke rule = .done (session, .error closedError) :=
  if_pos isClosed

/-- The port is looked at before the session, so there are two errors. -/
theorem allow_of_closed (isClosed : session.closed = true) (rule : Rule) :
    ∃ error, session.allow rule = .done (session, .error error) := by
  unfold allow
  cases rule.validated with
  | error error => exact ⟨error, rfl⟩
  | ok rule => exact ⟨closedError, allowAll_of_closed isClosed [rule]⟩

/-- Closing a session and flushing it can be done in either order. -/
theorem flush_close (session : Nftables) :
    session.close.flush = session.flush.bind fun outcome =>
      .done (outcome.1.close, outcome.2) := by
  have sameTable : session.close.tablePresent = session.tablePresent := rfl
  rw [flush, flush, sameTable]
  cases session.tablePresent with
  | true =>
      rw [if_pos rfl, if_pos rfl, bind_bind]
      refine congrArg _ (funext fun result => ?_)
      cases result <;> rfl
  | false => rfl

end Nftables

namespace Iptables

variable {session : Iptables}

theorem guarded_of_closed (isClosed : session.closed = true) (rule : Rule)
    (next : Rule → Talk (Outcome Iptables)) :
    session.guarded rule next = .done (session, .error closedError) :=
  if_pos isClosed

theorem deleteAll_close (session : Iptables) (result : Except Error Unit) (rules : List Rule) :
    session.close.deleteAll result rules = (session.deleteAll result rules).bind fun outcome =>
      .done (outcome.1.close, outcome.2) := by
  induction rules generalizing session result with
  | nil => rfl
  | cons rule rest ih =>
      rw [deleteAll, deleteAll, bind_bind]
      refine congrArg _ (funext fun reply => ?_)
      cases accepted reply with
      | ok _ => exact ih (session.disown rule) result
      | error error => exact ih session (.error error)

/-- Closing a session and flushing it can be done in either order. -/
theorem flush_close (session : Iptables) :
    session.close.flush = session.flush.bind fun outcome => .done (outcome.1.close, outcome.2) :=
  session.deleteAll_close (.ok ()) session.rules

end Iptables

namespace Backend

open Nftables (Request)
open Iptables (perform command)

variable {backend : Backend}

/-! ## Closed backends -/

/-- The backend drives the kernel and has been closed. -/
inductive Closed : Backend → Prop where
  | nftables {session : Nftables} (closed : session.closed = true) : Closed (.nftables session)
  | iptables {session : Iptables} (closed : session.closed = true) : Closed (.iptables session)

/-- The backend as it is while it is open. -/
def reopened : Backend → Backend
  | .nftables session => .nftables { session with closed := false }
  | .iptables session => .iptables { session with closed := false }
  | other => other

theorem closed_close (kernel : backend.enforces = true) : backend.close.Closed := by
  cases backend with
  | nftables _ => exact .nftables rfl
  | iptables _ => exact .iptables rfl
  | softwareNat _ => cases kernel
  | null => cases kernel

theorem rules_close (backend : Backend) : backend.close.rules = backend.rules := by
  cases backend <;> rfl

theorem close_reopened (backend : Backend) : backend.reopened.close = backend.close := by
  cases backend <;> rfl

theorem enforces_reopened (backend : Backend) : backend.reopened.enforces = backend.enforces := by
  cases backend <;> rfl

theorem Closed.enforces (closed : backend.Closed) : backend.enforces = true := by
  cases closed <;> rfl

theorem Closed.close_eq (closed : backend.Closed) : backend.close = backend := by
  cases closed with
  | @nftables session closed =>
      obtain ⟨handles, tablePresent, _⟩ := session
      obtain rfl : _ = true := closed
      rfl
  | @iptables session closed =>
      obtain ⟨owned, _⟩ := session
      obtain rfl : _ = true := closed
      rfl

/-! ## One request -/

/-- Whatever the replies would be, a request ends with an error before any command is given, and
changes nothing. -/
def Refuses (backend : Backend) (request : Request) : Prop :=
  ∃ error, perform request backend = .done (backend, .error error)

theorem Refuses.idle {request : Request} (refuses : backend.Refuses request) :
    ∃ result, perform request backend = .done (backend, result) := by
  obtain ⟨error, same⟩ := refuses
  exact ⟨.error error, same⟩

theorem Closed.refuses_allow (closed : backend.Closed) (rule : Rule) :
    backend.Refuses (.allow rule) := by
  cases closed with
  | nftables closed =>
      obtain ⟨error, refused⟩ := Nftables.allow_of_closed closed rule
      exact ⟨error, congrArg (lift .nftables) refused⟩
  | iptables closed =>
      exact ⟨_, congrArg (lift .iptables) (Iptables.guarded_of_closed closed rule _)⟩

theorem Closed.refuses_revoke (closed : backend.Closed) (rule : Rule) :
    backend.Refuses (.revoke rule) := by
  cases closed with
  | nftables closed =>
      exact ⟨_, congrArg (lift .nftables) (Nftables.revoke_of_closed closed rule)⟩
  | iptables closed =>
      exact ⟨_, congrArg (lift .iptables) (Iptables.guarded_of_closed closed rule _)⟩

/-- A batch that is applied rule by rule is refused with its first rule. -/
theorem Closed.refuses_allowAll (closed : backend.Closed) {rules : List Rule}
    (nonempty : rules ≠ []) : backend.Refuses (.allowAll rules) := by
  cases closed with
  | nftables closed =>
      exact ⟨_, congrArg (lift .nftables) (Nftables.allowAll_of_closed closed rules)⟩
  | @iptables session closed =>
      cases rules with
      | nil => exact absurd rfl nonempty
      | cons rule rest =>
          obtain ⟨error, refused⟩ := (Closed.iptables closed).refuses_allow rule
          have first : (Backend.iptables session).allow rule = _ := refused
          refine ⟨error, ?_⟩
          change (Backend.iptables session).allowEach [] (rule :: rest) = _
          rw [allowEach, first]
          rfl

/-- Only one of the two facilities looks at the session before the batch. -/
theorem Closed.allowAll_nil (closed : backend.Closed) :
    ∃ result, perform (.allowAll []) backend = .done (backend, result) := by
  cases closed with
  | nftables closed =>
      exact ⟨_, congrArg (lift .nftables) (Nftables.allowAll_of_closed closed [])⟩
  | iptables _ => exact ⟨.ok (), rfl⟩

/-- A session that is closed in the end is a backend that is closed in the end. -/
theorem lift_close {σ : Type} (wrap : σ → Backend) (shut : σ → σ)
    (closes : ∀ session, wrap (shut session) = (wrap session).close) (talk : Talk (Outcome σ)) :
    lift wrap (talk.bind fun outcome => .done (shut outcome.1, outcome.2)) =
      (lift wrap talk).bind fun outcome => .done (outcome.1.close, outcome.2) := by
  simp only [lift, bind_bind, bind_done, closes]

/-- Closing a backend and flushing it can be done in either order. -/
theorem flush_close (backend : Backend) :
    backend.close.flush = backend.flush.bind fun outcome => .done (outcome.1.close, outcome.2) := by
  cases backend with
  | nftables session =>
      have inSession := congrArg (lift .nftables) session.flush_close
      exact inSession.trans (lift_close .nftables Nftables.close (fun _ => rfl) session.flush)
  | iptables session =>
      have inSession := congrArg (lift .iptables) session.flush_close
      exact inSession.trans (lift_close .iptables Iptables.close (fun _ => rfl) session.flush)
  | softwareNat _ => rfl
  | null => rfl

theorem Closed.flush_eq (closed : backend.Closed) :
    backend.flush = backend.reopened.flush.bind fun outcome =>
      .done (outcome.1.close, outcome.2) := by
  rw [← flush_close, close_reopened, closed.close_eq]

/-- A flush leaves the facility in use. -/
theorem yields_flush (backend : Backend) :
    backend.flush.Yields fun outcome => outcome.1.enforces = backend.enforces := by
  cases backend with
  | nftables _ => exact yields_bind fun _ => .done rfl
  | iptables _ => exact yields_bind fun _ => .done rfl
  | softwareNat _ => exact .done rfl
  | null => exact .done rfl

/-- Nothing but a flush has an effect. -/
structure OnlyFlushes (backend : Backend) : Prop where
  allow : ∀ rule, backend.Refuses (.allow rule)
  allowAll : ∀ rules, rules ≠ [] → backend.Refuses (.allowAll rules)
  /-- A batch of no rules may succeed, for it has no effect either. -/
  allowNone : ∃ result, perform (.allowAll []) backend = .done (backend, result)
  revoke : ∀ rule, backend.Refuses (.revoke rule)
  close : perform .close backend = .done (backend, .ok ())
  /-- The commands, what they lead to and the result are those of an open backend. -/
  flush : perform .flush backend = (perform .flush backend.reopened).bind fun outcome =>
    .done (outcome.1.close, outcome.2)

theorem Closed.onlyFlushes (closed : backend.Closed) : backend.OnlyFlushes where
  allow := closed.refuses_allow
  allowAll _ := closed.refuses_allowAll
  allowNone := closed.allowAll_nil
  revoke := closed.refuses_revoke
  close := by rw [perform, closed.close_eq]
  flush := closed.flush_eq

/-- What is no flush ends at once and changes nothing. -/
theorem OnlyFlushes.idle (only : backend.OnlyFlushes) {request : Request}
    (noFlush : request.isFlush = false) :
    ∃ result, perform request backend = .done (backend, result) := by
  cases request with
  | allow rule => exact (only.allow rule).idle
  | allowAll rules =>
      cases rules with
      | nil => exact only.allowNone
      | cons rule rest => exact (only.allowAll _ (List.cons_ne_nil rule rest)).idle
  | revoke rule => exact (only.revoke rule).idle
  | flush => cases noFlush
  | close => exact ⟨.ok (), only.close⟩

/-- A backend that has been closed stays so, whatever is asked of it. -/
theorem Closed.yields_perform (closed : backend.Closed) (request : Request) :
    (perform request backend).Yields fun outcome => outcome.1.Closed := by
  cases isFlush : request.isFlush with
  | false =>
      obtain ⟨result, same⟩ := closed.onlyFlushes.idle isFlush
      rw [same]
      exact .done closed
  | true =>
      cases request with
      | flush =>
          have kernel : backend.reopened.enforces = true :=
            backend.enforces_reopened.trans closed.enforces
          rw [closed.onlyFlushes.flush]
          exact backend.reopened.yields_flush.bind fun _ same =>
            .done (closed_close (same.trans kernel))
      | _ => cases isFlush

/-! ## Any number of requests -/

/-- Make requests one after the other, whatever the result of each is. -/
def performAll : List Request → Backend → Talk Backend
  | [], backend => .done backend
  | request :: rest, backend =>
      (perform request backend).bind fun outcome => performAll rest outcome.1

theorem Closed.yields_performAll (closed : backend.Closed) (requests : List Request) :
    (performAll requests backend).Yields Closed := by
  induction requests generalizing backend with
  | nil => exact .done closed
  | cons request rest ih => exact (closed.yields_perform request).bind fun _ stays => ih stays

/-- Of the requests to a closed backend only the flushes count. -/
theorem performAll_close (kernel : backend.enforces = true) (requests : List Request) :
    performAll requests backend.close =
      (performAll (requests.filter Request.isFlush) backend).bind fun last =>
        .done last.close := by
  induction requests generalizing backend with
  | nil => rfl
  | cons request rest ih =>
      cases isFlush : request.isFlush with
      | false =>
          obtain ⟨result, same⟩ := (closed_close kernel).onlyFlushes.idle isFlush
          rw [performAll, same, bind_done, List.filter_cons_of_neg (by simp [isFlush])]
          exact ih kernel
      | true =>
          cases request with
          | flush =>
              -- Both sides begin with the flush of the open backend, and go on from what it leaves.
              rw [List.filter_cons_of_pos isFlush, performAll, performAll, bind_bind, perform,
                flush_close, bind_bind]
              exact backend.yields_flush.bind_congr fun _ same => ih (same.trans kernel)
          | _ => cases isFlush

/-- Once a backend that drives the kernel has been closed, whatever is asked of it and whatever the
replies are, it refuses at once to allow and to revoke rules, and closing it again succeeds and
changes nothing.  A flush does just what it would do if the backend were open.  So all that is asked
of it leads to the same commands and the same rules as if it were open and only the flushes were
asked for. -/
theorem only_flush_acts_after_close (kernel : backend.enforces = true) (requests : List Request) :
    (∀ other : Backend, other.close.rules = other.rules) ∧
    (performAll (.close :: requests) backend).Yields OnlyFlushes ∧
    performAll (.close :: requests) backend =
      (performAll (requests.filter Request.isFlush) backend.reopened).bind fun last =>
        .done last.close := by
  have closes : performAll (.close :: requests) backend = performAll requests backend.close := rfl
  rw [closes]
  refine ⟨rules_close, ?_, ?_⟩
  · exact ((closed_close kernel).yields_performAll requests).mono fun _ closed => closed.onlyFlushes
  · rw [← close_reopened]
    exact performAll_close (backend.enforces_reopened.trans kernel) requests

/-! ### Sessions that are flushed after they have been closed -/

open Nftables (web names deleted)

/-- A flush with iptables deletes the line of the rule that is owned. -/
theorem ends_performAll_web :
    (performAll [.flush] (iptables (idle.own web)).reopened).Ends Grows [] (iptables idle)
      [(command "-D" web, .ok .silent)] := by
  have flushed : (iptables (idle.own web)).flush.Ends Grows [] (iptables idle, .ok ())
      [(command "-D" web, .ok .silent)] :=
    ends_bind.2 ⟨_, _, ends_ask_grows.2 ⟨.ok .silent, .done _ _⟩, .done _ _⟩
  exact ends_bind.2 ⟨_, _, flushed, .done _ _⟩

/-- A flush with nftables deletes the table. -/
theorem ends_performAll_opened :
    (performAll [.flush] (nftables Nftables.opened).reopened).Ends Grows []
      (nftables Nftables.fresh) [deleted] :=
  ends_bind.2 ⟨_, _, ends_bind.2 ⟨_, _, Nftables.ends_flush_opened, .done _ _⟩, .done _ _⟩

/-- Among other requests to closed sessions, a flush is all that the programs hear of, and the
sessions go on refusing rules. -/
theorem only_flush_acts_after_close_web :
    (iptables (idle.own web)).enforces = true ∧
    (performAll [.close, .allow names, .flush, .revoke web] (iptables (idle.own web))).Ends Grows []
      (iptables idle.close) [(command "-D" web, .ok .silent)] ∧
    (iptables idle.close).Refuses (.allowAll [web, names]) ∧
    (nftables Nftables.opened).enforces = true ∧
    (performAll [.close, .allowAll [web], .close, .flush] (nftables Nftables.opened)).Ends Grows []
      (nftables Nftables.fresh.close) [deleted] ∧
    (nftables Nftables.fresh.close).Refuses (.allowAll [web, names]) := by
  have kernel : (iptables (idle.own web)).enforces = true := rfl
  have alsoKernel : (nftables Nftables.opened).enforces = true := rfl
  obtain ⟨_, refusing, same⟩ :=
    only_flush_acts_after_close kernel [.allow names, .flush, .revoke web]
  obtain ⟨_, alsoRefusing, alsoSame⟩ :=
    only_flush_acts_after_close alsoKernel [.allowAll [web], .close, .flush]
  have ended : (performAll [.close, .allow names, .flush, .revoke web]
      (iptables (idle.own web))).Ends Grows [] (iptables idle.close)
      [(command "-D" web, .ok .silent)] := by
    rw [same]
    exact ends_bind.2 ⟨_, _, ends_performAll_web, .done _ _⟩
  have alsoEnded : (performAll [.close, .allowAll [web], .close, .flush]
      (nftables Nftables.opened)).Ends Grows [] (nftables Nftables.fresh.close) [deleted] := by
    rw [alsoSame]
    exact ends_bind.2 ⟨_, _, ends_performAll_opened, .done _ _⟩
  have nonempty : [web, names] ≠ [] := List.cons_ne_nil _ _
  exact ⟨kernel, ended, (refusing.of_ends ended).allowAll _ nonempty, alsoKernel, alsoEnded,
    (alsoRefusing.of_ends alsoEnded).allowAll _ nonempty⟩

end Backend

end Gatehouse.Firewall
