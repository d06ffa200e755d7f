import Gatehouse.Proofs.Firewall.Iptables.Session
import Gatehouse.Proofs.Firewall.Nftables.Refinement
/-!
# Runs against the chain

A run starts from any chain.  Backends are started, used and closed in any order, they take the same
requests as with nftables, and any command may be refused.  What every single change keeps holds all
along a run.
-/

namespace Gatehouse.Firewall.Iptables

open Nftables (Request Action)

/-- Do something with a backend. -/
def perform : Request → Backend → Talk (Outcome Backend)
  | .allow rule, backend => backend.allow rule
  | .allowAll rules, backend => backend.allowAll rules
  | .revoke rule, backend => backend.revoke rule
  | .flush, backend => backend.flush
  | .close, backend => .done (backend.close, .ok ())

/-- The backend in use, if there is one, and the chain. -/
structure State where
  backend : Option Backend
  chain : Chain

/-- What may come of an action. -/
inductive Step : Action → State → State → Prop where
  | start {state : State} {result : Except Error Iptables} {after : Chain}
      (ended : Iptables.start.Ends Chain.MayReply state.chain result after) :
      Step .start state ⟨result.toOption.map .iptables, after⟩
  | perform {request : Request} {backend : Backend} {chain after : Chain}
      {outcome : Outcome Backend}
      (ended : (perform request backend).Ends Chain.MayReply chain outcome after) :
      Step (.perform request) ⟨some backend, chain⟩ ⟨some outcome.1, after⟩

/-- A run from a chain leads to a state. -/
inductive Reaches (initial : Chain) : State → Prop where
  | start : Reaches initial ⟨none, initial⟩
  | step {state after : State} {action : Action} (reached : Reaches initial state)
      (step : Step action state after) : Reaches initial after

variable {session : Iptables} {chain after initial : Chain} {rule other : Rule} {state : State}

/-- A session can be started on every chain. -/
theorem reaches_adopted (chain : Chain) :
    Reaches chain ⟨some (.iptables (adopted chain)), chain⟩ := by
  have started : Step .start ⟨none, chain⟩
      ⟨(Except.ok (adopted chain)).toOption.map .iptables, chain⟩ :=
    .start (ends_start_served chain)
  exact .step .start started

/-! ## What holds all along a run -/

/-- The session owns rules that may take effect. -/
def Proper (session : Iptables) : Prop := ∀ rule ∈ session.rules, rule.port ≠ 0

theorem proper_adopted (chain : Chain) : (adopted chain).Proper :=
  fun _ owned => port_ne_zero_of_mem_rulesOfListing (mem_rules_adopted.1 owned)

theorem Change.proper {before later : Iptables × Chain} (change : Change before later)
    (proper : before.1.Proper) : later.1.Proper := by
  intro other owned
  cases change with
  | enter valid =>
      rcases mem_rules_own.1 owned with rfl | owned
      · exact valid
      · exact proper other owned
  | dismiss valid => exact proper other (mem_rules_disown.1 owned).2
  | close => exact proper other owned

/-- Each request makes changes to the session behind the backend and to the chain. -/
theorem ends_perform {request : Request} {outcome : Outcome Backend} (proper : session.Proper)
    (ended : (perform request (.iptables session)).Ends Chain.MayReply chain outcome after) :
    ∃ last, outcome.1 = .iptables last ∧ Changes (session, chain) (last, after) := by
  cases request with
  | allow rule =>
      obtain ⟨inner, ofSession, rfl⟩ := ends_lift ended
      rcases ends_allow ofSession with failed | ⟨valid, rfl, rfl⟩
      · exact ⟨inner.1, rfl, failed.changes⟩
      · exact ⟨session.own rule, rfl, .single (.enter valid)⟩
  | allowAll rules => exact ends_allowEach ended
  | revoke rule =>
      obtain ⟨inner, ofSession, rfl⟩ := ends_lift ended
      rcases ends_revoke ofSession with failed | ⟨valid, rfl, rfl⟩
      · exact ⟨inner.1, rfl, failed.changes⟩
      · exact ⟨session.disown rule, rfl, .single (.dismiss valid)⟩
  | flush =>
      obtain ⟨inner, ofSession, rfl⟩ := ends_lift ended
      exact ⟨inner.1, rfl, (ends_flush proper ofSession).1⟩
  | close =>
      obtain ⟨rfl, rfl⟩ := Dialogue.ends_done.1 ended
      exact ⟨session.close, rfl, .single .close⟩

/-- A property of the chain and one of session and chain that are kept together: a new session has
the one because of the other, and every change keeps it. -/
structure Kept (OfChain : Chain → Prop) (Holds : Iptables × Chain → Prop) : Prop where
  adopted : ∀ chain, OfChain chain → Holds (adopted chain, chain)
  chain : ∀ pair, Holds pair → OfChain pair.2
  change : ∀ pair after, pair.1.Proper → Change pair after → Holds pair → Holds after

variable {OfChain : Chain → Prop} {Holds : Iptables × Chain → Prop}

theorem Kept.changes (kept : Kept OfChain Holds) {before later : Iptables × Chain}
    (changes : Changes before later) (proper : before.1.Proper) (holds : Holds before) :
    later.1.Proper ∧ Holds later := by
  induction changes with
  | refl => exact ⟨proper, holds⟩
  | tail _ change ih => exact ⟨change.proper ih.1, kept.change _ _ ih.1 change ih.2⟩

/-- What is kept holds all along a run. -/
theorem Kept.reaches (kept : Kept OfChain Holds) (initially : OfChain initial)
    (reached : Reaches initial state) :
    OfChain state.chain ∧ ∀ backend, state.backend = some backend →
      ∃ session, backend = .iptables session ∧ session.Proper ∧ Holds (session, state.chain) := by
  induction reached with
  | start => exact ⟨initially, nofun⟩
  | step _ step ih =>
      obtain ⟨ofChain, inUse⟩ := ih
      cases step with
      | start ended =>
          obtain ⟨rfl, rfl | ⟨error, rfl⟩⟩ := ends_start ended
          · refine ⟨ofChain, ?_⟩
            rintro _ ⟨⟩
            exact ⟨_, rfl, proper_adopted _, kept.adopted _ ofChain⟩
          · exact ⟨ofChain, nofun⟩
      | perform ended =>
          obtain ⟨session, rfl, proper, holds⟩ := inUse _ rfl
          obtain ⟨last, isLast, changes⟩ := ends_perform proper ended
          obtain ⟨properLast, holdsLast⟩ := kept.changes changes proper holds
          refine ⟨kept.chain _ holdsLast, ?_⟩
          rintro _ ⟨⟩
          exact ⟨last, isLast, properLast, holdsLast⟩

/-- The backend in use is a session with iptables that owns rules that may take effect. -/
theorem Reaches.proper {backend : Backend} (reached : Reaches initial ⟨some backend, chain⟩) :
    ∃ session, backend = .iptables session ∧ session.Proper := by
  have nothing : Kept (fun _ => True) fun _ => True := by
    constructor <;> intros <;> trivial
  obtain ⟨session, isSession, proper, _⟩ := (nothing.reaches trivial reached).2 backend rfl
  exact ⟨session, isSession, proper⟩

end Gatehouse.Firewall.Iptables
