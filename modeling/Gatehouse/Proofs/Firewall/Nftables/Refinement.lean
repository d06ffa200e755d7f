import Gatehouse.Proofs.Firewall.Nftables.Session
/-!
# The backend refines the kernel

A run starts from any ruleset in which no two rules allow the same.  Sessions are started, used and
closed in any order, and any command may be refused.  All along, what a session holds is what the
kernel has, and a session that is started anew holds the same.
-/

namespace Gatehouse.Firewall.Nftables

/-- What can be done with a session. -/
inductive Request where
  | allow (rule : Rule)
  | allowAll (rules : List Rule)
  | revoke (rule : Rule)
  | flush
  | close

/-- Do something with a session. -/
def Request.perform : Request → Nftables → Talk (Outcome Nftables)
  | .allow rule, session => session.allow rule
  | .allowAll rules, session => session.allowAll rules
  | .revoke rule, session => session.revoke rule
  | .flush, session => session.flush
  | .close, session => .done (session.close, .ok ())

/-- A step of a run. -/
inductive Action where
  /-- A session is started, in place of the one before. -/
  | start
  | perform (request : Request)

/-- The session in use, if there is one, and what the kernel has. -/
structure State where
  session : Option Nftables
  ruleset : Ruleset

/-- What may come of an action. -/
inductive Step : Action → State → State → Prop where
  | start {state : State} {result : Except Error Nftables} {after : Ruleset}
      (ended : Nftables.start.Ends Ruleset.MayReply state.ruleset result after) :
      Step .start state ⟨result.toOption, after⟩
  | perform {request : Request} {session : Nftables} {ruleset after : Ruleset}
      {outcome : Outcome Nftables}
      (ended : (request.perform session).Ends Ruleset.MayReply ruleset outcome after) :
      Step (.perform request) ⟨some session, ruleset⟩ ⟨some outcome.1, after⟩

/-- A run from a ruleset leads to a state. -/
inductive Reaches (initial : Ruleset) : State → Prop where
  | start : Reaches initial ⟨none, initial⟩
  | step {state after : State} {action : Action} (reached : Reaches initial state)
      (step : Step action state after) : Reaches initial after

/-- What holds all along a run. -/
structure State.Invariant (state : State) : Prop where
  wellFormed : state.ruleset.WellFormed
  distinct : state.ruleset.Distinct
  agrees : ∀ session, state.session = some session → session.Agrees state.ruleset

variable {state after : State} {action : Action}

/-! ## Steps -/

/-- A request makes a change, or it is a flush that leaves nothing. -/
theorem Consistent.ends_perform {request : Request} {session : Nftables} {ruleset after : Ruleset}
    {outcome : Outcome Nftables} (consistent : session.Consistent ruleset)
    (ended : (request.perform session).Ends Ruleset.MayReply ruleset outcome after) :
    Change session ruleset outcome.1 after ∨ request = .flush ∧ Emptied outcome.1 after := by
  cases request with
  | allow rule => exact .inl (change_of_allow consistent.wellFormed ended)
  | allowAll rules => exact .inl (change_of_allowAll consistent.wellFormed ended)
  | revoke rule => exact .inl (change_of_revoke (fun _ => consistent.handle_le) ended).1
  | flush =>
      rcases consistent.ends_flush ended with emptied | ⟨⟨error, rfl⟩, rfl⟩
      · exact .inr ⟨rfl, emptied⟩
      · exact .inl .none
  | close =>
      obtain ⟨rfl, rfl⟩ := Dialogue.ends_done.1 ended
      exact .inl .close

/-- Each request leaves session and ruleset in agreement, and all but a flush spare what is no allow
rule. -/
theorem agrees_perform {request : Request} {session : Nftables} {ruleset after : Ruleset}
    {outcome : Outcome Nftables} (agrees : session.Agrees ruleset)
    (ended : (request.perform session).Ends Ruleset.MayReply ruleset outcome after) :
    outcome.1.Agrees after ∧ (request ≠ .flush → ruleset.Spares after) := by
  rcases agrees.consistent.ends_perform ended with change | ⟨isFlush, emptied⟩
  · exact ⟨agrees.change change, fun _ => agrees.consistent.spares change⟩
  · exact ⟨emptied.agrees, fun noFlush => absurd isFlush noFlush⟩

/-- A step preserves the invariant. -/
theorem State.Invariant.step (invariant : state.Invariant) (step : Step action state after) :
    after.Invariant := by
  cases step with
  | start ended =>
      have chain := (ends_start ended).1
      refine ⟨?_, ?_, fun session started => ?_⟩
      · rcases chain with rfl | rfl
        · exact invariant.wellFormed
        · exact invariant.wellFormed.setup
      · rcases chain with rfl | rfl <;> exact invariant.distinct
      · rename_i result _
        cases result with
        | error error => cases started
        | ok other =>
            cases started
            exact agrees_start invariant.wellFormed invariant.distinct ended
  | perform ended =>
      obtain ⟨agrees, _⟩ := agrees_perform (invariant.agrees _ rfl) ended
      refine ⟨agrees.wellFormed, agrees.distinct, ?_⟩
      intro session inUse
      cases inUse
      exact agrees

/-- All but a flush spare what is no allow rule. -/
theorem State.Invariant.spares (invariant : state.Invariant) (step : Step action state after)
    (noFlush : action ≠ .perform .flush) : state.ruleset.Spares after.ruleset := by
  cases step with
  | start ended =>
      rcases (ends_start ended).1 with rfl | rfl <;> exact Ruleset.spares_refl _
  | perform ended =>
      obtain ⟨_, spares⟩ := agrees_perform (invariant.agrees _ rfl) ended
      exact spares fun same => noFlush (congrArg _ same)

/-! ## Runs -/

/-- A ruleset without a session. -/
theorem invariant_initial {initial : Ruleset} (wellFormed : initial.WellFormed)
    (distinct : initial.Distinct) : State.Invariant ⟨none, initial⟩ :=
  ⟨wellFormed, distinct, nofun⟩

/-- The invariant holds all along a run. -/
theorem Reaches.invariant {initial : Ruleset} (wellFormed : initial.WellFormed)
    (distinct : initial.Distinct) (reached : Reaches initial state) : state.Invariant := by
  induction reached with
  | start => exact invariant_initial wellFormed distinct
  | step _ step ih => exact ih.step step

/-- Sessions that agree with the same rules hold the same. -/
theorem rules_eq_of_agrees {session other : Nftables} {ruleset after : Ruleset}
    (agrees : session.Agrees ruleset) (otherAgrees : other.Agrees after)
    (same : after.rules = ruleset.rules) : other.rules = session.rules := by
  have handles : other.handles = session.handles := by
    refine SortedMap.ext_get? fun rule => Option.ext fun handle => ?_
    rw [otherAgrees.handles, agrees.handles, Ruleset.rule?, Ruleset.rule?, same]
  exact congrArg SortedMap.keys handles

/-- After every step of a run, no two rules of the chain allow the same, and the session in use
holds exactly the allow rules of the chain with their handles, knows whether the table is there, and
holds the same rules as any session that is started anew, which is possible.  What is no allow rule
goes away with nothing but a flush. -/
theorem sessions_mirror_kernel {initial : Ruleset} (wellFormed : initial.WellFormed)
    (distinct : initial.Distinct) (reached : Reaches initial state) :
    state.ruleset.Distinct ∧
    (∀ session, state.session = some session →
      (∀ rule handle, session.handles.get? rule = some handle ↔
        state.ruleset.rule? handle = some rule) ∧
      session.tablePresent = state.ruleset.table ∧
      (∃ other after, start.Ends Ruleset.MayReply state.ruleset (.ok other) after) ∧
      ∀ other after, start.Ends Ruleset.MayReply state.ruleset (.ok other) after →
        other.rules = session.rules) ∧
    ∀ action after, Step action state after → action ≠ .perform .flush →
      state.ruleset.Spares after.ruleset := by
  have invariant := reached.invariant wellFormed distinct
  refine ⟨invariant.distinct, fun session inUse => ?_, fun action after step noFlush =>
    invariant.spares step noFlush⟩
  have agrees := invariant.agrees session inUse
  obtain ⟨other, ended⟩ := exists_start agrees.legible
  refine ⟨agrees.handles, agrees.table, ⟨other, _, ended⟩, fun other after ended => ?_⟩
  obtain ⟨rfl, _⟩ := (ends_start ended).2 other rfl
  exact rules_eq_of_agrees agrees (agrees_start invariant.wellFormed invariant.distinct ended) rfl

/-! ### A chain with somebody else's rule -/

/-- The rule that lets in secure shells. -/
def shell : Rule := ⟨.tcp, 22⟩

/-- A rule of somebody else, which drops everything. -/
def dropping : Document where
  toList := [("expr", .array [member "drop" .null]), ("table", .string tableName)]
  sorted := List.pairwise_pair.2 (by decide)

/-- A chain with an allow rule and a rule of somebody else. -/
def shared : Ruleset where
  table := true
  rules := ⟨[(4, sent shell), (7, dropping)], List.pairwise_pair.2 (by decide)⟩
  next := 8

theorem get?_shared {handle : Nat} {document : Document} :
    shared.rules.get? handle = some document ↔
      handle = 4 ∧ document = sent shell ∨ handle = 7 ∧ document = dropping := by
  rw [← SortedMap.mem_toList_iff]
  simp [shared]

theorem exact_dropping : ∀ entry ∈ dropping.toList, entry.2.Exact 123 := by
  have dropped : ∀ item ∈ [member "drop" .null], item.Exact 122 :=
    List.forall_mem_singleton.2 (exact_member (Json.exact_null 121))
  exact List.forall_mem_cons.2 ⟨Json.exact_array dropped,
    List.forall_mem_singleton.2 (Json.exact_string _ _)⟩

theorem wellFormed_shared : shared.WellFormed where
  rooted := nofun
  fresh held := by
    rcases get?_shared.1 held with ⟨rfl, _⟩ | ⟨rfl, _⟩ <;> decide
  bounded := by decide
  canonical held := by
    rcases get?_shared.1 held with ⟨_, rfl⟩ | ⟨_, rfl⟩
    · exact canonical_sent shell
    · exact fun entry isMember => (exact_dropping entry isMember).canonical

theorem legible_shared : shared.Legible := by
  intro handle document held
  rcases get?_shared.1 held with ⟨rfl, rfl⟩ | ⟨rfl, rfl⟩
  · exact (exact_numbered (by decide) (exact_sent 118 shell)).readable
  · exact (exact_numbered (by decide) exact_dropping).readable

theorem rule?_dropping : dropping.rule? = none := by
  have table : dropping.get? "table" = some (.string tableName) := by
    rw [← Json.member?_ofMap]
    rfl
  have expr : dropping.get? "expr" = some (.array [member "drop" .null]) := by
    rw [← Json.member?_ofMap]
    rfl
  simp only [Document.rule?, table, expr, Option.bind_some]
  rfl

theorem rule?_shared {handle : Nat} {rule : Rule} :
    shared.rule? handle = some rule ↔ handle = 4 ∧ rule = shell := by
  rw [Ruleset.rule?, Option.bind_eq_some_iff]
  simp only [get?_shared]
  constructor
  · rintro ⟨_, ⟨rfl, rfl⟩ | ⟨_, rfl⟩, found⟩
    · rw [rule?_sent (by decide)] at found
      exact ⟨rfl, (Option.some.inj found).symm⟩
    · rw [rule?_dropping] at found
      cases found
  · rintro ⟨rfl, rfl⟩
    exact ⟨_, .inl ⟨rfl, rfl⟩, rule?_sent (by decide)⟩

/-- A session that is started there knows the allow rule, as does any other, and revoking it spares
the rule of somebody else. -/
theorem sessions_mirror_kernel_shared :
    shared.WellFormed ∧ shared.Distinct ∧ ∃ session, Reaches shared ⟨some session, shared⟩ ∧
      session.handles.get? shell = some 4 ∧ session.tablePresent = true ∧
      (∀ other after, start.Ends Ruleset.MayReply shared (.ok other) after →
        other.rules = session.rules) ∧
      ∀ outcome after, (session.revoke shell).Ends Ruleset.MayReply shared outcome after →
        after.rules.get? 7 = some dropping := by
  have distinct : shared.Distinct := fun first second rule here there =>
    (rule?_shared.1 here).1.trans (rule?_shared.1 there).1.symm
  obtain ⟨session, ended⟩ := exists_start legible_shared
  have begun : Step .start ⟨none, shared⟩ ⟨Except.toOption (.ok session), shared⟩ := .start ended
  have reached : Reaches shared ⟨some session, shared⟩ := .step .start begun
  obtain ⟨_, mirrored, spared⟩ := sessions_mirror_kernel wellFormed_shared distinct reached
  obtain ⟨handles, table, _, anew⟩ := mirrored session rfl
  refine ⟨wellFormed_shared, distinct, session, reached, (handles shell 4).2 ?_, table, anew, ?_⟩
  · exact rule?_shared.2 ⟨rfl, rfl⟩
  · intro outcome after revoked
    have step : Step (.perform (.revoke shell)) ⟨some session, shared⟩ ⟨some outcome.1, after⟩ :=
      .perform revoked
    refine spared _ _ step (by simp) 7 dropping (get?_shared.2 (.inr ⟨rfl, rfl⟩)) ?_
    cases found : shared.rule? 7 with
    | none => rfl
    | some rule => cases (rule?_shared.1 found).1

end Gatehouse.Firewall.Nftables
