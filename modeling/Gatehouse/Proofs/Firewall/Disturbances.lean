import Gatehouse.Proofs.Firewall.Iptables.Refinement
import Gatehouse.Proofs.Firewall.Nftables.Failures
import Gatehouse.Proofs.Firewall.Nftables.Refinement
import Mathlib.Data.Set.Basic
/-!
# Rules that somebody else takes away

Between two operations somebody else may take rules away: the managed table as a whole, or lines of
the chain.  With iptables a rule that is allowed is in the chain afterwards whatever has happened to
the chain before, for it is looked up there.  With nftables a session gives no command for a rule
that it holds.  So it goes on holding the rules of a table that somebody else has deleted, and these
it does not bring back until it has been flushed or another session is started.
-/

namespace Gatehouse.Firewall

open Dialogue

namespace Nftables

/-- The ruleset once the managed table has been deleted. -/
def Ruleset.wiped (ruleset : Ruleset) : Ruleset :=
  { ruleset with table := false, rules := .empty }

/-- The rules that the session in use holds. -/
def State.held (state : State) : Set Rule :=
  {rule | ∃ session, state.session = some session ∧ rule ∈ session.rules}

/-- A run from a ruleset, in which somebody else deletes the managed table now and then, leads to a
state.  Rules are lost that the session in use has held since such a deletion. -/
inductive Disturbed (initial : Ruleset) : State → Set Rule → Prop where
  | begin : Disturbed initial ⟨none, initial⟩ ∅
  | start {state after : State} {lost : Set Rule} (disturbed : Disturbed initial state lost)
      (step : Step .start state after) : Disturbed initial after ∅
  | perform {state after : State} {lost : Set Rule} {request : Request}
      (disturbed : Disturbed initial state lost) (step : Step (.perform request) state after) :
      Disturbed initial after (lost ∩ after.held)
  | deletion {state : State} {lost : Set Rule} (disturbed : Disturbed initial state lost) :
      Disturbed initial ⟨state.session, state.ruleset.wiped⟩ state.held

variable {session last : Nftables} {ruleset after initial : Ruleset} {lost : Set Rule}
  {rule : Rule} {outcome : Outcome Nftables}

/-! ## What a session still knows -/

/-- The session is right about the rules that it holds, except for those that are lost.  Nothing in
the chain amounts to these, and nothing stands at the handles that the session has for them. -/
structure Intact (lost : Set Rule) (session : Nftables) (ruleset : Ruleset) : Prop where
  /-- A handle that the session knows is not given again. -/
  below : ∀ rule handle, session.handles.get? rule = some handle → handle < ruleset.next
  kept : ∀ rule handle, rule ∉ lost → session.handles.get? rule = some handle →
    ruleset.rule? handle = some rule
  vacant : ∀ rule handle, rule ∈ lost → session.handles.get? rule = some handle →
    ruleset.rules.get? handle = none
  gone : ∀ rule handle, rule ∈ lost → ruleset.rule? handle ≠ some rule
  held : ∀ rule ∈ lost, rule ∈ session.rules
  wellFormed : ruleset.WellFormed

theorem Intact.handle_le (intact : Intact lost session ruleset) {handle : Nat}
    (known : session.handles.get? rule = some handle) : handle ≤ Word.greatest64 := by
  have below := intact.below rule handle known
  have bounded := intact.wellFormed.bounded
  omega

/-- Lost are rules that are held. -/
theorem Intact.inter (intact : Intact lost session ruleset) :
    Intact (lost ∩ {rule | rule ∈ session.rules}) session ruleset := by
  have same : lost ∩ {rule | rule ∈ session.rules} = lost := Set.inter_eq_left.2 intact.held
  rwa [same]

/-- The rules that a session holds are lost with the table. -/
theorem Intact.wiped (intact : Intact lost session ruleset) :
    Intact {rule | rule ∈ session.rules} session ruleset.wiped where
  below := intact.below
  kept _ handle notHeld known := absurd (SortedMap.mem_keys_iff.2 ⟨handle, known⟩) notHeld
  vacant _ _ _ _ := rfl
  gone _ _ _ := nofun
  held _ isHeld := isHeld
  wellFormed := intact.wellFormed.drop

/-! ## Changes -/

/-- No rule is asked for that is lost. -/
theorem Intact.not_mem_asked {asked : List Rule} (intact : Intact lost session ruleset)
    (isPending : IsPending session.handles asked) (isLost : rule ∈ lost) : rule ∉ asked := by
  intro isAsked
  obtain ⟨handle, known⟩ := SortedMap.mem_keys_iff.1 (intact.held rule isLost)
  rw [isPending.unheld rule isAsked] at known
  cases known

/-- Rules are added at new handles, and none of them is lost. -/
theorem Intact.enter {asked : List Rule} (intact : Intact lost session ruleset)
    (isTable : ruleset.table = true) (isPending : IsPending session.handles asked)
    (bounded : (ruleset.enter asked).next ≤ Word.greatest64 + 1) :
    Intact lost (session.settle asked (batch (ruleset.echo asked))).1 (ruleset.enter asked) where
  below rule handle known := by
    rcases (get?_settle isPending).1 known with new | known
    · exact List.snd_lt_add_of_mem_zipIdx new
    · exact Nat.lt_of_lt_of_le (intact.below rule handle known) (Nat.le_add_right _ _)
  kept rule handle unlost known := by
    rw [Ruleset.rule?_enter intact.wellFormed isPending.valid]
    exact ((get?_settle isPending).1 known).imp_right (intact.kept rule handle unlost)
  vacant rule handle isLost known := by
    have notAsked := intact.not_mem_asked isPending isLost
    rcases (get?_settle isPending).1 known with new | known
    · exact absurd (List.fst_mem_of_mem_zipIdx new) notAsked
    · refine Option.eq_none_iff_forall_not_mem.2 fun document placed => ?_
      rcases (Ruleset.get?_enter intact.wellFormed).1 placed with ⟨other, new, _⟩ | there
      · have above : ruleset.next ≤ handle := List.le_snd_of_mem_zipIdx new
        have below := intact.below rule handle known
        omega
      · rw [intact.vacant rule handle isLost known] at there
        cases there
  gone rule handle isLost found := by
    rcases (Ruleset.rule?_enter intact.wellFormed isPending.valid).1 found with new | there
    · exact intact.not_mem_asked isPending isLost (List.fst_mem_of_mem_zipIdx new)
    · exact intact.gone rule handle isLost there
  held rule isLost := by
    obtain ⟨handle, known⟩ := SortedMap.mem_keys_iff.1 (intact.held rule isLost)
    exact SortedMap.mem_keys_iff.2 ⟨handle, (get?_settle isPending).2 (.inr known)⟩
  wellFormed := intact.wellFormed.enter isTable bounded

/-- A rule is deleted at its handle, where no other rule stands. -/
theorem Intact.erase {place : Nat} (intact : Intact lost session ruleset)
    (known : session.handles.get? rule = some place) :
    Intact (lost \ {rule}) { session with handles := session.handles.erase rule }
      { ruleset with rules := ruleset.rules.erase place } where
  below other handle held := intact.below other handle (SortedMap.get?_erase_eq_some.1 held).2
  kept other handle unlost held := by
    obtain ⟨apart, held⟩ := SortedMap.get?_erase_eq_some.1 held
    have there := intact.kept other handle (fun isLost => unlost ⟨isLost, apart⟩) held
    refine Ruleset.rule?_erase.2 ⟨?_, there⟩
    rintro rfl
    by_cases isLost : rule ∈ lost
    · rw [Ruleset.rule?, intact.vacant rule handle isLost known] at there
      cases there
    · exact apart (Option.some.inj (there.symm.trans (intact.kept rule handle isLost known)))
  vacant other handle isLost held := by
    refine Option.eq_none_iff_forall_not_mem.2 fun document placed => ?_
    have there := (SortedMap.get?_erase_eq_some.1 placed).2
    rw [intact.vacant other handle isLost.1 (SortedMap.get?_erase_eq_some.1 held).2] at there
    cases there
  gone other handle isLost found :=
    intact.gone other handle isLost.1 (Ruleset.rule?_erase.1 found).2
  held other isLost := SortedMap.mem_keys_erase.2 ⟨isLost.2, intact.held other isLost.1⟩
  wellFormed := intact.wellFormed.erase place

/-- The table is there again, without any rules. -/
theorem Intact.setup (intact : Intact lost session ruleset) :
    Intact lost session { ruleset with table := true } :=
  ⟨intact.below, intact.kept, intact.vacant, intact.gone, intact.held, intact.wellFormed.setup⟩

/-- A change brings back no rule that is lost. -/
theorem Intact.change (intact : Intact lost session ruleset)
    (change : Change session ruleset last after) :
    Intact (lost ∩ {rule | rule ∈ last.rules}) last after := by
  cases change with
  | none => exact intact.inter
  | enter isPending bounded => exact (intact.setup.enter rfl isPending bounded).inter
  | @erase rule place known =>
      have erased := intact.erase known
      have same : lost ∩ {other | other ∈ ({ session with
          handles := session.handles.erase rule } : Nftables).rules} = lost \ {rule} := by
        ext other
        constructor
        · exact fun isLost => ⟨isLost.1, (SortedMap.mem_keys_erase.1 isLost.2).1⟩
        · exact fun isLost => ⟨isLost.1, erased.held other isLost⟩
      rwa [same]
  | close =>
      have same : {rule | rule ∈ session.close.rules} = {rule | rule ∈ session.rules} := rfl
      rw [same]
      have kept := intact.inter
      exact ⟨kept.below, kept.kept, kept.vacant, kept.gone, kept.held, kept.wellFormed⟩

/-- A session that holds nothing has lost nothing and is right about everything. -/
theorem intact_of_handles_eq_empty (empty : session.handles = .empty)
    (wellFormed : ruleset.WellFormed) :
    Intact (lost ∩ {rule | rule ∈ session.rules}) session ruleset := by
  have noHandle (rule : Rule) (handle : Nat) : session.handles.get? rule ≠ some handle := by
    rw [empty]
    exact nofun
  have noRules : {rule | rule ∈ session.rules} = (∅ : Set Rule) := by
    rw [rules, empty]
    exact Set.eq_empty_of_forall_notMem fun _ => nofun
  rw [noRules, Set.inter_empty]
  exact ⟨fun rule handle known => absurd known (noHandle rule handle),
    fun rule handle _ known => absurd known (noHandle rule handle), nofun, nofun, nofun, wellFormed⟩

/-- A request leaves the session right about what is not lost. -/
theorem Intact.perform {request : Request} (intact : Intact lost session ruleset)
    (ended : (request.perform session).Ends Ruleset.MayReply ruleset outcome after) :
    Intact (lost ∩ {rule | rule ∈ outcome.1.rules}) outcome.1 after := by
  cases request with
  | allow rule => exact intact.change (change_of_allow intact.wellFormed ended)
  | allowAll rules => exact intact.change (change_of_allowAll intact.wellFormed ended)
  | revoke rule => exact intact.change (change_of_revoke (fun _ => intact.handle_le) ended).1
  | flush =>
      cases flushed_of_ends ended with
      | deleted => exact intact_of_handles_eq_empty rfl intact.wellFormed.drop
      | skipped _ => exact intact_of_handles_eq_empty rfl intact.wellFormed
      | failed => exact intact.change .none
  | close =>
      obtain ⟨rfl, rfl⟩ := ends_done.1 ended
      exact intact.change .close

/-- A session that has been started is right about everything. -/
theorem intact_start (wellFormed : ruleset.WellFormed)
    (ended : start.Ends Ruleset.MayReply ruleset (.ok session) after) :
    Intact ∅ session after := by
  obtain ⟨rfl, _, _, _, found, handles, isFound⟩ := held_of_ends_start wellFormed ended
  have sound (rule : Rule) (handle : Nat) (known : session.handles.get? rule = some handle) :
      ruleset.rule? handle = some rule := by
    rw [handles, ← SortedMap.mem_toList_iff] at known
    exact (isFound rule handle).1 (SortedMap.mem_of_mem_ofList known)
  refine ⟨fun rule handle known => ?_, fun rule handle _ => sound rule handle, nofun, nofun, nofun,
    wellFormed.setup⟩
  obtain ⟨document, placed, _⟩ := Option.bind_eq_some_iff.1 (sound rule handle known)
  exact wellFormed.fresh placed

theorem held_some (session : Nftables) (ruleset : Ruleset) :
    State.held ⟨some session, ruleset⟩ = {rule | rule ∈ session.rules} := by
  ext rule
  simp [State.held]

/-- All along such a run the session in use is right about what is not lost. -/
theorem Disturbed.intact {state : State} (wellFormed : initial.WellFormed)
    (disturbed : Disturbed initial state lost) :
    state.ruleset.WellFormed ∧
      ∀ session, state.session = some session → Intact lost session state.ruleset := by
  induction disturbed with
  | begin => exact ⟨wellFormed, nofun⟩
  | start _ step ih =>
      cases step with
      | @start _ result _ ended =>
          constructor
          · rcases (ends_start ended).1 with rfl | rfl
            · exact ih.1
            · exact ih.1.setup
          · intro session started
            cases result with
            | error error => cases started
            | ok other =>
                cases started
                exact intact_start ih.1 ended
  | perform _ step ih =>
      cases step with
      | perform ended =>
          have intact := (ih.2 _ rfl).perform ended
          rw [held_some]
          refine ⟨intact.wellFormed, ?_⟩
          rintro _ ⟨⟩
          exact intact
  | @deletion state lost _ ih =>
      refine ⟨ih.1.drop, ?_⟩
      rintro session inUse
      obtain ⟨inUse', ruleset⟩ := state
      cases inUse
      rw [held_some]
      exact (ih.2 session rfl).wiped

/-! ## Rules that are allowed -/

/-- A rule is asked for unless it is held. -/
theorem pending_singleton {held : SortedMap Rule Nat} (valid : rule.port ≠ 0) :
    pending held [] [rule] = .ok (if held.contains rule then [] else [rule]) := by
  have validated : rule.validated = .ok rule := if_neg valid
  simp only [pending, validated, List.contains_nil, Bool.or_false, List.nil_append]
  split <;> rfl

/-- A rule that has been allowed is held. -/
theorem mem_rules_of_allow
    (ended : (session.allow rule).Ends Ruleset.MayReply ruleset outcome after)
    (ok : outcome.2 = .ok ()) : rule ∈ outcome.1.rules := by
  have failed {error : Error} {place : Ruleset}
      (ended : (done (session, .error error) : Talk (Outcome Nftables)).Ends Ruleset.MayReply place
        outcome after) : rule ∈ outcome.1.rules := by
    obtain ⟨rfl, rfl⟩ := ends_done.1 ended
    cases ok
  unfold allow at ended
  split at ended
  · exact failed ended
  · rename_i valid validated
    obtain ⟨rfl, nonzero⟩ := Rule.eq_of_validated validated
    unfold allowAll at ended
    split at ended
    · exact failed ended
    · rw [pending_singleton nonzero] at ended
      by_cases isHeld : session.handles.contains valid = true
      · rw [if_pos isHeld] at ended
        obtain ⟨rfl, rfl⟩ := ends_done.1 ended
        exact SortedMap.contains_iff.1 isHeld
      · rw [if_neg isHeld] at ended
        obtain ⟨result, _, _, follows⟩ := ends_bind.1 ended
        cases result with
        | error error => exact failed follows
        | ok echoed =>
            obtain ⟨rfl, rfl⟩ := ends_done.1 follows
            exact mem_rules_settle List.mem_cons_self ok

/-- A batch that can be committed may be committed, and what it has added is echoed. -/
theorem ends_apply_echoed {commands echoed : List Json}
    (exact : ∀ command ∈ commands, command.Exact 125)
    (processed : ruleset.processAll commands = .ok (after, echoed)) :
    (apply (batch commands) true).Ends Ruleset.MayReply ruleset
      (received (.ok (Ruleset.printed (batch echoed)))) after := by
  have replied : ruleset.MayReply (batchCommand (batch commands) true) _ _ := .served
  rw [serve_batch exact, Ruleset.commit, processed] at replied
  exact .ask replied (.done _ _)

/-- A rule that is not held yet can be allowed as long as there is a handle for it. -/
theorem exists_allowed (isOpen : session.closed = false) (valid : rule.port ≠ 0)
    (unheld : session.handles.get? rule = none) (room : ruleset.next ≤ Word.greatest64) :
    ∃ outcome after, (session.allow rule).Ends Ruleset.MayReply ruleset outcome after ∧
      outcome.2 = .ok () := by
  have validated : rule.validated = .ok rule := if_neg valid
  have notHeld : session.handles.contains rule = false := by simp [SortedMap.contains, unheld]
  have added : Ruleset.process { ruleset with table := true } (addRule rule) =
      Ruleset.add { ruleset with table := true } (.object (sent rule).toList) := rfl
  have processed : ruleset.processAll (setup ++ [rule].map addRule) =
      .ok (Ruleset.enter { ruleset with table := true } [rule],
        Ruleset.echo { ruleset with table := true } [rule]) := by
    rw [Ruleset.processAll_setup, List.map_singleton, Ruleset.processAll_singleton, added,
      Ruleset.add, if_pos room, SortedMap.ofList_toList]
    rfl
  have bounded : (Ruleset.enter { ruleset with table := true } [rule]).next ≤
      Word.greatest64 + 1 := Nat.succ_le_succ room
  have applied := ends_apply_echoed (exact_allowBatch [rule]) processed
  rw [received_echo bounded] at applied
  have ended : (session.allow rule).Ends Ruleset.MayReply ruleset
      (session.settle [rule] (batch (Ruleset.echo { ruleset with table := true } [rule])))
      (Ruleset.enter { ruleset with table := true } [rule]) := by
    unfold allow allowAll
    simp only [validated, isOpen, Bool.false_eq_true, if_false, pending_singleton valid, notHeld]
    exact ends_bind.2 ⟨_, _, applied, .done _ _⟩
  exact ⟨_, _, ended, settle_echo (List.forall_mem_singleton.2 valid) _⟩

/-- A rule that is allowed is in the chain then, unless it is lost. -/
theorem Disturbed.exists_rule?_iff (wellFormed : initial.WellFormed)
    (disturbed : Disturbed initial ⟨some session, ruleset⟩ lost)
    (ended : (session.allow rule).Ends Ruleset.MayReply ruleset outcome after)
    (ok : outcome.2 = .ok ()) : (∃ handle, after.rule? handle = some rule) ↔ rule ∉ lost := by
  have isHeld := mem_rules_of_allow ended ok
  have intact : Intact (lost ∩ {rule | rule ∈ outcome.1.rules}) outcome.1 after :=
    (((disturbed.intact wellFormed).2 session rfl).perform
      (show ((Request.allow rule).perform session).Ends _ _ _ _ from ended))
  constructor
  · rintro ⟨handle, found⟩ isLost
    exact intact.gone rule handle ⟨isLost, isHeld⟩ found
  · intro unlost
    obtain ⟨handle, known⟩ := SortedMap.mem_keys_iff.1 isHeld
    exact ⟨handle, intact.kept rule handle (fun isLost => unlost isLost.1) known⟩

end Nftables

/-- With iptables a rule that is allowed is in the chain then, whatever has been done to the chain
before. -/
theorem Iptables.line_mem_of_allow {session : Iptables} {chain after : Chain} {rule : Rule}
    {outcome : Outcome Backend}
    (ended : ((Backend.iptables session).allow rule).Ends Chain.MayReply chain outcome after)
    (ok : outcome.2 = .ok ()) : line rule ∈ after := by
  obtain ⟨inner, ofSession, rfl⟩ := ends_lift ended
  rcases ends_allow ofSession with failed | ⟨_, rfl, rfl⟩
  · obtain ⟨error, isError⟩ := failed.result
    rw [isError] at ok
    cases ok
  · exact Chain.mem_enter.2 (.inl rfl)

/-- A rule that has been allowed is in the chain then, whatever somebody else has taken away: with
iptables for every session and every chain, and with nftables all along a run in which the managed
table is deleted now and then, unless the session has held the rule since such a deletion.  In that
case it is not in the chain. -/
theorem allowed_rule_is_present (rule : Rule) :
    (∀ (initial ruleset after : Nftables.Ruleset) (session : Nftables) (lost : Set Rule)
      (outcome : Outcome Nftables), initial.WellFormed →
      Nftables.Disturbed initial ⟨some session, ruleset⟩ lost →
      (session.allow rule).Ends Nftables.Ruleset.MayReply ruleset outcome after →
      outcome.2 = .ok () → ((∃ handle, after.rule? handle = some rule) ↔ rule ∉ lost)) ∧
    ∀ (session : Iptables) (chain after : Iptables.Chain) (outcome : Outcome Backend),
      ((Backend.iptables session).allow rule).Ends Iptables.Chain.MayReply chain outcome after →
      outcome.2 = .ok () → Iptables.line rule ∈ after := by
  constructor
  · intro initial ruleset after session lost outcome wellFormed disturbed ended ok
    exact disturbed.exists_rule?_iff wellFormed ended ok
  · exact fun _ _ _ _ ended ok => Iptables.line_mem_of_allow ended ok

/-! ### A table that somebody else deletes -/

namespace Nftables

/-- A session is started on a chain, which is deleted then.  The session holds what was there. -/
theorem exists_disturbed :
    ∃ session, Disturbed shared ⟨some session, shared.wiped⟩ {rule | rule ∈ session.rules} ∧
      session.closed = false ∧ session.Agrees shared := by
  have distinct : shared.Distinct := fun first second rule here there =>
    (rule?_shared.1 here).1.trans (rule?_shared.1 there).1.symm
  obtain ⟨session, ended⟩ := exists_start legible_shared
  have begun : Step .start ⟨none, shared⟩ ⟨Except.toOption (.ok session), shared⟩ := .start ended
  have disturbed := (Disturbed.start .begin begun).deletion
  obtain ⟨_, _, isOpen, _⟩ := held_of_ends_start wellFormed_shared ended
  refine ⟨session, ?_, isOpen, agrees_start wellFormed_shared distinct ended⟩
  rw [← held_some session shared]
  exact disturbed

end Nftables

open Nftables (shell web)

/-- A rule that the session has not held is there once it is allowed, although the table has been
deleted, and so is a rule that has been taken out of the chain, with iptables. -/
theorem allowed_rule_is_present_shared :
    (∃ session outcome after, Nftables.Disturbed Nftables.shared
        ⟨some session, Nftables.shared.wiped⟩ {rule | rule ∈ session.rules} ∧
      (session.allow web).Ends Nftables.Ruleset.MayReply Nftables.shared.wiped outcome after ∧
      outcome.2 = .ok () ∧ ∃ handle, after.rule? handle = some web) ∧
    ∃ outcome after, ((Backend.iptables (Iptables.adopted Iptables.shared)).allow shell).Ends
      Iptables.Chain.MayReply (Iptables.Chain.dismiss Iptables.shared shell) outcome after ∧
      outcome.2 = .ok () ∧ Iptables.line shell ∈ after := by
  constructor
  · obtain ⟨session, disturbed, isOpen, agrees⟩ := Nftables.exists_disturbed
    have unheld : session.handles.get? web = none := by
      refine Option.eq_none_iff_forall_not_mem.2 fun handle known => ?_
      cases (Nftables.rule?_shared.1 ((agrees.handles web handle).1 known)).2
    obtain ⟨outcome, after, ended, ok⟩ := Nftables.exists_allowed isOpen (by decide) unheld
      (show Nftables.shared.wiped.next ≤ Word.greatest64 by decide)
    refine ⟨session, outcome, after, disturbed, ended, ok, ?_⟩
    have present := (allowed_rule_is_present web).1 _ _ _ _ _ _ Nftables.wellFormed_shared
      disturbed ended ok
    refine present.2 fun isHeld => ?_
    obtain ⟨handle, known⟩ := SortedMap.mem_keys_iff.1 isHeld
    rw [unheld] at known
    cases known
  · have ended := Dialogue.ends_run Iptables.Chain.mayReply_answer
      ((Backend.iptables (Iptables.adopted Iptables.shared)).allow shell)
      (Iptables.Chain.dismiss Iptables.shared shell)
    exact ⟨_, _, ended, rfl, (allowed_rule_is_present shell).2 _ _ _ _ ended rfl⟩

/-- A rule that the session has held since somebody else deleted the table is allowed without a
command, and is not there afterwards. -/
theorem lost_rule_is_not_restored :
    ∃ session outcome after, Nftables.Disturbed Nftables.shared
        ⟨some session, Nftables.shared.wiped⟩ {rule | rule ∈ session.rules} ∧
      (session.allow shell).Ends Nftables.Ruleset.MayReply Nftables.shared.wiped outcome after ∧
      outcome.2 = .ok () ∧ ∀ handle, after.rule? handle ≠ some shell := by
  obtain ⟨session, disturbed, isOpen, agrees⟩ := Nftables.exists_disturbed
  have known : session.handles.get? shell = some 4 :=
    (agrees.handles shell 4).2 (Nftables.rule?_shared.2 ⟨rfl, rfl⟩)
  have isHeld : session.handles.contains shell = true := by simp [SortedMap.contains, known]
  have silent : session.allow shell = .done (session, .ok ()) := by
    have valid : shell.validated = .ok shell := rfl
    unfold Nftables.allow Nftables.allowAll
    simp only [valid, isOpen, Bool.false_eq_true, if_false,
      Nftables.pending_singleton (show shell.port ≠ 0 by decide), isHeld, if_true]
  refine ⟨session, (session, .ok ()), Nftables.shared.wiped, disturbed, ?_, rfl,
    fun _ => (Option.some_ne_none shell).symm⟩
  rw [silent]
  exact .done _ _

end Gatehouse.Firewall
