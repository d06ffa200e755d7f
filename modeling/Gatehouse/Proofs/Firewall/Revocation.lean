import Gatehouse.Proofs.Firewall.Iptables.Copies
import Gatehouse.Proofs.Firewall.Iptables.Refinement
import Gatehouse.Proofs.Firewall.Nftables.Copies
/-!
# What a revocation leaves open

Both backends count a rule once, however often it is in the chain, so a revocation takes away one
copy of it.  A rule that was there at most once when the run began is gone after that.  Of a rule
that was there several times all but one can be left, with iptables even after a flush.
-/

namespace Gatehouse.Firewall

/-- After a revocation that succeeds there is at least one copy of the rule less than in the initial
chain, so that there is none if there was at most one.  The same holds of all rules after a flush
with iptables, while a flush with nftables leaves no rule at all. -/
theorem fewer_copies_after_revocation :
    (∀ (initial ruleset after : Nftables.Ruleset) (session : Nftables) (outcome : Outcome Nftables)
      (rule : Rule), initial.WellFormed → Nftables.Reaches initial ⟨some session, ruleset⟩ →
      outcome.2 = .ok () →
      ((session.revoke rule).Ends Nftables.Ruleset.MayReply ruleset outcome after →
        (after.handlesOf rule).card ≤ (initial.handlesOf rule).card - 1) ∧
      (session.flush.Ends Nftables.Ruleset.MayReply ruleset outcome after →
        after.handlesOf rule = ∅)) ∧
    ∀ (initial chain after : Iptables.Chain) (backend : Backend) (outcome : Outcome Backend)
      (rule : Rule), Iptables.Reaches initial ⟨some backend, chain⟩ → outcome.2 = .ok () →
      ((backend.revoke rule).Ends Iptables.Chain.MayReply chain outcome after →
        after.count (Iptables.line rule) ≤ initial.count (Iptables.line rule) - 1) ∧
      (rule.port ≠ 0 → backend.flush.Ends Iptables.Chain.MayReply chain outcome after →
        after.count (Iptables.line rule) ≤ initial.count (Iptables.line rule) - 1) := by
  constructor
  · intro initial ruleset after session outcome rule wellFormed reached ok
    constructor
    · exact fun ended => Nftables.card_handlesOf_of_revoke wellFormed reached ended ok
    · exact fun ended => Nftables.handlesOf_of_flush wellFormed reached ended ok
  · intro initial chain after backend outcome rule reached ok
    constructor
    · exact fun ended => Iptables.count_line_of_revoke reached ended ok
    · exact fun valid ended => Iptables.count_line_of_flush valid reached ended ok

open Nftables (shell sent)

/-! ### A rule that is there once -/

theorem Nftables.card_handlesOf_shared : (shared.handlesOf shell).card = 1 := by
  have single : shared.handlesOf shell = {4} := by
    ext handle
    rw [Ruleset.mem_handlesOf, rule?_shared, Finset.mem_singleton]
    exact and_iff_left rfl
  rw [single, Finset.card_singleton]

/-- A session that owns one rule, whose line is there, can be flushed. -/
theorem Iptables.exists_flushed {session : Iptables} {chain : Chain} {rule : Rule}
    (owned : session.rules = [rule]) (there : line rule ∈ chain) :
    ∃ outcome, (Backend.iptables session).flush.Ends Chain.MayReply chain outcome
      (chain.dismiss rule) ∧ outcome.2 = .ok () := by
  have replied : chain.MayReply (command "-D" rule) (.ok .silent) (chain.dismiss rule) := by
    have answered : chain.MayReply (command "-D" rule) _ _ := .served
    rw [Chain.serve_delete, if_pos there] at answered
    exact answered
  rw [Backend.flush, flush, owned]
  exact ⟨_, .ask replied (.done _ _), rfl⟩

/-- A rule that is in the chain once can be revoked with either backend and is not there then, nor
is it after a flush. -/
theorem fewer_copies_after_revocation_shared :
    (∃ session outcome after, Nftables.Reaches Nftables.shared ⟨some session, Nftables.shared⟩ ∧
      (session.revoke shell).Ends Nftables.Ruleset.MayReply Nftables.shared outcome after ∧
      outcome.2 = .ok () ∧ after.handlesOf shell = ∅) ∧
    ∃ backend, Iptables.Reaches Iptables.shared ⟨some backend, Iptables.shared⟩ ∧
      (∃ outcome after, (backend.revoke shell).Ends Iptables.Chain.MayReply Iptables.shared
        outcome after ∧ outcome.2 = .ok () ∧ Iptables.line shell ∉ after) ∧
      ∃ outcome after, backend.flush.Ends Iptables.Chain.MayReply Iptables.shared outcome after ∧
        outcome.2 = .ok () ∧ Iptables.line shell ∉ after := by
  obtain ⟨nftables, iptables⟩ := fewer_copies_after_revocation
  constructor
  · obtain ⟨session, place, reached, _, revoked⟩ := Nftables.exists_revoked
      Nftables.wellFormed_shared Nftables.legible_shared (by decide)
      (Nftables.rule?_shared.2 ⟨rfl, rfl⟩)
    refine ⟨session, _, _, reached, revoked, rfl, ?_⟩
    have fewer := (nftables _ _ _ _ _ shell Nftables.wellFormed_shared reached rfl).1 revoked
    rw [Nftables.card_handlesOf_shared] at fewer
    exact Finset.card_eq_zero.1 (Nat.le_zero.1 fewer)
  · have reached := Iptables.reaches_adopted Iptables.shared
    have once : Iptables.shared.count (Iptables.line shell) = 1 := by decide
    refine ⟨_, reached, ⟨_, _, Dialogue.ends_run Iptables.Chain.mayReply_answer _ _, rfl, ?_⟩, ?_⟩
    · have fewer := (iptables _ _ _ _ _ shell reached rfl).1
        (Dialogue.ends_run Iptables.Chain.mayReply_answer _ _)
      rw [once] at fewer
      exact List.count_eq_zero.1 (Nat.le_zero.1 fewer)
    · have owned : (Iptables.adopted Iptables.shared).rules = [shell] := by decide +kernel
      obtain ⟨outcome, flushed, ok⟩ := Iptables.exists_flushed owned List.mem_cons_self
      refine ⟨outcome, _, flushed, ok, ?_⟩
      have fewer := (iptables _ _ _ _ _ shell reached ok).2 (by decide) flushed
      rw [once] at fewer
      exact List.count_eq_zero.1 (Nat.le_zero.1 fewer)

/-! ## A rule that is there twice -/

namespace Nftables

/-- A chain with two allow rules for secure shells. -/
def twice : Ruleset where
  table := true
  rules := ⟨[(4, sent shell), (7, sent shell)], List.pairwise_pair.2 (by decide)⟩
  next := 8

theorem get?_twice {handle : Nat} {document : Document} :
    twice.rules.get? handle = some document ↔
      (handle = 4 ∨ handle = 7) ∧ document = sent shell := by
  rw [← SortedMap.mem_toList_iff]
  simp [twice, or_and_right]

theorem rule?_twice {handle : Nat} {rule : Rule} :
    twice.rule? handle = some rule ↔ (handle = 4 ∨ handle = 7) ∧ rule = shell := by
  rw [Ruleset.rule?, Option.bind_eq_some_iff]
  simp only [get?_twice]
  constructor
  · rintro ⟨_, ⟨place, rfl⟩, found⟩
    rw [rule?_sent (by decide)] at found
    exact ⟨place, (Option.some.inj found).symm⟩
  · rintro ⟨place, rfl⟩
    exact ⟨_, ⟨place, rfl⟩, rule?_sent (by decide)⟩

theorem wellFormed_twice : twice.WellFormed where
  rooted := nofun
  fresh held := by
    rcases (get?_twice.1 held).1 with rfl | rfl <;> decide
  bounded := by decide
  canonical held := by
    obtain ⟨_, rfl⟩ := get?_twice.1 held
    exact canonical_sent shell

theorem legible_twice : twice.Legible := by
  intro handle document held
  obtain ⟨place, rfl⟩ := get?_twice.1 held
  have fits : handle ≤ Word.greatest64 := by
    rcases place with rfl | rfl <;> decide
  exact (exact_numbered fits (exact_sent 118 shell)).readable

/-- A session that is started there holds one of the rules, and revoking it leaves the other. -/
theorem exists_left_of_revoke :
    ∃ session outcome after, Reaches twice ⟨some session, twice⟩ ∧
      (session.revoke shell).Ends Ruleset.MayReply twice outcome after ∧ outcome.2 = .ok () ∧
      ∃ handle, after.rule? handle = some shell := by
  have there : twice.rule? 4 = some shell := rule?_twice.2 ⟨.inl rfl, rfl⟩
  obtain ⟨session, place, reached, held, revoked⟩ :=
    exists_revoked wellFormed_twice legible_twice (by decide) there
  refine ⟨session, _, _, reached, revoked, rfl, ?_⟩
  rcases (rule?_twice.1 held).1 with rfl | rfl
  · exact ⟨7, Ruleset.rule?_erase.2 ⟨by decide, rule?_twice.2 ⟨.inr rfl, rfl⟩⟩⟩
  · exact ⟨4, Ruleset.rule?_erase.2 ⟨by decide, there⟩⟩

end Nftables

namespace Iptables

/-- A chain with the line of a rule for secure shells twice. -/
def twice : Chain := [line shell, line shell]

theorem exists_left_of_revoke :
    ∃ outcome after, ((Backend.iptables (adopted twice)).revoke shell).Ends Chain.MayReply twice
      outcome after ∧ outcome.2 = .ok () ∧ line shell ∈ after :=
  ⟨_, _, Dialogue.ends_run Chain.mayReply_answer _ _, rfl, by decide⟩

theorem exists_left_of_flush :
    ∃ outcome after, (Backend.iptables (adopted twice)).flush.Ends Chain.MayReply twice
      outcome after ∧ outcome.2 = .ok () ∧ line shell ∈ after := by
  have owned : (adopted twice).rules = [shell] := by decide +kernel
  obtain ⟨outcome, flushed, ok⟩ := exists_flushed owned List.mem_cons_self
  exact ⟨outcome, _, flushed, ok, by decide⟩

end Iptables

/-- A rule that is in the chain twice is still there after it has been revoked, with either backend,
and after a flush with iptables. -/
theorem copies_outlive_revocation :
    (∃ session outcome after, Nftables.Reaches Nftables.twice ⟨some session, Nftables.twice⟩ ∧
      (session.revoke shell).Ends Nftables.Ruleset.MayReply Nftables.twice outcome after ∧
      outcome.2 = .ok () ∧ ∃ handle, after.rule? handle = some shell) ∧
    ∃ backend, Iptables.Reaches Iptables.twice ⟨some backend, Iptables.twice⟩ ∧
      (∃ outcome after, (backend.revoke shell).Ends Iptables.Chain.MayReply Iptables.twice
        outcome after ∧ outcome.2 = .ok () ∧ Iptables.line shell ∈ after) ∧
      ∃ outcome after, backend.flush.Ends Iptables.Chain.MayReply Iptables.twice outcome after ∧
        outcome.2 = .ok () ∧ Iptables.line shell ∈ after :=
  ⟨Nftables.exists_left_of_revoke, _, Iptables.reaches_adopted _, Iptables.exists_left_of_revoke,
    Iptables.exists_left_of_flush⟩

end Gatehouse.Firewall
