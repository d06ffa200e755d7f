import Gatehouse.Proofs.Firewall.Iptables.Run
/-!
# How many lines a rule has

Somebody else can have put the line of a rule into the chain more than once.  One of these lines is
deleted at a time.  Along a run there are never more of them than initially, or than one, and after
a revocation there is one less.
-/

namespace Gatehouse.Firewall.Iptables

variable {session : Iptables} {chain after initial : Chain} {rule : Rule} {spare : Nat}
  {backend : Backend} {outcome : Outcome Backend}

/-- A rule has at most `spare` lines, besides one if the session owns it. -/
structure Bounded (rule : Rule) (spare : Nat) (pair : Iptables × Chain) : Prop where
  most : pair.2.count (line rule) ≤ spare + 1
  disowned : rule ∉ pair.1.rules → pair.2.count (line rule) ≤ spare

/-- The listing shows a rule whose line is there, whatever else is. -/
theorem mem_rules_adopted_of_mem (valid : rule.port ≠ 0) (there : line rule ∈ chain) :
    rule ∈ (adopted chain).rules := by
  apply mem_rules_adopted.2
  apply Chain.mem_rulesOfListing.2
  refine ⟨line rule, there, ?_⟩
  rw [Chain.rulesOfListing_shown valid]
  exact List.mem_singleton_self rule

theorem bounded_adopted (valid : rule.port ≠ 0) (most : chain.count (line rule) ≤ spare + 1) :
    Bounded rule spare (adopted chain, chain) := by
  refine ⟨most, fun disowned => ?_⟩
  have absent : line rule ∉ chain := fun there => disowned (mem_rules_adopted_of_mem valid there)
  rw [List.count_eq_zero_of_not_mem absent]
  exact Nat.zero_le spare

theorem Bounded.change {before later : Iptables × Chain} (bounded : Bounded rule spare before)
    (change : Change before later) : Bounded rule spare later := by
  obtain ⟨most, disowned⟩ := bounded
  cases change with
  | @enter session chain other valid =>
      by_cases same : rule = other
      · subst same
        refine ⟨?_, fun notOwned => absurd (mem_rules_own.2 (.inl rfl)) notOwned⟩
        rw [Chain.count_enter_self]
        exact Nat.max_le.2 ⟨most, Nat.le_add_left 1 spare⟩
      · constructor
        · rw [Chain.count_enter_of_ne same]
          exact most
        · intro notOwned
          rw [Chain.count_enter_of_ne same]
          exact disowned fun owned => notOwned (mem_rules_own.2 (.inr owned))
  | @dismiss session chain other valid =>
      by_cases same : rule = other
      · subst same
        have fewer : (chain.dismiss rule).count (line rule) ≤ spare := by
          rw [Chain.count_dismiss_self]
          exact Nat.sub_le_of_le_add most
        exact ⟨Nat.le_succ_of_le fewer, fun _ => fewer⟩
      · constructor
        · rw [Chain.count_dismiss_of_ne same]
          exact most
        · intro notOwned
          rw [Chain.count_dismiss_of_ne same]
          exact disowned fun owned => notOwned (mem_rules_disown.2 ⟨same, owned⟩)
  | close => exact ⟨most, disowned⟩

theorem kept_bounded (valid : rule.port ≠ 0) (spare : Nat) :
    Kept (fun chain => chain.count (line rule) ≤ spare + 1) (Bounded rule spare) where
  adopted _ := bounded_adopted valid
  chain _ bounded := bounded.most
  change _ _ _ change bounded := bounded.change change

/-- All along a run the number of lines is bounded by the one in the initial chain. -/
theorem Reaches.bounded (valid : rule.port ≠ 0)
    (reached : Reaches initial ⟨some backend, chain⟩) :
    ∃ session, backend = .iptables session ∧ session.Proper ∧
      Bounded rule (initial.count (line rule) - 1) (session, chain) :=
  ((kept_bounded valid _).reaches (Nat.le_add_of_sub_le (Nat.le_refl _)) reached).2 backend rfl

/-- After a revocation there is at least one line less than initially, if there was any. -/
theorem count_line_of_revoke (reached : Reaches initial ⟨some backend, chain⟩)
    (ended : (perform (.revoke rule) backend).Ends Chain.MayReply chain outcome after)
    (ok : outcome.2 = .ok ()) :
    after.count (line rule) ≤ initial.count (line rule) - 1 := by
  obtain ⟨session, rfl, _⟩ := reached.proper
  obtain ⟨inner, ofSession, rfl⟩ := ends_lift ended
  rcases ends_revoke ofSession with failed | ⟨valid, rfl, rfl⟩
  · obtain ⟨error, isError⟩ := failed.result
    rw [isError] at ok
    cases ok
  · obtain ⟨_, ⟨⟩, _, bounded⟩ := reached.bounded valid
    apply (bounded.change (.dismiss valid)).disowned
    intro owned
    exact (mem_rules_disown.1 owned).1 rfl

/-- After a flush there is at least one line less than initially, if there was any. -/
theorem count_line_of_flush (valid : rule.port ≠ 0)
    (reached : Reaches initial ⟨some backend, chain⟩)
    (ended : (perform .flush backend).Ends Chain.MayReply chain outcome after)
    (ok : outcome.2 = .ok ()) :
    after.count (line rule) ≤ initial.count (line rule) - 1 := by
  obtain ⟨session, rfl, proper, bounded⟩ := reached.bounded valid
  obtain ⟨inner, ofSession, rfl⟩ := ends_lift ended
  obtain ⟨changes, none⟩ := ends_flush proper ofSession
  have kept := ((kept_bounded valid _).changes changes proper bounded).2
  apply kept.disowned
  rw [none ok]
  exact List.not_mem_nil

end Gatehouse.Firewall.Iptables
