import Gatehouse.Proofs.Firewall.Iptables.Run
/-!
# The backend refines the chain

A chain is tidy if each line is somebody else's or that of a rule, and no rule has two.  From a tidy
chain on, the session owns exactly the rules in the chain all along a run, as does a session that is
started anew, and the lines of others stay as they are.
-/

namespace Gatehouse.Firewall.Iptables

variable {session : Iptables} {chain after initial : Chain} {rule other : Rule} {state : State}

namespace Chain

/-- Each line is somebody else's or that of a rule, and no rule has two lines. -/
structure Tidy (chain : Chain) : Prop where
  lines : ∀ text ∈ chain, isForeign text = true ∨ ∃ rule : Rule, rule.port ≠ 0 ∧ text = line rule
  once : ∀ rule : Rule, rule.port ≠ 0 → chain.count (line rule) ≤ 1

theorem isForeign_line (valid : rule.port ≠ 0) : isForeign (line rule) = false := by
  rw [isForeign, rulesOfListing_shown valid]
  rfl

/-- The listing of a tidy chain shows the rules whose lines are there. -/
theorem Tidy.mem_rulesOfListing (tidy : chain.Tidy) :
    rule ∈ rulesOfListing chain.listing ↔ rule.port ≠ 0 ∧ line rule ∈ chain := by
  rw [Chain.mem_rulesOfListing]
  constructor
  · rintro ⟨text, isLine, isShown⟩
    rcases tidy.lines text isLine with foreign | ⟨own, valid, rfl⟩
    · rw [isForeign, List.isEmpty_iff] at foreign
      rw [foreign] at isShown
      cases isShown
    · rw [rulesOfListing_shown valid, List.mem_singleton] at isShown
      subst isShown
      exact ⟨valid, isLine⟩
  · rintro ⟨valid, isLine⟩
    refine ⟨line rule, isLine, ?_⟩
    rw [rulesOfListing_shown valid]
    exact List.mem_singleton_self rule

/-! ## Tidy chains after a change -/

/-- The lines of others are neither added nor deleted. -/
theorem filter_enter (valid : rule.port ≠ 0) :
    (chain.enter rule).filter isForeign = chain.filter isForeign := by
  rw [enter]
  split
  · rfl
  · simp [isForeign_line valid]

theorem filter_dismiss (valid : rule.port ≠ 0) :
    (chain.dismiss rule).filter isForeign = chain.filter isForeign := by
  rw [dismiss]
  by_cases there : line rule ∈ chain
  · obtain ⟨before, behind, _, split, left⟩ := List.exists_erase_eq there
    rw [left, split, List.filter_append, List.filter_append,
      List.filter_cons_of_neg (by simp [isForeign_line valid])]
  · rw [List.erase_of_not_mem there]

theorem Tidy.enter (tidy : chain.Tidy) (valid : rule.port ≠ 0) : (chain.enter rule).Tidy := by
  constructor
  · intro text isLine
    rcases mem_enter.1 isLine with isNew | wasLine
    · exact .inr ⟨rule, valid, isNew⟩
    · exact tidy.lines text wasLine
  · intro other otherValid
    have once := tidy.once other otherValid
    by_cases same : other = rule
    · subst same
      rw [count_enter_self]
      omega
    · rw [count_enter_of_ne same]
      exact once

/-- Of a rule that is dismissed there is no line, since there was only one. -/
theorem Tidy.line_mem_dismiss (tidy : chain.Tidy) (valid : rule.port ≠ 0) :
    line other ∈ chain.dismiss rule ↔ other ≠ rule ∧ line other ∈ chain := by
  rw [← List.count_pos_iff, ← List.count_pos_iff]
  by_cases same : other = rule
  · subst same
    have once := tidy.once other valid
    have gone : chain.count (line other) - 1 = 0 := by omega
    simp [count_dismiss_self, gone]
  · rw [count_dismiss_of_ne same]
    exact ⟨fun there => ⟨same, there⟩, fun there => there.2⟩

theorem Tidy.dismiss (tidy : chain.Tidy) : (chain.dismiss rule).Tidy := by
  constructor
  · intro text isLine
    exact tidy.lines text (List.mem_of_mem_erase isLine)
  · intro other valid
    have fewer : (chain.dismiss rule).count (line other) ≤ chain.count (line other) :=
      List.Sublist.count_le _ List.erase_sublist
    exact Nat.le_trans fewer (tidy.once other valid)

end Chain

/-! ## The invariant -/

/-- The chain is tidy, and of the lines of others there are those that were there initially. -/
structure Orderly (initial chain : Chain) : Prop where
  tidy : chain.Tidy
  foreign : chain.filter Chain.isForeign = initial.filter Chain.isForeign

/-- The session owns the rules whose lines are in a chain in good order. -/
structure Mirrors (initial : Chain) (pair : Iptables × Chain) : Prop where
  orderly : Orderly initial pair.2
  owned : ∀ rule, rule ∈ pair.1.rules ↔ rule.port ≠ 0 ∧ line rule ∈ pair.2

theorem mirrors_adopted (orderly : Orderly initial chain) :
    Mirrors initial (adopted chain, chain) where
  orderly := orderly
  owned _ := mem_rules_adopted.trans orderly.tidy.mem_rulesOfListing

theorem Mirrors.change {before later : Iptables × Chain} (mirrors : Mirrors initial before)
    (change : Change before later) : Mirrors initial later := by
  obtain ⟨⟨tidy, foreign⟩, owned⟩ := mirrors
  cases change with
  | enter valid =>
      refine ⟨⟨tidy.enter valid, ?_⟩, fun other => ?_⟩
      · rw [Chain.filter_enter valid]
        exact foreign
      · rw [mem_rules_own, owned, Chain.mem_enter]
        constructor
        · rintro (rfl | ⟨otherValid, there⟩)
          · exact ⟨valid, .inl rfl⟩
          · exact ⟨otherValid, .inr there⟩
        · rintro ⟨otherValid, same | there⟩
          · exact .inl (line_injective same)
          · exact .inr ⟨otherValid, there⟩
  | dismiss valid =>
      refine ⟨⟨tidy.dismiss, ?_⟩, fun other => ?_⟩
      · rw [Chain.filter_dismiss valid]
        exact foreign
      · rw [mem_rules_disown, owned, tidy.line_mem_dismiss valid, and_left_comm]
  | close => exact ⟨⟨tidy, foreign⟩, owned⟩

/-- Tidy chains stay so, and sessions mirror them. -/
theorem kept_mirrors (initial : Chain) : Kept (Orderly initial) (Mirrors initial) where
  adopted _ := mirrors_adopted
  chain _ mirrors := mirrors.orderly
  change _ _ _ change mirrors := mirrors.change change

/-! ## Runs -/

/-- After every step of a run the chain is tidy and the lines of others are what they were, in the
same order.  The backend in use owns exactly the rules in the chain, each of which has one line, and
it owns the same rules as any session that is started anew, which is possible. -/
theorem sessions_mirror_chain (tidy : initial.Tidy) (reached : Reaches initial state) :
    state.chain.Tidy ∧
    state.chain.filter Chain.isForeign = initial.filter Chain.isForeign ∧
    ∀ backend, state.backend = some backend →
      (∀ rule, rule ∈ backend.rules ↔ rule.port ≠ 0 ∧ line rule ∈ state.chain) ∧
      (∀ rule ∈ backend.rules, state.chain.count (line rule) = 1) ∧
      (∃ other after, start.Ends Chain.MayReply state.chain (.ok other) after) ∧
      ∀ other after, start.Ends Chain.MayReply state.chain (.ok other) after →
        other.rules = backend.rules := by
  obtain ⟨orderly, inUse⟩ := (kept_mirrors initial).reaches ⟨tidy, rfl⟩ reached
  refine ⟨orderly.tidy, orderly.foreign, fun backend isBackend => ?_⟩
  obtain ⟨session, rfl, _, mirrors⟩ := inUse backend isBackend
  refine ⟨mirrors.owned, ?_, ?_, ?_⟩
  · intro rule owned
    obtain ⟨valid, there⟩ := (mirrors.owned rule).1 owned
    exact Nat.le_antisymm (orderly.tidy.once rule valid) (List.count_pos_iff.2 there)
  · exact ⟨_, _, ends_start_served state.chain⟩
  · intro other after ended
    rcases (ends_start ended).2 with started | ⟨error, failed⟩
    · cases started
      have same : (adopted state.chain).owned = session.owned :=
        SortedMap.eq_of_mem_keys_iff fun rule =>
          ((mirrors_adopted orderly).owned rule).trans (mirrors.owned rule).symm
      exact congrArg SortedMap.keys same
    · cases failed

/-! ### A chain with somebody else's line -/

open Nftables (shell)

/-- A line of somebody else, which drops what comes from one network. -/
def dropping : String := "-s 10.0.0.0/8 -j DROP"

theorem isForeign_dropping : Chain.isForeign dropping = true := by
  apply (Chain.isForeign_iff (by decide)).2
  decide

/-- A chain with the line of a rule and a line of somebody else. -/
def shared : Chain := [line shell, dropping]

theorem foreign_shared : shared.filter Chain.isForeign = [dropping] := by
  have own : Chain.isForeign (line shell) = false := Chain.isForeign_line (by decide)
  simp [shared, own, isForeign_dropping]

theorem tidy_shared : shared.Tidy where
  lines text isLine := by
    simp only [shared, List.mem_cons, List.not_mem_nil, or_false] at isLine
    rcases isLine with rfl | rfl
    · exact .inr ⟨shell, by decide, rfl⟩
    · exact .inl isForeign_dropping
  once _ _ := List.nodup_iff_count.1 (by decide) _

/-- A session that is started there owns the rule, as does any other, and revoking it leaves the
line of somebody else. -/
theorem sessions_mirror_chain_shared :
    shared.Tidy ∧ ∃ session, Reaches shared ⟨some (.iptables session), shared⟩ ∧
      shell ∈ session.rules ∧ shared.count (line shell) = 1 ∧
      (∀ other after, start.Ends Chain.MayReply shared (.ok other) after →
        other.rules = session.rules) ∧
      ∀ outcome after, (perform (.revoke shell) (.iptables session)).Ends Chain.MayReply shared
        outcome after → after.filter Chain.isForeign = [dropping] := by
  have reached := reaches_adopted shared
  obtain ⟨_, _, inUse⟩ := sessions_mirror_chain tidy_shared reached
  obtain ⟨owned, once, _, anew⟩ := inUse _ rfl
  have known : shell ∈ (adopted shared).rules :=
    (owned shell).2 ⟨by decide, List.mem_cons_self⟩
  refine ⟨tidy_shared, adopted shared, reached, known, once shell known, anew, ?_⟩
  intro outcome after revoked
  obtain ⟨_, foreign, _⟩ := sessions_mirror_chain tidy_shared (reached.step (.perform revoked))
  rw [foreign_shared] at foreign
  exact foreign

end Gatehouse.Firewall.Iptables
