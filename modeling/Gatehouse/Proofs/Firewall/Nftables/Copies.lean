import Gatehouse.Proofs.Firewall.Nftables.Refinement
import Mathlib.Data.Finset.Card
/-!
# How many rules allow the same

Somebody else can have put an allow rule into the chain more than once.  A session holds one handle
for it, so one of these rules can be revoked at a time.  Along a run there are never more of them
than initially, or than one, and after a revocation there is one less.
-/

namespace Gatehouse.Firewall.Nftables

/-- The handles of the rules in the chain that allow the same as `rule`. -/
def Ruleset.handlesOf (ruleset : Ruleset) (rule : Rule) : Finset Nat :=
  (ruleset.rules.keys.filter fun handle => ruleset.rule? handle = some rule).toFinset

variable {session last : Nftables} {ruleset after initial : Ruleset} {rule : Rule} {handle : Nat}
  {spare : Nat}

theorem Ruleset.mem_handlesOf :
    handle ∈ ruleset.handlesOf rule ↔ ruleset.rule? handle = some rule := by
  simp only [handlesOf, List.mem_toFinset, List.mem_filter, decide_eq_true_eq]
  constructor
  · exact fun found => found.2
  · intro found
    obtain ⟨document, held, _⟩ := Option.bind_eq_some_iff.1 found
    exact ⟨SortedMap.mem_keys_iff.2 ⟨document, held⟩, found⟩

/-- There are at most `spare` rules in the chain that allow the same as `rule`, besides the one that
the session holds. -/
structure Bounded (rule : Rule) (spare : Nat) (session : Nftables) (ruleset : Ruleset) : Prop where
  most : (ruleset.handlesOf rule).card ≤ spare + 1
  unheld : rule ∉ session.rules → (ruleset.handlesOf rule).card ≤ spare

/-! ## What an operation does to the number -/

theorem Ruleset.handlesOf_enter_of_not_mem (wellFormed : ruleset.WellFormed) {asked : List Rule}
    (valid : ∀ rule ∈ asked, rule.port ≠ 0) (notAsked : rule ∉ asked) :
    (ruleset.enter asked).handlesOf rule = ruleset.handlesOf rule := by
  ext handle
  rw [mem_handlesOf, mem_handlesOf, rule?_enter wellFormed valid]
  constructor
  · rintro (new | old)
    · exact absurd (List.fst_mem_of_mem_zipIdx new) notAsked
    · exact old
  · exact .inr

/-- A rule that is asked for once is added once. -/
theorem Ruleset.card_handlesOf_enter (wellFormed : ruleset.WellFormed) {asked : List Rule}
    (valid : ∀ rule ∈ asked, rule.port ≠ 0) (once : asked.Nodup) (isAsked : rule ∈ asked) :
    ((ruleset.enter asked).handlesOf rule).card ≤ (ruleset.handlesOf rule).card + 1 := by
  obtain ⟨place, placed⟩ := Ruleset.exists_mem_zipIdx isAsked ruleset.next
  have added : (ruleset.enter asked).handlesOf rule ⊆ insert place (ruleset.handlesOf rule) := by
    intro handle isHandle
    rw [mem_handlesOf, rule?_enter wellFormed valid] at isHandle
    rw [Finset.mem_insert, mem_handlesOf]
    exact isHandle.imp_left fun new => handle_eq_of_mem_zipIdx once new placed
  exact Nat.le_trans (Finset.card_le_card added) (Finset.card_insert_le _ _)

theorem Ruleset.handlesOf_erase (ruleset : Ruleset) (rule : Rule) (place : Nat) :
    ({ ruleset with rules := ruleset.rules.erase place } : Ruleset).handlesOf rule =
      (ruleset.handlesOf rule).erase place := by
  ext handle
  rw [mem_handlesOf, rule?_erase, Finset.mem_erase, mem_handlesOf]

theorem Ruleset.handlesOf_of_empty (noRules : ruleset.rules = .empty) :
    ruleset.handlesOf rule = ∅ := by
  ext handle
  simp [mem_handlesOf, rule?, noRules]

theorem Bounded.change (bounded : Bounded rule spare session ruleset)
    (consistent : session.Consistent ruleset) (change : Change session ruleset last after) :
    Bounded rule spare last after := by
  cases change with
  | none => exact bounded
  | @enter asked isPending _ =>
      have wellFormed := consistent.wellFormed.setup
      by_cases isAsked : rule ∈ asked
      · have notHeld : rule ∉ session.rules := by
          intro held
          obtain ⟨handle, found⟩ := SortedMap.mem_keys_iff.1 held
          rw [isPending.unheld rule isAsked] at found
          cases found
        have card := Ruleset.card_handlesOf_enter wellFormed isPending.valid isPending.once isAsked
        refine ⟨Nat.le_trans card (Nat.succ_le_succ (bounded.unheld notHeld)), fun unheld => ?_⟩
        obtain ⟨handle, placed⟩ := Ruleset.exists_mem_zipIdx isAsked ruleset.next
        exact absurd (SortedMap.mem_keys_iff.2 ⟨handle, (get?_settle isPending).2 (.inl placed)⟩)
          unheld
      · have same := Ruleset.handlesOf_enter_of_not_mem wellFormed isPending.valid isAsked
        constructor
        · rw [same]
          exact bounded.most
        · intro unheld
          rw [same]
          apply bounded.unheld
          intro held
          obtain ⟨handle, found⟩ := SortedMap.mem_keys_iff.1 held
          exact unheld (SortedMap.mem_keys_iff.2
            ⟨handle, (get?_settle isPending).2 (.inr found)⟩)
  | @erase other handle known =>
      have there := consistent.sound other handle known
      constructor
      · rw [Ruleset.handlesOf_erase]
        exact Nat.le_trans (Finset.card_erase_le) bounded.most
      · intro unheld
        rw [Ruleset.handlesOf_erase]
        by_cases same : rule = other
        · subst same
          rw [Finset.card_erase_of_mem (Ruleset.mem_handlesOf.2 there)]
          exact Nat.sub_le_of_le_add bounded.most
        · refine Nat.le_trans Finset.card_erase_le (bounded.unheld fun held => ?_)
          exact unheld (SortedMap.mem_keys_erase.2 ⟨same, held⟩)
  | close => exact ⟨bounded.most, bounded.unheld⟩

theorem Emptied.bounded (emptied : session.Emptied ruleset) :
    Bounded rule spare session ruleset := by
  have none : ruleset.handlesOf rule = ∅ := Ruleset.handlesOf_of_empty emptied.rules
  constructor <;> simp [none]

/-- A session that is started where there are not too many rules holds one of them if there is
any. -/
theorem bounded_start (wellFormed : ruleset.WellFormed)
    (most : (ruleset.handlesOf rule).card ≤ spare + 1)
    (ended : start.Ends Ruleset.MayReply ruleset (.ok session) after) :
    session.Consistent after ∧ Bounded rule spare session after := by
  obtain ⟨rfl, table, _, _, found, handles, isFound⟩ := held_of_ends_start wellFormed ended
  refine ⟨⟨fun other handle held => ?_, table, wellFormed.setup⟩, most, fun unheld => ?_⟩
  · rw [handles, ← SortedMap.mem_toList_iff] at held
    exact (isFound other handle).1 (SortedMap.mem_of_mem_ofList held)
  · have none : (Ruleset.handlesOf { ruleset with table := true } rule) = ∅ := by
      apply Finset.eq_empty_of_forall_notMem
      intro handle isHandle
      have listed := (isFound rule handle).2 (Ruleset.mem_handlesOf.1 isHandle)
      apply unheld
      rw [rules, handles, SortedMap.mem_keys_ofList]
      exact List.mem_map.2 ⟨(rule, handle), listed, rfl⟩
    rw [none]
    exact Nat.zero_le spare

/-! ## Runs -/

/-- What holds of the number of rules all along a run. -/
structure State.Bounded (rule : Rule) (spare : Nat) (state : State) : Prop where
  wellFormed : state.ruleset.WellFormed
  most : (state.ruleset.handlesOf rule).card ≤ spare + 1
  inUse : ∀ session, state.session = some session →
    session.Consistent state.ruleset ∧ Nftables.Bounded rule spare session state.ruleset

theorem State.Bounded.step {state later : State} {action : Action}
    (bounded : state.Bounded rule spare) (step : Step action state later) :
    later.Bounded rule spare := by
  cases step with
  | @start _ result _ ended =>
      have chain := (ends_start ended).1
      refine ⟨?_, ?_, fun session started => ?_⟩
      · rcases chain with rfl | rfl
        · exact bounded.wellFormed
        · exact bounded.wellFormed.setup
      · rcases chain with rfl | rfl <;> exact bounded.most
      · cases result with
        | error error => cases started
        | ok other =>
            cases started
            exact bounded_start bounded.wellFormed bounded.most ended
  | perform ended =>
      obtain ⟨consistent, inUse⟩ := bounded.inUse _ rfl
      rcases consistent.ends_perform ended with change | ⟨_, emptied⟩
      · have kept := inUse.change consistent change
        refine ⟨change.wellFormed consistent.wellFormed, kept.most, ?_⟩
        rintro _ ⟨⟩
        exact ⟨consistent.change change, kept⟩
      · refine ⟨emptied.wellFormed, emptied.bounded.most, ?_⟩
        rintro _ ⟨⟩
        exact ⟨emptied.agrees.consistent, emptied.bounded⟩

theorem Reaches.bounded {state : State} (wellFormed : initial.WellFormed)
    (reached : Reaches initial state) :
    state.Bounded rule ((initial.handlesOf rule).card - 1) := by
  induction reached with
  | start => exact ⟨wellFormed, Nat.le_add_of_sub_le (Nat.le_refl _), nofun⟩
  | step _ step ih => exact ih.step step

/-- After a revocation there is at least one rule less than initially, if there was any. -/
theorem card_handlesOf_of_revoke (wellFormed : initial.WellFormed)
    (reached : Reaches initial ⟨some session, ruleset⟩) {outcome : Outcome Nftables}
    (ended : (session.revoke rule).Ends Ruleset.MayReply ruleset outcome after)
    (ok : outcome.2 = .ok ()) :
    (after.handlesOf rule).card ≤ (initial.handlesOf rule).card - 1 := by
  obtain ⟨consistent, bounded⟩ := (reached.bounded wellFormed).inUse session rfl
  obtain ⟨change, forgotten⟩ := change_of_revoke (fun _ => consistent.handle_le) ended
  apply (bounded.change consistent change).unheld
  intro held
  obtain ⟨handle, found⟩ := SortedMap.mem_keys_iff.1 held
  rw [forgotten ok] at found
  cases found

/-- After a flush there is no allow rule in the chain. -/
theorem handlesOf_of_flush (wellFormed : initial.WellFormed)
    (reached : Reaches initial ⟨some session, ruleset⟩) {outcome : Outcome Nftables}
    (ended : session.flush.Ends Ruleset.MayReply ruleset outcome after)
    (ok : outcome.2 = .ok ()) : after.handlesOf rule = ∅ := by
  have bounded : State.Bounded rule _ _ := reached.bounded wellFormed
  obtain ⟨consistent, _⟩ := bounded.inUse session rfl
  rcases consistent.ends_flush ended with emptied | ⟨⟨error, rfl⟩, _⟩
  · exact Ruleset.handlesOf_of_empty emptied.rules
  · cases ok

/-- A session that is started where there is a rule can revoke it. -/
theorem exists_revoked (wellFormed : initial.WellFormed) (legible : initial.Legible)
    (valid : rule.port ≠ 0) (there : initial.rule? handle = some rule) :
    ∃ session place, Reaches initial ⟨some session, { initial with table := true }⟩ ∧
      initial.rule? place = some rule ∧
      (session.revoke rule).Ends Ruleset.MayReply { initial with table := true }
        ({ session with handles := session.handles.erase rule }, .ok ())
        { initial with table := true, rules := initial.rules.erase place } := by
  obtain ⟨session, started⟩ := exists_start legible
  have begun : Step .start ⟨none, initial⟩
      ⟨Except.toOption (.ok session), { initial with table := true }⟩ := .start started
  have reached : Reaches initial ⟨some session, { initial with table := true }⟩ :=
    .step .start begun
  have bounded : State.Bounded rule _ _ := reached.bounded wellFormed
  obtain ⟨consistent, _⟩ := bounded.inUse session rfl
  obtain ⟨_, _, isOpen, _, found, handles, isFound⟩ := held_of_ends_start wellFormed started
  have held : rule ∈ session.rules := by
    rw [rules, handles, SortedMap.mem_keys_ofList]
    exact List.mem_map.2 ⟨(rule, handle), (isFound rule handle).2 there, rfl⟩
  obtain ⟨place, known⟩ := SortedMap.mem_keys_iff.1 held
  exact ⟨session, place, reached, consistent.sound rule place known,
    consistent.ends_revoke_served isOpen valid known⟩

end Gatehouse.Firewall.Nftables
