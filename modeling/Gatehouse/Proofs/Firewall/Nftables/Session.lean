import Gatehouse.Proofs.Dialogue
import Gatehouse.Proofs.Firewall.Nftables.Reports
/-!
# Sessions agree with the filter

A session agrees with a ruleset when its handles are those of the allow rules in the chain and it
knows whether the table is there.  A new session agrees with the ruleset that it has found, and
every operation leaves session and ruleset in agreement, whether it is served or refused.
-/

namespace Gatehouse.Firewall.Nftables

open Dialogue

/-- The session knows exactly the allow rules of the chain, each by its handle. -/
structure Agrees (session : Nftables) (ruleset : Ruleset) : Prop where
  handles : ∀ rule handle,
    session.handles.get? rule = some handle ↔ ruleset.rule? handle = some rule
  table : session.tablePresent = ruleset.table
  /-- The session was started from a listing, so what was there then could be read. -/
  legible : ruleset.Legible
  wellFormed : ruleset.WellFormed

/-- Everything in the chain that is no allow rule is still there. -/
def Ruleset.Spares (ruleset after : Ruleset) : Prop :=
  ∀ handle document, ruleset.rules.get? handle = some document → ruleset.rule? handle = none →
    after.rules.get? handle = some document

theorem Ruleset.spares_refl (ruleset : Ruleset) : ruleset.Spares ruleset :=
  fun _ _ held _ => held

variable {session : Nftables} {ruleset after : Ruleset}

theorem Agrees.distinct (agrees : session.Agrees ruleset) : ruleset.Distinct := by
  intro first second rule here there
  rw [← agrees.handles] at here there
  exact Option.some.inj (here.symm.trans there)

/-! ## Batches -/

theorem accepted_of_refused {reply : Reply} (refused : Ruleset.Refused reply) :
    ∃ error, accepted reply = .error error := by
  cases reply with
  | error error => exact ⟨error, rfl⟩
  | ok output =>
      refine ⟨.ofOutput name output, ?_⟩
      rw [accepted, refused output rfl]
      rfl

/-- A batch is committed as a whole, or it has no effect and ends with an error. -/
theorem ends_apply {commands : List Json} (exact : ∀ command ∈ commands, command.Exact 125)
    {echo : Bool} {result : Except Error Json}
    (ended : (apply (batch commands) echo).Ends Ruleset.MayReply ruleset result after) :
    (∃ echoed, ruleset.processAll commands = .ok (after, echoed) ∧
      result = if echo then report (Utf8.encode (batch echoed).compact) else .ok .null) ∨
      (∃ error, result = .error error) ∧ after = ruleset := by
  obtain ⟨reply, middle, replied, ended⟩ := ends_ask.1 ended
  obtain ⟨rfl, rfl⟩ := ends_done.1 ended
  cases replied with
  | served =>
      rw [serve_batch exact, Ruleset.commit]
      cases ruleset.processAll commands with
      | error complaint => exact .inr ⟨⟨_, rfl⟩, rfl⟩
      | ok processed =>
          refine .inl ⟨processed.2, rfl, ?_⟩
          cases echo <;> rfl
  | refused refused =>
      obtain ⟨error, failed⟩ := accepted_of_refused refused
      rw [failed]
      exact .inr ⟨⟨error, rfl⟩, rfl⟩

/-- A batch that can be committed may be committed. -/
theorem ends_apply_of_processed {commands : List Json}
    (exact : ∀ command ∈ commands, command.Exact 125) {echoed : List Json}
    (processed : ruleset.processAll commands = .ok (after, echoed)) :
    (apply (batch commands) false).Ends Ruleset.MayReply ruleset (.ok .null) after := by
  have replied : ruleset.MayReply (batchCommand (batch commands) false) _ _ := .served
  rw [serve_batch exact, Ruleset.commit, processed] at replied
  exact .ask replied (.done _ _)

/-! ## New sessions -/

theorem processAll_setupBatch (ruleset : Ruleset) :
    ruleset.processAll setup = .ok ({ ruleset with table := true }, []) := by
  have processed := ruleset.processAll_setup []
  rw [List.append_nil] at processed
  exact processed

/-- Listing changes nothing, and what is accepted is the listing of a chain that is there. -/
theorem of_replied_list {reply : Reply} (replied : ruleset.MayReply listCommand reply after) :
    after = ruleset ∧ ∀ output, accepted reply = .ok output →
      ruleset.table = true ∧ output = Ruleset.printed ruleset.listing := by
  cases replied with
  | served =>
      refine ⟨rfl, fun output isAccepted => ?_⟩
      have served : (ruleset.serve listCommand).1 =
          if ruleset.table then Ruleset.printed ruleset.listing
          else Ruleset.failure Ruleset.missing := rfl
      rw [served] at isAccepted
      cases table : ruleset.table with
      | true =>
          rw [table] at isAccepted
          exact ⟨rfl, (Except.ok.inj isAccepted).symm⟩
      | false =>
          rw [table] at isAccepted
          cases isAccepted
  | refused refused =>
      obtain ⟨error, failed⟩ := accepted_of_refused refused
      refine ⟨rfl, fun output isAccepted => ?_⟩
      rw [failed] at isAccepted
      cases isAccepted

/-- Starting a session creates the table if need be, and takes over what a listing shows. -/
theorem ends_start {result : Except Error Nftables}
    (ended : start.Ends Ruleset.MayReply ruleset result after) :
    (after = ruleset ∨ after = { ruleset with table := true }) ∧
      ∀ session, result = .ok session → after = { ruleset with table := true } ∧
        ∃ listed, after.listing.readBack? Draft.deepest = some listed ∧
          session = { fresh with tablePresent := true }.adopt (reportedHandles listed []) := by
  obtain ⟨created, middle, applied, follows⟩ := ends_bind.1 ended
  rcases ends_apply (exact_setup 122) applied with ⟨_, processed, rfl⟩ | ⟨⟨error, rfl⟩, rfl⟩
  · rw [processAll_setupBatch] at processed
    cases processed
    obtain ⟨reply, _, asked, concluded⟩ := ends_bind.1 follows
    obtain ⟨rfl, rfl⟩ := ends_done.1 concluded
    obtain ⟨rfl, isListing⟩ := of_replied_list (ends_question.1 asked)
    refine ⟨.inr rfl, fun session started => ⟨rfl, ?_⟩⟩
    cases outcome : accepted reply with
    | error error =>
        rw [outcome] at started
        cases started
    | ok output =>
        obtain ⟨_, rfl⟩ := isListing output outcome
        rw [outcome] at started
        simp only [Bind.bind, Except.bind, pure, Except.pure] at started
        split at started
        · cases started
        · rename_i listed documented
          cases started
          exact ⟨listed, document_compact_eq_ok.1 documented, rfl⟩
  · obtain ⟨rfl, rfl⟩ := ends_done.1 follows
    refine ⟨.inl rfl, fun session started => ?_⟩
    cases started

/-- A session that has been started holds a handle of each allow rule that is in the chain. -/
theorem held_of_ends_start (wellFormed : ruleset.WellFormed)
    (ended : start.Ends Ruleset.MayReply ruleset (.ok session) after) :
    after = { ruleset with table := true } ∧ session.tablePresent = true ∧
      session.closed = false ∧ after.Legible ∧ ∃ found, session.handles = .ofList found ∧
        ∀ rule handle, (rule, handle) ∈ found ↔ ruleset.rule? handle = some rule := by
  obtain ⟨rfl, listed, read, rfl⟩ := (ends_start ended).2 session rfl
  have shown : reportedHandles listed [] =
      reportedHandles (Ruleset.listing { ruleset with table := true }) [] :=
    reportedHandles_of_readBack? (canonical_listing wellFormed.setup) read []
  refine ⟨rfl, rfl, rfl, readable_listing.1 ⟨listed, read⟩, _, rfl, fun rule handle => ?_⟩
  rw [shown]
  exact mem_reportedHandles_listing

/-- A session that has been started agrees with the ruleset. -/
theorem agrees_start (wellFormed : ruleset.WellFormed) (distinct : ruleset.Distinct)
    (ended : start.Ends Ruleset.MayReply ruleset (.ok session) after) : session.Agrees after := by
  obtain ⟨rfl, table, _, legible, found, handles, isFound⟩ := held_of_ends_start wellFormed ended
  have agree (rule : Rule) (first second : Nat) (here : (rule, first) ∈ found)
      (there : (rule, second) ∈ found) : first = second :=
    distinct first second rule ((isFound rule first).1 here) ((isFound rule second).1 there)
  refine ⟨fun rule handle => ?_, table, legible, wellFormed.setup⟩
  rw [handles, SortedMap.get?_ofList agree]
  exact isFound rule handle

/-- Where all rules can be read, a session can be started. -/
theorem exists_start (legible : ruleset.Legible) :
    ∃ session,
      start.Ends Ruleset.MayReply ruleset (.ok session) { ruleset with table := true } := by
  have readable : (Ruleset.listing { ruleset with table := true }).Readable Draft.deepest :=
    readable_listing.2 legible
  obtain ⟨listed, read⟩ := readable
  have applied := ends_apply_of_processed (exact_setup 122) (processAll_setupBatch ruleset)
  refine ⟨{ fresh with tablePresent := true }.adopt (reportedHandles listed []),
    ends_bind.2 ⟨_, _, applied, ends_bind.2 ⟨_, _, .ask .served (.done _ _), ?_⟩⟩⟩
  refine ends_done.2 ⟨?_, rfl⟩
  change _ =
    (document (Utf8.encode (Ruleset.listing { ruleset with table := true }).compact)).bind _
  rw [document_compact_eq_ok.2 read]
  rfl

/-! ## Operations -/

/-- What is asked for may take effect, is not held yet, and is asked for once. -/
structure IsPending (held : SortedMap Rule Nat) (asked : List Rule) : Prop where
  valid : ∀ rule ∈ asked, rule.port ≠ 0
  unheld : ∀ rule ∈ asked, held.get? rule = none
  once : asked.Nodup

theorem isPending_nil {held : SortedMap Rule Nat} : IsPending held [] :=
  ⟨List.forall_mem_nil _, List.forall_mem_nil _, List.nodup_nil⟩

theorem isPending_of_pending {held : SortedMap Rule Nat} {rules found asked : List Rule}
    (isPending : IsPending held found) (collected : pending held found rules = .ok asked) :
    IsPending held asked := by
  induction rules generalizing found with
  | nil =>
      cases collected
      exact isPending
  | cons rule rest ih =>
      rw [pending] at collected
      split at collected
      · cases collected
      · rename_i valid validated
        obtain ⟨rfl, nonzero⟩ := Rule.eq_of_validated validated
        split at collected
        · exact ih isPending collected
        · rename_i new
          simp only [SortedMap.contains, List.contains_iff_mem, Bool.or_eq_true, not_or,
            Bool.not_eq_true, Option.isSome_eq_false_iff, Option.isNone_iff_eq_none] at new
          refine ih ⟨?_, ?_, ?_⟩ collected
          · exact List.forall_mem_append.2 ⟨isPending.valid, List.forall_mem_singleton.2 nonzero⟩
          · exact List.forall_mem_append.2 ⟨isPending.unheld, List.forall_mem_singleton.2 new.1⟩
          · refine List.nodup_append.2 ⟨isPending.once, by simp, ?_⟩
            rintro other isMember added isAdded rfl
            exact new.2 (List.mem_singleton.1 isAdded ▸ isMember)

theorem settle_fst (session : Nftables) (asked : List Rule) (echoed : Json) :
    (session.settle asked echoed).1 =
      { session with tablePresent := true }.adopt (reportedHandles echoed asked) := by
  unfold settle
  dsimp only
  split <;> rfl

/-- The session holds the handles of the rules that it has added, besides those it held before. -/
theorem get?_settle {asked : List Rule} (isPending : IsPending session.handles asked)
    {rule : Rule} {handle : Nat} :
    (session.settle asked (batch (ruleset.echo asked))).1.handles.get? rule = some handle ↔
      (rule, handle) ∈ asked.zipIdx ruleset.next ∨ session.handles.get? rule = some handle := by
  have placed : reportedHandles (batch (ruleset.echo asked)) asked = asked.zipIdx ruleset.next :=
    reportedHandles_echo isPending.valid ruleset
  rw [settle_fst, placed, adopt,
    SortedMap.get?_foldl_insert fun _ _ _ => Ruleset.handle_eq_of_mem_zipIdx isPending.once]
  constructor
  · rintro (new | ⟨_, old⟩)
    · exact .inl new
    · exact .inr old
  · rintro (new | old)
    · exact .inl new
    · refine .inr ⟨fun other new => ?_, old⟩
      rw [isPending.unheld rule (List.fst_mem_of_mem_zipIdx new)] at old
      cases old

theorem tablePresent_settle (session : Nftables) (asked : List Rule) (echoed : Json) :
    (session.settle asked echoed).1.tablePresent = true := by
  rw [settle_fst]
  rfl

/-! ## What the operations do -/

/-- What the session holds is in the chain, and it knows whether the table is there. -/
structure Consistent (session : Nftables) (ruleset : Ruleset) : Prop where
  sound : ∀ rule handle,
    session.handles.get? rule = some handle → ruleset.rule? handle = some rule
  table : session.tablePresent = ruleset.table
  wellFormed : ruleset.WellFormed

theorem Agrees.consistent (agrees : session.Agrees ruleset) : session.Consistent ruleset where
  sound rule handle := (agrees.handles rule handle).1
  table := agrees.table
  wellFormed := agrees.wellFormed

/-- What an operation other than a flush may do to session and ruleset. -/
inductive Change (session : Nftables) (ruleset : Ruleset) : Nftables → Ruleset → Prop where
  /-- Nothing happens. -/
  | none : Change session ruleset session ruleset
  /-- Rules are added, and their handles are taken over. -/
  | enter {asked : List Rule} (isPending : IsPending session.handles asked)
      (bounded : (Ruleset.enter { ruleset with table := true } asked).next ≤
        Word.greatest64 + 1) :
      Change session ruleset
        (session.settle asked (batch (Ruleset.echo { ruleset with table := true } asked))).1
        (Ruleset.enter { ruleset with table := true } asked)
  /-- A rule is deleted by the handle that the session holds for it. -/
  | erase {rule : Rule} {handle : Nat} (known : session.handles.get? rule = some handle) :
      Change session ruleset { session with handles := session.handles.erase rule }
        { ruleset with rules := ruleset.rules.erase handle }
  | close : Change session ruleset session.close ruleset

/-- There is no rule in the chain, and the session holds none. -/
structure Emptied (session : Nftables) (ruleset : Ruleset) : Prop where
  rules : ruleset.rules = .empty
  handles : session.handles = .empty
  table : session.tablePresent = ruleset.table
  wellFormed : ruleset.WellFormed

variable {outcome : Outcome Nftables}

/-- An operation that asks nothing and leaves the session as it is changes nothing. -/
theorem change_of_ends_done {result : Except Error Unit}
    (ended : (done (session, result) : Talk (Outcome Nftables)).Ends Ruleset.MayReply ruleset
      outcome after) : Change session ruleset outcome.1 after := by
  obtain ⟨rfl, rfl⟩ := ends_done.1 ended
  exact .none

theorem change_of_allowAll (wellFormed : ruleset.WellFormed) {rules : List Rule}
    (ended : (session.allowAll rules).Ends Ruleset.MayReply ruleset outcome after) :
    Change session ruleset outcome.1 after := by
  unfold allowAll at ended
  split at ended
  · exact change_of_ends_done ended
  · split at ended
    · exact change_of_ends_done ended
    · exact change_of_ends_done ended
    · rename_i asked _ collected
      have isPending := isPending_of_pending isPending_nil collected
      obtain ⟨echoed, middle, applied, follows⟩ := ends_bind.1 ended
      rcases ends_apply (exact_allowBatch asked) applied with ⟨_, processed, rfl⟩ | ⟨⟨error, rfl⟩, rfl⟩
      · rw [Ruleset.processAll_setup] at processed
        obtain ⟨rfl, rfl, bounded⟩ :=
          Ruleset.processAll_addRules wellFormed.setup.bounded processed
        rw [if_pos rfl, report_batch, document_compact_eq_ok.2 (exact_echo bounded)] at follows
        obtain ⟨rfl, rfl⟩ := ends_done.1 follows
        exact .enter isPending bounded
      · exact change_of_ends_done follows

theorem change_of_allow (wellFormed : ruleset.WellFormed) {rule : Rule}
    (ended : (session.allow rule).Ends Ruleset.MayReply ruleset outcome after) :
    Change session ruleset outcome.1 after := by
  unfold allow at ended
  split at ended
  · exact change_of_ends_done ended
  · exact change_of_allowAll wellFormed ended

/-- After a rule has been revoked the session holds no handle for it. -/
theorem change_of_revoke {rule : Rule}
    (fits : ∀ handle, session.handles.get? rule = some handle → handle ≤ Word.greatest64)
    (ended : (session.revoke rule).Ends Ruleset.MayReply ruleset outcome after) :
    Change session ruleset outcome.1 after ∧
      (outcome.2 = .ok () → outcome.1.handles.get? rule = none) := by
  unfold revoke at ended
  split at ended
  · obtain ⟨rfl, rfl⟩ := ends_done.1 ended
    exact ⟨.none, nofun⟩
  · split at ended
    · obtain ⟨rfl, rfl⟩ := ends_done.1 ended
      exact ⟨.none, nofun⟩
    · rename_i validated
      obtain ⟨rfl, _⟩ := Rule.eq_of_validated validated
      split at ended
      · rename_i unknown
        obtain ⟨rfl, rfl⟩ := ends_done.1 ended
        exact ⟨.none, fun _ => unknown⟩
      · rename_i handle known
        have exact : ∀ command ∈ [deleteRule handle], command.Exact 125 :=
          List.forall_mem_singleton.2 (exact_deleteRule 122 (fits handle known))
        obtain ⟨_, middle, applied, follows⟩ := ends_bind.1 ended
        rcases ends_apply exact applied with ⟨_, processed, rfl⟩ | ⟨⟨error, rfl⟩, rfl⟩
        · rw [Ruleset.processAll_singleton] at processed
          obtain rfl := Ruleset.process_deleteRule processed
          obtain ⟨rfl, rfl⟩ := ends_done.1 follows
          exact ⟨.erase known, fun _ => SortedMap.get?_erase_self _ _⟩
        · obtain ⟨rfl, rfl⟩ := ends_done.1 follows
          exact ⟨.none, nofun⟩

theorem Consistent.handle_le (consistent : session.Consistent ruleset) {rule : Rule} {handle : Nat}
    (known : session.handles.get? rule = some handle) : handle ≤ Word.greatest64 := by
  obtain ⟨document, held, _⟩ := Option.bind_eq_some_iff.1 (consistent.sound rule handle known)
  exact consistent.wellFormed.handle_le held

/-- A rule that the session holds can be revoked. -/
theorem Consistent.ends_revoke_served (consistent : session.Consistent ruleset)
    (isOpen : session.closed = false) {rule : Rule} (valid : rule.port ≠ 0) {handle : Nat}
    (known : session.handles.get? rule = some handle) :
    (session.revoke rule).Ends Ruleset.MayReply ruleset
      ({ session with handles := session.handles.erase rule }, .ok ())
      { ruleset with rules := ruleset.rules.erase handle } := by
  obtain ⟨document, held, _⟩ := Option.bind_eq_some_iff.1 (consistent.sound rule handle known)
  have exact : ∀ command ∈ [deleteRule handle], command.Exact 125 :=
    List.forall_mem_singleton.2 (exact_deleteRule 122 (consistent.handle_le known))
  have processed : ruleset.processAll [deleteRule handle] =
      .ok ({ ruleset with rules := ruleset.rules.erase handle }, []) := by
    have there : ruleset.rules.contains handle = true := by simp [SortedMap.contains, held]
    have deleted : ruleset.process (deleteRule handle) = ruleset.delete handle := rfl
    rw [Ruleset.processAll_singleton, deleted, Ruleset.delete, if_pos there]
  have validated : rule.validated = .ok rule := if_neg valid
  unfold revoke
  simp only [isOpen, validated, known, Bool.false_eq_true, if_false]
  exact ends_bind.2 ⟨_, _, ends_apply_of_processed exact processed, .done _ _⟩

/-- What a flush may do to session and ruleset. -/
inductive Flushed (session : Nftables) (ruleset : Ruleset) : Outcome Nftables → Ruleset → Prop where
  /-- The table is deleted. -/
  | deleted {result : Except Error Unit} : Flushed session ruleset
      ({ session with handles := .empty, tablePresent := false }, result)
      { ruleset with table := false, rules := .empty }
  /-- The session takes the table not to be there. -/
  | skipped {result : Except Error Unit} (absent : session.tablePresent = false) :
      Flushed session ruleset ({ session with handles := .empty }, result) ruleset
  /-- The deletion fails and has changed nothing. -/
  | failed {error : Error} : Flushed session ruleset (session, .error error) ruleset

theorem flushed_of_ends (ended : session.flush.Ends Ruleset.MayReply ruleset outcome after) :
    Flushed session ruleset outcome after := by
  unfold flush at ended
  split at ended
  · have exact : ∀ command ∈ [member "delete" Nftables.table], command.Exact 125 :=
      List.forall_mem_singleton.2 (exact_deleteTable 122)
    obtain ⟨_, middle, applied, follows⟩ := ends_bind.1 ended
    rcases ends_apply exact applied with ⟨_, processed, rfl⟩ | ⟨⟨error, rfl⟩, rfl⟩
    · rw [Ruleset.processAll_singleton] at processed
      obtain rfl := Ruleset.process_deleteTable processed
      obtain ⟨rfl, rfl⟩ := ends_done.1 follows
      exact .deleted
    · obtain ⟨rfl, rfl⟩ := ends_done.1 follows
      exact .failed
  · rename_i absent
    obtain ⟨rfl, rfl⟩ := ends_done.1 ended
    exact .skipped (Bool.eq_false_iff.2 absent)

/-- A flush leaves no rule, or fails and has changed nothing. -/
theorem Consistent.ends_flush (consistent : session.Consistent ruleset)
    (ended : session.flush.Ends Ruleset.MayReply ruleset outcome after) :
    Emptied outcome.1 after ∨ (∃ error, outcome = (session, .error error)) ∧ after = ruleset := by
  cases flushed_of_ends ended with
  | deleted => exact .inl ⟨rfl, rfl, rfl, consistent.wellFormed.drop⟩
  | skipped absent =>
      have noTable : ruleset.table = false := consistent.table ▸ absent
      exact .inl ⟨consistent.wellFormed.rooted noTable, rfl, consistent.table,
        consistent.wellFormed⟩
  | failed => exact .inr ⟨⟨_, rfl⟩, rfl⟩

/-! ## Agreement is kept -/

variable {last : Nftables}

theorem Change.wellFormed (change : Change session ruleset last after)
    (wellFormed : ruleset.WellFormed) : after.WellFormed := by
  cases change with
  | none => exact wellFormed
  | enter _ bounded => exact wellFormed.setup.enter rfl bounded
  | erase _ => exact wellFormed.erase _
  | close => exact wellFormed

/-- A session that is right about what it knows stays so. -/
theorem Consistent.change (consistent : session.Consistent ruleset)
    (change : Change session ruleset last after) : last.Consistent after := by
  have wellFormed := change.wellFormed consistent.wellFormed
  cases change with
  | none => exact consistent
  | enter isPending _ =>
      refine ⟨fun rule handle held => ?_, tablePresent_settle _ _ _, wellFormed⟩
      rw [Ruleset.rule?_enter consistent.wellFormed.setup isPending.valid]
      exact ((get?_settle isPending).1 held).imp_right (consistent.sound rule handle)
  | @erase rule handle known =>
      refine ⟨fun other place held => ?_, consistent.table, wellFormed⟩
      obtain ⟨apart, held⟩ := SortedMap.get?_erase_eq_some.1 held
      have there := consistent.sound other place held
      refine Ruleset.rule?_erase.2 ⟨?_, there⟩
      rintro rfl
      exact apart (Option.some.inj (there.symm.trans (consistent.sound rule place known)))
  | close => exact ⟨consistent.sound, consistent.table, wellFormed⟩

/-- A session that agrees with the ruleset stays in agreement. -/
theorem Agrees.change (agrees : session.Agrees ruleset)
    (change : Change session ruleset last after) : last.Agrees after := by
  have wellFormed := change.wellFormed agrees.wellFormed
  cases change with
  | none => exact agrees
  | enter isPending bounded =>
      refine ⟨fun rule handle => ?_, tablePresent_settle _ _ _, ?_, wellFormed⟩
      · rw [get?_settle isPending, Ruleset.rule?_enter agrees.wellFormed.setup isPending.valid,
          agrees.handles]
        rfl
      · intro handle document held
        rcases (Ruleset.get?_enter agrees.wellFormed.setup).1 held with ⟨rule, new, rfl⟩ | old
        · have fits := Ruleset.handle_le_of_mem_zipIdx bounded new
          exact (exact_numbered fits (exact_sent 118 rule)).readable
        · exact agrees.legible old
  | @erase rule handle known =>
      have there := (agrees.handles rule handle).1 known
      refine ⟨fun other place => ?_, agrees.table, ?_, wellFormed⟩
      · rw [SortedMap.get?_erase_eq_some, Ruleset.rule?_erase, agrees.handles other place]
        constructor
        · rintro ⟨apart, found⟩
          refine ⟨?_, found⟩
          rintro rfl
          exact apart (Option.some.inj (found.symm.trans there))
        · rintro ⟨apart, found⟩
          refine ⟨?_, found⟩
          rintro rfl
          exact apart (agrees.distinct place handle other found there)
      · intro place document held
        exact agrees.legible (SortedMap.get?_erase_eq_some.1 held).2
  | close => exact ⟨agrees.handles, agrees.table, agrees.legible, wellFormed⟩

/-- What is no allow rule is neither replaced nor deleted. -/
theorem Consistent.spares (consistent : session.Consistent ruleset)
    (change : Change session ruleset last after) : ruleset.Spares after := by
  intro place document held foreign
  cases change with
  | none => exact held
  | enter _ _ => exact (Ruleset.get?_enter consistent.wellFormed.setup).2 (.inr held)
  | erase known =>
      refine SortedMap.get?_erase_eq_some.2 ⟨?_, held⟩
      rintro rfl
      rw [consistent.sound _ _ known] at foreign
      cases foreign
  | close => exact held

theorem Emptied.agrees (emptied : session.Emptied ruleset) : session.Agrees ruleset where
  handles rule handle := by
    rw [emptied.handles, Ruleset.rule?, emptied.rules]
    simp
  table := emptied.table
  legible held := by
    rw [emptied.rules] at held
    cases held
  wellFormed := emptied.wellFormed

end Gatehouse.Firewall.Nftables
