import Gatehouse.Proofs.Firewall.Nftables.Refinement
import Gatehouse.Proofs.Firewall.Nftables.Start
/-!
# When a flush gives its command

A flush deletes the managed table only if the session takes the table to be there.  The session takes
the table to be there exactly as the last batch in its transcript has it that was carried out and
that creates or deletes the table.  The exception is a batch that was carried out and whose output cannot
be read: the session passes over it.
-/

namespace Gatehouse.Firewall

namespace Nftables

open Dialogue Transcript

variable {session last : Nftables} {past now transcript : Transcript}

/-! ## Commands about the table -/

/-- The command is a batch that creates the table: the one at the start of a session, or one of allow
rules. -/
def Creates (command : Command) : Prop :=
  command = batchCommand setupBatch false ∨
    ∃ rules, command = batchCommand (allowBatch rules) true

/-- The command that deletes the table. -/
def deletion : Command := batchCommand flushBatch false

/-- The texts of batches differ where the first command says what kind it is. -/
theorem batchCommand_delete_ne_add {gone added : Json} {others rest : List Json}
    {echo again : Bool} :
    batchCommand (batch (member "delete" gone :: others)) echo ≠
      batchCommand (batch (member "add" added :: rest)) again := by
  intro same
  have deletes : (batch (member "delete" gone :: others)).compactChars[15]? = some 'd' := by
    cases others <;> rfl
  have adds : (batch (member "add" added :: rest)).compactChars[15]? = some 'a' := by
    cases rest <;> rfl
  have texts := Option.some.inj (congrArg Command.input same)
  rw [Json.compact, Json.compact, String.ofList_inj] at texts
  rw [texts, adds] at deletes
  cases deletes

/-- A batch that deletes something creates no table. -/
theorem not_creates_delete {gone : Json} {others : List Json} {echo : Bool} :
    ¬ Creates (batchCommand (batch (member "delete" gone :: others)) echo) := by
  rintro (same | ⟨rules, same⟩)
  · exact batchCommand_delete_ne_add same
  · exact batchCommand_delete_ne_add same

/-- The program has carried a command out. -/
def Succeeded (reply : Reply) : Prop := ∃ output, accepted reply = .ok output

/-- The program has carried a batch out, and what it printed can be read. -/
def Legible (reply : Reply) : Prop := ∃ json, received reply = .ok json

theorem Legible.succeeded {reply : Reply} (legible : Legible reply) : Succeeded reply := by
  obtain ⟨json, read⟩ := legible
  rw [received] at read
  cases isAccepted : accepted reply with
  | error error =>
      rw [isAccepted] at read
      cases read
  | ok output => exact ⟨output, isAccepted⟩

/-- The entry is a batch that has created the table and whose output can be read. -/
def HasCreated (entry : Command × Reply) : Prop := Creates entry.1 ∧ Legible entry.2

/-- The entry is a batch that has deleted the table. -/
def HasDeleted (entry : Command × Reply) : Prop := entry.1 = deletion ∧ Succeeded entry.2

/-! ## What the session knows of the table -/

/-- The session takes the table to be there if it was created last, and only takes it not to be there
if it was deleted last. -/
structure Tracks (session : Nftables) (transcript : Transcript) : Prop where
  present : Since HasCreated HasDeleted transcript → session.tablePresent = true
  absent : session.tablePresent = false → Since HasDeleted HasCreated transcript

/-- What an operation may do to the transcript and to what the session knows of the table. -/
inductive Turn (session : Nftables) (past : Transcript) : Nftables → Transcript → Prop where
  /-- No command is given. -/
  | silent {last : Nftables} (same : last.tablePresent = session.tablePresent) :
      Turn session past last past
  /-- A batch is carried out that leaves the table there. -/
  | create {last : Nftables} {command : Command} {reply : Reply}
      (present : last.tablePresent = true) : Turn session past last (past ++ [(command, reply)])
  /-- The table is deleted. -/
  | delete {last : Nftables} {reply : Reply} (succeeded : Succeeded reply) :
      Turn session past last (past ++ [(deletion, reply)])
  /-- A command creates no table, or it fails. -/
  | keep {last : Nftables} {command : Command} {reply : Reply}
      (none : ¬ HasCreated (command, reply)) (same : last.tablePresent = session.tablePresent) :
      Turn session past last (past ++ [(command, reply)])

theorem not_hasCreated_deletion {reply : Reply} : ¬ HasCreated (deletion, reply) :=
  fun created => not_creates_delete created.1

theorem Tracks.turn (tracks : session.Tracks past) (turn : Turn session past last now) :
    last.Tracks now := by
  cases turn with
  | silent same =>
      exact ⟨fun created => same.trans (tracks.present created),
        fun absent => tracks.absent (same.symm.trans absent)⟩
  | create present =>
      refine ⟨fun _ => present, fun absent => ?_⟩
      rw [present] at absent
      cases absent
  | delete succeeded =>
      constructor
      · intro created
        rcases since_append_singleton.1 created with created | ⟨notDeleted, _⟩
        · exact absurd created not_hasCreated_deletion
        · exact absurd ⟨rfl, succeeded⟩ notDeleted
      · exact fun _ => since_append_singleton.2 (.inl ⟨rfl, succeeded⟩)
  | keep none same =>
      constructor
      · intro created
        rcases since_append_singleton.1 created with created | ⟨_, created⟩
        · exact absurd created none
        · exact same.trans (tracks.present created)
      · intro absent
        exact since_append_singleton.2 (.inr ⟨none, tracks.absent (same.symm.trans absent)⟩)

/-! ## Operations -/

variable {outcome : Outcome Nftables}

theorem turn_of_done {result : Except Error Unit}
    (same : last.tablePresent = session.tablePresent)
    (ended : (done (last, result) : Talk (Outcome Nftables)).Ends Grows past outcome now) :
    Turn session past outcome.1 now := by
  obtain ⟨rfl, rfl⟩ := ends_done.1 ended
  exact .silent same

/-- A batch whose reply is an error leaves what the session knows. -/
theorem turn_of_failed {command : Command} {reply : Reply} {error : Error}
    {result : Except Error Unit} (failed : received reply = .error error)
    (ended : (done (session, result) : Talk (Outcome Nftables)).Ends Grows
      (past ++ [(command, reply)]) outcome now) :
    Turn session past outcome.1 now := by
  obtain ⟨rfl, rfl⟩ := ends_done.1 ended
  refine .keep ?_ rfl
  rintro ⟨_, json, read⟩
  rw [failed] at read
  cases read

theorem turn_of_allowAll {rules : List Rule}
    (ended : (session.allowAll rules).Ends Grows past outcome now) :
    Turn session past outcome.1 now := by
  unfold allowAll at ended
  split at ended
  · exact turn_of_done rfl ended
  · split at ended
    · exact turn_of_done rfl ended
    · exact turn_of_done rfl ended
    · obtain ⟨result, _, applied, follows⟩ := ends_bind.1 ended
      obtain ⟨reply, rfl, rfl⟩ := ends_apply_grows.1 applied
      cases read : received reply with
      | error error =>
          rw [read] at follows
          exact turn_of_failed read follows
      | ok echoed =>
          rw [read] at follows
          obtain ⟨rfl, rfl⟩ := ends_done.1 follows
          exact .create (tablePresent_settle _ _ _)

theorem turn_of_revoke {rule : Rule}
    (ended : (session.revoke rule).Ends Grows past outcome now) :
    Turn session past outcome.1 now := by
  unfold revoke at ended
  split at ended
  · exact turn_of_done rfl ended
  · split at ended
    · exact turn_of_done rfl ended
    · split at ended
      · exact turn_of_done rfl ended
      · obtain ⟨result, _, applied, follows⟩ := ends_bind.1 ended
        obtain ⟨reply, rfl, rfl⟩ := ends_apply_grows.1 applied
        cases read : received reply with
        | error error =>
            rw [read] at follows
            exact turn_of_failed read follows
        | ok _ =>
            rw [read] at follows
            obtain ⟨rfl, rfl⟩ := ends_done.1 follows
            exact .keep (fun created => not_creates_delete created.1) rfl

theorem turn_of_flush (ended : session.flush.Ends Grows past outcome now) :
    Turn session past outcome.1 now := by
  unfold flush at ended
  split at ended
  · obtain ⟨result, _, applied, follows⟩ := ends_bind.1 ended
    obtain ⟨reply, rfl, rfl⟩ := ends_apply_grows.1 applied
    cases read : received reply with
    | error error =>
        rw [read] at follows
        exact turn_of_failed read follows
    | ok json =>
        rw [read] at follows
        obtain ⟨rfl, rfl⟩ := ends_done.1 follows
        exact .delete (Legible.succeeded ⟨json, read⟩)
  · refine turn_of_done ?_ ended
    rfl

theorem turn_of_perform {request : Request}
    (ended : (request.perform session).Ends Grows past outcome now) :
    Turn session past outcome.1 now := by
  cases request with
  | allow rule =>
      rw [Request.perform, allow] at ended
      split at ended
      · exact turn_of_done rfl ended
      · exact turn_of_allowAll ended
  | allowAll rules => exact turn_of_allowAll ended
  | revoke rule => exact turn_of_revoke ended
  | flush => exact turn_of_flush ended
  | close =>
      refine turn_of_done ?_ ended
      rfl

/-- A session that has been started takes the table to be there. -/
theorem tablePresent_of_ends_start (ended : start.Ends Grows past (.ok session) now) :
    session.tablePresent = true := by
  rcases ends_start_grows.1 ended with ⟨_, _, _, isError, _⟩ | ⟨_, reply, _, taken, _⟩
  · cases isError
  · obtain ⟨listing, _, rfl⟩ := listed_eq_ok_iff.1 taken.symm
    rfl

/-! ## Runs -/

/-- A session has been started and used in any way, with any replies, and this is its transcript. -/
inductive Recorded : Nftables → Transcript → Prop where
  | start {session : Nftables} {transcript : Transcript}
      (ended : Nftables.start.Ends Grows [] (.ok session) transcript) :
      Recorded session transcript
  | perform {session : Nftables} {past now : Transcript} {request : Request}
      {outcome : Outcome Nftables} (recorded : Recorded session past)
      (ended : (request.perform session).Ends Grows past outcome now) :
      Recorded outcome.1 now

theorem Recorded.tracks (recorded : Recorded session transcript) : session.Tracks transcript := by
  induction recorded with
  | start ended =>
      have present := tablePresent_of_ends_start ended
      refine ⟨fun _ => present, fun absent => ?_⟩
      rw [present] at absent
      cases absent
  | perform _ ended ih => exact ih.turn (turn_of_perform ended)

/-- All along a run: if a batch that creates the table has been carried out and its output could be
read, and no deletion of the table has been carried out since, a flush gives the command that deletes
the table.  And a flush gives no command only if a deletion of the table has been carried out, and
since then no batch that creates it and whose output could be read. -/
theorem flush_is_not_skipped (recorded : Recorded session transcript)
    (ended : session.flush.Ends Grows transcript outcome now) :
    (Since HasCreated HasDeleted transcript →
      ∃ reply, now = transcript ++ [(deletion, reply)]) ∧
    (outcome.2 = .ok () → now = transcript → Since HasDeleted HasCreated transcript) := by
  have tracks := recorded.tracks
  unfold flush at ended
  split at ended
  · obtain ⟨result, _, applied, follows⟩ := ends_bind.1 ended
    obtain ⟨reply, rfl, rfl⟩ := ends_apply_grows.1 applied
    have given : now = transcript ++ [(deletion, reply)] := by
      cases read : received reply <;>
      · rw [read] at follows
        exact (ends_done.1 follows).2
    refine ⟨fun _ => ⟨reply, given⟩, fun _ same => ?_⟩
    rw [given] at same
    simp at same
  · rename_i absent
    have isAbsent : session.tablePresent = false := Bool.eq_false_iff.2 absent
    refine ⟨fun created => absurd (tracks.present created) absent, fun _ _ => ?_⟩
    exact tracks.absent isAbsent

/-! ### A session that is flushed twice -/

/-- The replies to the commands at the start of a session on an empty table. -/
def welcome : Transcript := [
  (batchCommand setupBatch false, .ok .silent),
  (listCommand, .ok (Ruleset.printed (batch [])))]

theorem ends_start_welcome : start.Ends Grows [] (.ok opened) welcome := by
  have listed : document (Ruleset.printed (batch [])).stdout = .ok (batch []) :=
    document_compact_eq_ok.2 (exact_batch (List.forall_mem_nil _))
  refine ends_bind.2 ⟨.ok .null, _, ends_apply_grows.2 ⟨.ok .silent, rfl, rfl⟩, ?_⟩
  refine ends_ask.2 ⟨.ok (Ruleset.printed (batch [])), _, rfl, ends_done.2 ⟨?_, rfl⟩⟩
  change _ = (document (Ruleset.printed (batch [])).stdout).bind _
  rw [listed]
  rfl

/-- A deletion of the table that is carried out. -/
def deleted : Command × Reply := (deletion, .ok .silent)

theorem ends_flush_opened {past : Transcript} :
    (Request.flush.perform opened).Ends Grows past (fresh, .ok ()) (past ++ [deleted]) :=
  ends_bind.2 ⟨_, _, ends_apply_grows.2 ⟨.ok .silent, rfl, rfl⟩, .done _ _⟩

theorem ends_flush_fresh {past : Transcript} :
    fresh.flush.Ends Grows past (fresh, .ok ()) past := .done _ _

/-- The first flush of a new session gives its command, and the second gives none, for then the table
has been deleted. -/
theorem flush_is_not_skipped_welcome :
    (∀ outcome now, opened.flush.Ends Grows welcome outcome now →
      ∃ reply, now = welcome ++ [(deletion, reply)]) ∧
    fresh.flush.Ends Grows (welcome ++ [deleted]) (fresh, .ok ()) (welcome ++ [deleted]) ∧
    Since HasDeleted HasCreated (welcome ++ [deleted]) := by
  have begun : Recorded opened welcome := .start ends_start_welcome
  have flushed : Recorded fresh (welcome ++ [deleted]) :=
    begun.perform ends_flush_opened
  refine ⟨fun outcome now ended => ?_, ends_flush_fresh, ?_⟩
  · have created : Since HasCreated HasDeleted welcome := by
      refine ⟨[], _, [_], rfl, ⟨.inl rfl, .null, rfl⟩, List.forall_mem_singleton.2 ?_⟩
      rintro ⟨same, _⟩
      cases congrArg Command.input same
    exact (flush_is_not_skipped begun ended).1 created
  · exact (flush_is_not_skipped flushed ends_flush_fresh).2 rfl rfl

/-! ### An echo that cannot be read -/

/-- A reply to a batch that has been carried out, with an output that is no document. -/
def garbled : Reply := .ok ⟨.exited 0, [63], []⟩

/-- A batch that creates the table and whose output cannot be read. -/
def unread : Command × Reply := (batchCommand (allowBatch [web]) true, garbled)

/-- The error for such a reply. -/
def unreadable : Error := .serialization "the output is no JSON document"

theorem received_garbled : received garbled = .error unreadable := by
  have noDocument : Json.parseBytes? [63] = none :=
    Option.isNone_iff_eq_none.1 (by decide +kernel)
  have read : received garbled = document [63] := rfl
  rw [read, document, noDocument]
  rfl

/-- After a batch whose output cannot be read a flush succeeds without a command, although the batch
was carried out, creates the table, and nothing has deleted it since. -/
theorem flush_is_skipped_after_unread :
    Recorded fresh (welcome ++ [deleted] ++ [unread]) ∧
    Since (fun entry => Creates entry.1 ∧ Succeeded entry.2) HasDeleted
      (welcome ++ [deleted] ++ [unread]) ∧
    fresh.flush.Ends Grows (welcome ++ [deleted] ++ [unread]) (fresh, .ok ())
      (welcome ++ [deleted] ++ [unread]) := by
  have begun : Recorded opened welcome := .start ends_start_welcome
  have flushed : Recorded fresh (welcome ++ [deleted]) :=
    begun.perform ends_flush_opened
  have failed : ((Request.allow web).perform fresh).Ends Grows (welcome ++ [deleted])
      (fresh, .error unreadable) (welcome ++ [deleted] ++ [unread]) := by
    refine ends_bind.2 ⟨_, _, ends_apply_grows.2 ⟨garbled, rfl, rfl⟩, ?_⟩
    rw [received_garbled]
    exact .done _ _
  have recorded := flushed.perform failed
  refine ⟨recorded, since_append_singleton.2 (.inl ⟨.inr ⟨_, rfl⟩, _, rfl⟩), ends_flush_fresh⟩

end Nftables

end Gatehouse.Firewall
