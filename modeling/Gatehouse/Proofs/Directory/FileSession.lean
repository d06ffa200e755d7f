import Gatehouse.Proofs.Directory.FileStore
/-!
# Sessions on a store in a file

A session opens a store and then makes calls, of which any may fail.  After every call the file holds
the text of what is in memory, or it is still the file that was opened.
-/

namespace Gatehouse

/-- A call that was made, with its answer. -/
structure StoreEvent where
  call : StoreCall
  answer : call.Answer

namespace StoreEvent

/-- Whether the call has failed. -/
def fails (event : StoreEvent) : Bool := event.call.fails event.answer

/-- Whether the call has changed the store. -/
def changes (event : StoreEvent) : Bool := event.call.changes event.answer

end StoreEvent

theorem StoreCall.changes_of_fails {call : StoreCall} {answer : call.Answer}
    (failed : call.fails answer = true) : call.changes answer = false := by
  cases call with
  | set key value =>
      cases answer with
      | error cause => rfl
      | ok => cases failed
  | delete key =>
      cases answer with
      | error cause => rfl
      | ok found => cases failed
  | _ => rfl

namespace Store

variable {store after : Store}

/-- What a store in memory answers to calls that are made one after the other. -/
def events (store : Store) : List StoreCall → List StoreEvent
  | [] => []
  | call :: rest => ⟨call, (store.answer call).1⟩ :: (store.answer call).2.events rest

/-- What a call that succeeds tells and does: a look changes nothing, and a change is one of its own
key. -/
def Effect (store : Store) : (call : StoreCall) → call.Answer → Store → Prop
  | .get key, answer, after => answer = .ok (store.get? key) ∧ after = store
  | .set key value, answer, after =>
      answer = .ok () ∧ after.get? key = some value ∧
        ∀ other, other ≠ key → after.get? other = store.get? other
  | .delete key, answer, after =>
      answer = .ok (store.contains key) ∧ after.get? key = none ∧
        ∀ other, other ≠ key → after.get? other = store.get? other
  | .scan start, answer, after => answer = .ok (store.scan start) ∧ after = store
  | .lock, _, after => after = store
  | .unlock, _, after => after = store

theorem effect_of_eq_answer {call : StoreCall} {answer : call.Answer}
    (served : (answer, after) = store.answer call) : store.Effect call answer after := by
  cases call with
  | set key value =>
      cases served
      exact ⟨rfl, SortedMap.get?_insert_self _ _ _,
        fun other apart => SortedMap.get?_insert_of_ne _ _ apart⟩
  | delete key =>
      cases served
      exact ⟨rfl, SortedMap.get?_erase_self _ _,
        fun other apart => SortedMap.get?_erase_of_ne _ apart⟩
  | lock | unlock =>
      cases served
      rfl
  | _ =>
      cases served
      exact ⟨rfl, rfl⟩

end Store

namespace FileStore

/-- Calls are made one after the other, from some contents of memory and file to others. -/
inductive Session : Store → FileContent → List StoreEvent → Store → FileContent → Prop where
  | done (memory : Store) (file : FileContent) : Session memory file [] memory file
  | call {memory next after : Store} {file left last : FileContent} {call : StoreCall}
      {reply : call.Answer} {events : List StoreEvent}
      (answered : (answer memory call).Ends FileContent.MayReply file (reply, next) left)
      (rest : Session next left events after last) :
      Session memory file (⟨call, reply⟩ :: events) after last

section

variable {memory initial : Store} {file start content : FileContent} {events : List StoreEvent}

/-- Memory and file are as they were as long as no call has changed anything, and from the first
change on the file holds the text of what is in memory. -/
theorem Session.file_eq (session : Session initial start events memory file) :
    if events.any StoreEvent.changes then file = .ofText (text memory)
    else memory = initial ∧ file = start := by
  induction session with
  | done memory file => exact ⟨rfl, rfl⟩
  | call answered rest ih =>
      rename_i memory next after file left last call reply events
      have isHead : StoreEvent.changes ⟨call, reply⟩ = call.changes reply := rfl
      rw [List.any_cons, isHead]
      rcases ends_answer answered with ⟨failed, rfl, rfl⟩ | ⟨_, _, written⟩
      · rw [StoreCall.changes_of_fails failed]
        exact ih
      · cases changed : call.changes reply with
        | false =>
            rw [changed, if_neg Bool.false_ne_true] at written
            obtain ⟨rfl, rfl⟩ := written
            exact ih
        | true =>
            rw [changed, if_pos rfl] at written
            rw [Bool.true_or, if_pos rfl]
            split at ih
            · exact ih
            · rw [ih.1, ih.2, written]

/-- Without failures a session is one with a store in memory. -/
theorem Session.eq_events (session : Session initial start events memory file)
    (succeeds : ∀ event ∈ events, event.fails = false) :
    events = initial.events (events.map StoreEvent.call) := by
  induction session with
  | done memory file => rfl
  | call answered rest ih =>
      obtain ⟨succeeded, others⟩ := List.forall_mem_cons.1 succeeds
      rcases ends_answer answered with ⟨failed, _⟩ | ⟨_, served, _⟩
      · rw [StoreEvent.fails, failed] at succeeded
        cases succeeded
      · rw [List.map_cons, Store.events, ← served, ← ih others]

/-- A store in a file never holds anything else than its file, whichever of its calls fail: it starts
with what the file is read as, a call that fails changes neither, one that succeeds changes its own
key, and calls of which none has failed are answered as in memory.  On a disk that works none fails, so
that no computation can tell the store from one in memory. -/
theorem memory_and_file_agree {name : String}
    (opened : (load name).Ends FileContent.MayReply content (.ok initial) start)
    (session : Session initial start events memory file) :
    ((∃ bytes, start = .bytes bytes ∧ parse? bytes = some initial) ∧
        (content ≠ .missing → start = content)) ∧
      (if events.any StoreEvent.changes then file = .ofText (text memory)
        else memory = initial ∧ file = start) ∧
      (∀ {call : StoreCall} {reply : call.Answer} {next : Store} {left : FileContent},
        (answer memory call).Ends FileContent.MayReply file (reply, next) left →
          if call.fails reply then next = memory ∧ left = file
          else memory.Effect call reply next) ∧
      ((∀ event ∈ events, event.fails = false) →
        events = initial.events (events.map StoreEvent.call)) ∧
      ∀ {α : Type} (visit : Visit α), ∃ left,
        (serve visit memory).run FileContent.answer file =
          (visit.run Store.answer memory, left) := by
  refine ⟨⟨exists_bytes_of_ends_load opened, fun present => ?_⟩, session.file_eq, ?_,
    session.eq_events, fun visit => exists_run_serve visit memory file⟩
  · rcases ends_load opened with ⟨_, _, _, same⟩ | ⟨missing, _⟩
    · exact same
    · exact absurd missing present
  · intro call reply next left answered
    rcases ends_answer answered with ⟨failed, same⟩ | ⟨succeeded, served, _⟩
    · rw [failed]
      exact same
    · rw [succeeded]
      exact Store.effect_of_eq_answer served

end

/-! ### A change that is refused -/

namespace Refused

/-- What the disk says. -/
def detail : String := "no space left on device"

/-- The store after the first call. -/
def held : Store := SortedMap.empty.insert "user:ada" (.bool true)

/-- An entry is made, and then the disk refuses to replace it and to remove it. -/
def events : List StoreEvent := [
  ⟨.set "user:ada" (.bool true), .ok ()⟩, ⟨.set "user:ada" .null, .error (.io detail)⟩,
  ⟨.delete "user:ada", .error (.io detail)⟩]

theorem opened : (load "directory.json").Ends FileContent.MayReply .missing (.ok .empty)
    (.ofText (text .empty)) :=
  .ask (FileContent.mayReply_read.2 ⟨.inl rfl, rfl⟩)
    (.ask (FileContent.mayReply_write.2 (.inl ⟨rfl, rfl⟩)) (.done _ _))

theorem session :
    Session .empty (.ofText (text .empty)) events held (.ofText (text held)) := by
  have refused (changed : Store) : (FileContent.ofText (text held)).MayReply (.write (text changed))
      (.error detail) (.ofText (text held)) :=
    FileContent.mayReply_write.2 (.inr ⟨⟨detail, rfl⟩, rfl⟩)
  have added : (answer .empty (.set "user:ada" (.bool true))).Ends FileContent.MayReply
      (.ofText (text .empty)) (.ok (), held) (.ofText (text held)) :=
    .ask (FileContent.mayReply_write.2 (.inl ⟨rfl, rfl⟩)) (.done _ _)
  have kept : (answer held (.set "user:ada" .null)).Ends FileContent.MayReply
      (.ofText (text held)) (.error (.io detail), held) (.ofText (text held)) := by
    refine .ask (refused _) (Dialogue.ends_done.2 ⟨?_, rfl⟩)
    rw [putBack_insert]
  have present : held.get? "user:ada" = some (.bool true) := SortedMap.get?_insert_self _ _ _
  have stays : (answer held (.delete "user:ada")).Ends FileContent.MayReply
      (.ofText (text held)) (.error (.io detail), held) (.ofText (text held)) := by
    rw [answer, present]
    refine .ask (refused _) (Dialogue.ends_done.2 ⟨?_, rfl⟩)
    rw [putBack_erase present]
  exact .call added (.call kept (.call stays (.done _ _)))

/-- Memory and file still hold the entry, and the next attempt to remove it is answered as it should
be. -/
theorem memory_and_file_agree_refused :
    (load "directory.json").Ends FileContent.MayReply .missing (.ok .empty)
        (.ofText (text .empty)) ∧
      Session .empty (.ofText (text .empty)) events held (.ofText (text held)) ∧
      ∀ reply next left, (answer held (.delete "user:ada")).Ends FileContent.MayReply
          (.ofText (text held)) (reply, next) left →
        if StoreCall.fails (.delete "user:ada") reply then next = held ∧ left = .ofText (text held)
        else held.Effect (.delete "user:ada") reply next :=
  ⟨opened, session, fun _ _ _ => (memory_and_file_agree opened session).2.2.1⟩

end Refused

end FileStore

end Gatehouse
