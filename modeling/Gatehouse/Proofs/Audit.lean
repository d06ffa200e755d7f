import Gatehouse.Audit
import Gatehouse.Proofs.Data.Utf8
import Gatehouse.Proofs.Directory.Record
import Gatehouse.Proofs.Files.Tree
import Gatehouse.Proofs.Json.Printable
import Gatehouse.Proofs.Text.Blank
/-!
# Reading back the audit log

The line of an event is a single line whatever texts the event holds, for the control characters in
them are escaped, and it is read back as the event.  So a log to which events have been added one
after the other has a line for each of them, and the latest events are read back from it.
-/

namespace Gatehouse.Audit

open Dialogue

variable {tree : FileTree} {path : String} {content : Bytes}

/-! ## Single events -/

theorem Kind.ofName?_name (kind : Kind) : Kind.ofName? kind.name = some kind := by
  cases kind <;> decide

namespace Event

/-- The members of the document of an event as they are read. -/
def members (event : Event) : List (String × Draft) := [
  ("timestamp", .string (some (Timestamp.text event.timestamp))),
  ("event_type", .string (some event.kind.name)), ("success", .bool event.success),
  ("details", event.details.reread), ("error", Draft.ofJson (.ofText? event.error))]

theorem reread_document (event : Event) :
    event.document.reread = .object (Draft.Fields.named event.members) := by
  simp only [document, Json.reread, Json.rereadMembers, Json.reread_ofText?]
  rfl

/-- An event is read back from its text, if its details are. -/
theorem ofLine?_compact {event : Event} (details : event.details.Exact (Draft.deepest - 1)) :
    ofLine? event.document.compact = some event := by
  have value : Draft.value (Draft.deepest - 1) event.details.reread = .ok event.details := by
    have found : event.details.reread.toJson? (Draft.deepest - 1) = some event.details := details
    simp only [Draft.value, found]
  have reads : fields.Reads _ event :=
    Draft.Fields.Reads.map Event.mk (.single (Draft.spelled_string (Timestamp.parse?_text _)))
      |>.seq (.single (Draft.choice_string (Kind.ofName?_name _)))
      |>.seq (.single (Draft.boolean_bool _)) |>.seq (.single value)
      |>.seq (.single (Draft.optional_text _))
  have isRead : fields.read (.object (Draft.Fields.named event.members)) = .ok event :=
    reads.read_named (by simp)
  rw [ofLine?, Draft.readText_compact, reread_document, isRead]
  rfl

/-- The text of an event is a single line. -/
theorem newline_notMem_compact (event : Event) : '\n' ∉ event.document.compact.toList :=
  Json.notMem_compact (by decide) _

theorem getLast?_compact_ne (event : Event) :
    event.document.compact.toList.getLast? ≠ some '\r' :=
  fun isLast => Json.notMem_compact (by decide) _ (List.mem_of_getLast? isLast)

end Event

/-! ## Events that the program logs -/

/-- Something that the program adds to the log. -/
inductive Entry where
  /-- A decision about access. -/
  | access (now : Instant) (kind : Kind) (username : String) (client : Address)
  /-- A change to the packet filter. -/
  | change (now : Instant) (kind : Kind) (backend : String) (rule : Option Firewall.Rule)
      (actor : String) (error : Option String)

/-- The event of an entry. -/
def Entry.event : Entry → Event
  | .access now kind username client => .ofAccess now kind username client
  | .change now kind backend rule actor error => .ofChange now kind backend rule actor error

theorem exact_ofMembers {members : List (String × Json)} {room : Nat}
    (exact : ∀ member ∈ members, member.2.Exact room) :
    (Json.ofMembers members).Exact (room + 1) :=
  Json.exact_object (SortedMap.sorted _) fun _ isMember =>
    exact _ (SortedMap.mem_of_mem_ofList isMember)

theorem Entry.exact_details (entry : Entry) : entry.event.details.Exact (Draft.deepest - 1) := by
  cases entry with
  | access now kind username client =>
      refine exact_ofMembers ?_
      simp only [List.forall_mem_cons]
      exact ⟨Json.exact_string _ _, Json.exact_string _ _, List.forall_mem_nil _⟩
  | change now kind backend rule actor error =>
      refine exact_ofMembers ?_
      simp only [List.forall_mem_cons]
      exact ⟨Json.exact_string _ _, Json.exact_ofText? _ _, Json.exact_string _ _,
        List.forall_mem_nil _⟩

/-! ## Logs -/

/-- The text of a log with some events. -/
def text (events : List Event) : String := String.join (events.map Event.line)

/-- Such a log has a line for each event. -/
theorem lines_text (events : List Event) :
    Text.lines (text events) = events.map fun event => event.document.compact := by
  have joined : text events =
      String.join ((events.map fun event => event.document.compact).map (· ++ "\n")) := by
    rw [text, List.map_map]
    rfl
  rw [joined, Text.lines_join]
  · exact List.forall_mem_map.2 fun event _ => event.newline_notMem_compact
  · exact List.forall_mem_map.2 fun event _ => event.getLast?_compact_ne

/-- Events are read back from their texts, if all of them can be. -/
theorem filterMap_ofLine?_compact {events : List Event}
    (exact : ∀ event ∈ events, event.details.Exact (Draft.deepest - 1)) :
    (events.map fun event => event.document.compact).filterMap Event.ofLine? = events := by
  induction events with
  | nil => rfl
  | cons event rest ih =>
      obtain ⟨details, others⟩ := List.forall_mem_cons.1 exact
      rw [List.map_cons, List.filterMap_cons_some (Event.ofLine?_compact details), ih others]

/-- The latest events of such a log. -/
theorem recent_text {events : List Event}
    (exact : ∀ event ∈ events, event.details.Exact (Draft.deepest - 1)) (count : Nat) :
    recent count (text events) = events.reverse.take count := by
  rw [recent, lines_text, ← List.map_reverse, ← List.map_take]
  exact filterMap_ofLine?_compact fun event isMember =>
    exact event (List.mem_reverse.1 (List.mem_of_mem_take isMember))

/-- Add events to a log one after the other. -/
def recordAll (path : String) : List Event → FileTalk Unit
  | [] => .done ()
  | event :: rest => (record path event).bind fun _ => recordAll path rest

theorem text_cons (event : Event) (rest : List Event) :
    text (event :: rest) = event.line ++ text rest := by
  rw [text, List.map_cons, String.join_cons, text]

/-- An event is added at the end of a log. -/
theorem exists_record (holds : tree.Holds path content) (event : Event) :
    ∃ after, (record path event).run FileTree.answer tree = ((), after) ∧
      after.read path = .ok (content ++ Utf8.encode event.line) := by
  obtain ⟨after, appended, read⟩ := holds.append (Utf8.encode event.line)
  refine ⟨after, ?_, read⟩
  have answered : FileTree.answer tree (.append path event.line) = (.ok (), after) := by
    rw [FileTree.answer, appended, FileTree.settle]
  rw [record, Dialogue.run, answered, run_done]

/-- Events are added at the end of a log, which is there then unless there are none. -/
theorem exists_recordAll (holds : tree.Holds path content) (events : List Event)
    (isLog : events ≠ [] ∨ tree.read path = .ok content) :
    ∃ after, (recordAll path events).run FileTree.answer tree = ((), after) ∧
      after.read path = .ok (content ++ Utf8.encode (text events)) := by
  induction events generalizing tree content with
  | nil =>
      refine ⟨tree, rfl, ?_⟩
      rw [isLog.resolve_left fun notEmpty => notEmpty rfl]
      exact congrArg Except.ok (List.append_nil content).symm
  | cons event rest ih =>
      obtain ⟨middle, recorded, read⟩ := exists_record holds event
      obtain ⟨after, others, last⟩ := ih (.file read) (.inr read)
      refine ⟨after, ?_, ?_⟩
      · rw [recordAll, run_bind, recorded, others]
      · rw [last, text_cons, Utf8.encode_append, List.append_assoc]

/-- However many events are added, the path leads to the log or to a place for it. -/
theorem exists_holds_recordAll (holds : tree.Holds path content) (events : List Event) :
    ∃ after, (recordAll path events).run FileTree.answer tree = ((), after) ∧
      after.Holds path (content ++ Utf8.encode (text events)) := by
  cases events with
  | nil => exact ⟨tree, rfl, (List.append_nil content).symm ▸ holds⟩
  | cons event rest =>
      obtain ⟨after, recorded, read⟩ :=
        exists_recordAll holds (event :: rest) (.inl (List.cons_ne_nil _ _))
      exact ⟨after, recorded, .file read⟩

/-- What is added to a log is read back from it. -/
theorem exists_log_recordAll (holds : tree.Holds path content) {events : List Event}
    (exact : ∀ event ∈ events, event.details.Exact (Draft.deepest - 1)) :
    ∃ after log, (recordAll path events).run FileTree.answer tree = ((), after) ∧
      after.Holds path (content ++ Utf8.encode log) ∧
      (Text.lines log).filterMap Event.ofLine? = events := by
  obtain ⟨after, recorded, holdsAfter⟩ := exists_holds_recordAll holds events
  refine ⟨after, text events, recorded, holdsAfter, ?_⟩
  rw [lines_text, filterMap_ofLine?_compact exact]

/-- The latest events are read from a log that can be read. -/
theorem run_readRecent {log : String} (read : tree.read path = .ok (Utf8.encode log))
    (count : Nat) :
    (readRecent path count).run FileTree.answer tree = (.ok (recent count log), tree) := by
  have answered : FileTree.answer tree (.read path) = (.ok (Utf8.encode log), tree) := by
    rw [FileTree.answer, read]
  rw [readRecent, Dialogue.run, answered]
  simp only [Utf8.text?_encode, run_done]

/-- A log that starts empty has a line for each of the entries that have been added to it, and the
latest events that are read back from it are the latest entries, newest first, whatever texts they
hold. -/
theorem log_is_read_back (empty : tree.Holds path []) (entries : List Entry)
    (isLog : entries ≠ [] ∨ tree.read path = .ok []) :
    ∃ after log, (recordAll path (entries.map Entry.event)).run FileTree.answer tree =
        ((), after) ∧
      after.read path = .ok (Utf8.encode log) ∧
      Text.lines log = entries.map (fun entry => entry.event.document.compact) ∧
      ∀ count, (readRecent path count).run FileTree.answer after =
        (.ok ((entries.map Entry.event).reverse.take count), after) := by
  have isLogOfEvents : entries.map Entry.event ≠ [] ∨ tree.read path = .ok [] :=
    isLog.imp_left fun notEmpty => by simpa using notEmpty
  obtain ⟨after, recorded, read⟩ :=
    exists_recordAll empty (entries.map Entry.event) isLogOfEvents
  rw [List.nil_append] at read
  refine ⟨after, text (entries.map Entry.event), recorded, read, ?_, fun count => ?_⟩
  · rw [lines_text, List.map_map]
    rfl
  · rw [run_readRecent read, recent_text]
    exact List.forall_mem_map.2 fun entry _ => entry.exact_details

/-! ### A name that looks like a line -/

/-- A failed sign-in with a name that holds the end of a line and the start of another one. -/
def forgery : Entry :=
  .access .epoch .loginFailed "root\",\"client\":\"\"\x7d\x7d\n\x7b\"success\":true" .unspecified

/-- A path at which there is no log yet leads to a place for one. -/
theorem holds_empty : FileTree.empty.Holds "audit.log" [] := by
  have isChecked : FileTree.checked "audit.log" = .ok () := rfl
  have steps : Path.steps "audit.log" = ["audit.log"] := by decide
  have target : FileTree.empty.target "audit.log" = .ok ["audit.log"] := by
    have front : ["audit.log"].dropLast = [] := rfl
    simp only [FileTree.target, isChecked, steps, front, FileTree.follow]
    rfl
  refine .free ?_ target rfl
  simp only [FileTree.resolve, isChecked, steps, FileTree.follow]
  rfl

/-- A sign-in with such a name is one line, and is read back with that name. -/
theorem log_is_read_back_forgery :
    FileTree.empty.Holds "audit.log" [] ∧
    ∃ after log, (recordAll "audit.log" [forgery.event]).run FileTree.answer .empty = ((), after) ∧
      after.read "audit.log" = .ok (Utf8.encode log) ∧ (Text.lines log).length = 1 ∧
      (readRecent "audit.log" 5).run FileTree.answer after = (.ok [forgery.event], after) := by
  obtain ⟨after, log, recorded, read, lines, recent⟩ :=
    log_is_read_back holds_empty [forgery] (.inl (List.cons_ne_nil _ _))
  refine ⟨holds_empty, after, log, recorded, read, ?_, recent 5⟩
  rw [lines]
  rfl

end Gatehouse.Audit
