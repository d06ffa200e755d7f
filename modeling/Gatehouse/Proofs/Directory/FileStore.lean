import Gatehouse.Directory.FileStore
import Gatehouse.Proofs.Dialogue
import Gatehouse.Proofs.Directory.Store
import Gatehouse.Proofs.Json.Canonical
/-!
# Memory and file of a store

A disk may fail at any call, and then the file is as it was.  Since a change that cannot be written is
taken back in memory, a store that is kept in a file always holds what its file holds, and it
answers as a store in memory does.
-/

namespace Gatehouse

/-! ## Disks that may fail -/

/-- The answer to a call that fails. -/
def DiskCall.failure (detail : String) : (call : DiskCall) → call.Answer
  | .read => .error detail
  | .write _ => .error detail

namespace FileContent

/-- What a file holds after a text was written to it. -/
def ofText (text : String) : FileContent := .bytes (Utf8.encode text)

/-- Answer a call, with what the file holds afterwards. -/
def answer (content : FileContent) : (call : DiskCall) → call.Answer × FileContent
  | .read => (.ok content, content)
  | .write text => (.ok (), ofText text)

/-- The answers that a disk may give to a call, and what the file holds afterwards. -/
def MayReply (content : FileContent) (call : DiskCall) (answer : call.Answer)
    (after : FileContent) : Prop :=
  (answer, after) = content.answer call ∨
    ∃ detail, answer = call.failure detail ∧ after = content

theorem mayReply_answer (content : FileContent) (call : DiskCall) :
    content.MayReply call (content.answer call).1 (content.answer call).2 :=
  .inl rfl

variable {content after : FileContent}

theorem mayReply_read {answer : Except String FileContent} :
    content.MayReply .read answer after ↔
      (answer = .ok content ∨ ∃ detail, answer = .error detail) ∧ after = content := by
  constructor
  · rintro (served | ⟨detail, failed, rfl⟩)
    · cases served
      exact ⟨.inl rfl, rfl⟩
    · exact ⟨.inr ⟨detail, failed⟩, rfl⟩
  · rintro ⟨rfl | ⟨detail, rfl⟩, rfl⟩
    · exact .inl rfl
    · exact .inr ⟨detail, rfl, rfl⟩

theorem mayReply_write {text : String} {answer : Except String Unit} :
    content.MayReply (.write text) answer after ↔
      answer = .ok () ∧ after = ofText text ∨ (∃ detail, answer = .error detail) ∧ after = content := by
  constructor
  · rintro (served | ⟨detail, failed, rfl⟩)
    · cases served
      exact .inl ⟨rfl, rfl⟩
    · exact .inr ⟨⟨detail, failed⟩, rfl⟩
  · rintro (⟨rfl, rfl⟩ | ⟨⟨detail, rfl⟩, rfl⟩)
    · exact .inl rfl
    · exact .inr ⟨detail, rfl, rfl⟩

end FileContent

/-! ## Answers of stores -/

/-- Whether an answer tells that the call has failed. -/
def StoreCall.fails : (call : StoreCall) → call.Answer → Bool
  | .get _, .error _ => true
  | .set _ _, .error _ => true
  | .delete _, .error _ => true
  | .scan _, .error _ => true
  | _, _ => false

/-- Whether an answer tells that the call has changed the store. -/
def StoreCall.changes : (call : StoreCall) → call.Answer → Bool
  | .set _ _, .ok _ => true
  | .delete _, .ok found => found
  | _, _ => false

namespace FileStore

variable {memory next : Store} {file left : FileContent} {key : String}

/-! ## Taking back a change -/

theorem putBack_insert (memory : Store) (key : String) (value : Json) :
    putBack (memory.insert key value) key (memory.get? key) = memory := by
  refine SortedMap.ext_get? fun other => ?_
  cases held : memory.get? key with
  | none =>
      by_cases same : other = key
      · rw [same, putBack, SortedMap.get?_erase_self, held]
      · rw [putBack, SortedMap.get?_erase_of_ne _ same, SortedMap.get?_insert_of_ne _ _ same]
  | some previous =>
      by_cases same : other = key
      · rw [same, putBack, SortedMap.get?_insert_self, held]
      · rw [putBack, SortedMap.get?_insert_of_ne _ _ same, SortedMap.get?_insert_of_ne _ _ same]

theorem putBack_erase {previous : Json} (held : memory.get? key = some previous) :
    putBack (memory.erase key) key (some previous) = memory := by
  refine SortedMap.ext_get? fun other => ?_
  by_cases same : other = key
  · rw [same, putBack, SortedMap.get?_insert_self, held]
  · rw [putBack, SortedMap.get?_insert_of_ne _ _ same, SortedMap.get?_erase_of_ne _ same]

/-- A change is written, or it cannot be written and is taken back. -/
theorem ends_commit {α : Type} {changed : Store} {previous : Option Json} {value : α}
    {result : Except StoreError α} (back : putBack changed key previous = memory)
    (ended : (commit changed key previous value).Ends FileContent.MayReply file (result, next)
      left) :
    (result = .ok value ∧ next = changed ∧ left = .ofText (text changed)) ∨
      (∃ detail, result = .error (.io detail)) ∧ next = memory ∧ left = file := by
  obtain ⟨answer, middle, replied, last⟩ := Dialogue.ends_ask.1 ended
  rcases FileContent.mayReply_write.1 replied with ⟨rfl, rfl⟩ | ⟨⟨detail, rfl⟩, rfl⟩
  · cases last
    exact .inl ⟨rfl, rfl, rfl⟩
  · cases last
    exact .inr ⟨⟨detail, rfl⟩, back, rfl⟩

/-! ## Calls -/

/-- A call either fails and leaves memory and file as they are, or it is answered as in memory.  Only a
call that changes something writes to the file. -/
theorem ends_answer {call : StoreCall} {reply : call.Answer}
    (ended : (answer memory call).Ends FileContent.MayReply file (reply, next) left) :
    (call.fails reply = true ∧ next = memory ∧ left = file) ∨
      (call.fails reply = false ∧ (reply, next) = memory.answer call ∧
        if call.changes reply then left = .ofText (text next) else next = memory ∧ left = file) := by
  cases call with
  | set key value =>
      rcases ends_commit (putBack_insert memory key value) ended with
        ⟨rfl, rfl, rfl⟩ | ⟨⟨detail, rfl⟩, rfl, rfl⟩
      · exact .inr ⟨rfl, rfl, rfl⟩
      · exact .inl ⟨rfl, rfl, rfl⟩
  | delete key =>
      cases held : memory.get? key with
      | none =>
          simp only [answer, held] at ended
          cases ended
          have absent : memory.contains key = false := by rw [SortedMap.contains, held]; rfl
          refine .inr ⟨rfl, ?_, rfl, rfl⟩
          rw [Store.answer, absent, SortedMap.erase_eq_self held]
      | some previous =>
          simp only [answer, held] at ended
          have present : memory.contains key = true := by rw [SortedMap.contains, held]; rfl
          rcases ends_commit (putBack_erase held) ended with
            ⟨rfl, rfl, rfl⟩ | ⟨⟨detail, rfl⟩, rfl, rfl⟩
          · refine .inr ⟨rfl, ?_, rfl⟩
            rw [Store.answer, present]
          · exact .inl ⟨rfl, rfl, rfl⟩
  | _ =>
      cases ended
      exact .inr ⟨rfl, rfl, rfl, rfl⟩

/-! ## Disks that work -/

theorem run_commit {α : Type} (changed : Store) (key : String) (previous : Option Json) (value : α)
    (file : FileContent) :
    (commit changed key previous value).run FileContent.answer file =
      ((.ok value, changed), .ofText (text changed)) := rfl

/-- With a disk that works, a call is answered as in memory. -/
theorem exists_run_answer (memory : Store) (file : FileContent) (call : StoreCall) :
    ∃ left, (answer memory call).run FileContent.answer file = (memory.answer call, left) := by
  cases call with
  | set key value => exact ⟨_, run_commit ..⟩
  | delete key =>
      cases held : memory.get? key with
      | none =>
          refine ⟨file, ?_⟩
          simp only [answer, Store.answer, SortedMap.contains, held, Option.isSome_none,
            SortedMap.erase_eq_self held, Dialogue.run_done]
      | some previous =>
          refine ⟨.ofText (text (memory.erase key)), ?_⟩
          simp only [answer, Store.answer, SortedMap.contains, held, Option.isSome_some, run_commit]
  | _ => exact ⟨file, rfl⟩

/-- With a disk that works, a computation on a store in a file runs as on one in memory. -/
theorem exists_run_serve {α : Type} (visit : Visit α) (memory : Store) (file : FileContent) :
    ∃ left, (serve visit memory).run FileContent.answer file =
      (visit.run Store.answer memory, left) := by
  unfold serve
  induction visit generalizing memory file with
  | done value => exact ⟨file, rfl⟩
  | ask call next ih =>
      obtain ⟨middle, answered⟩ := exists_run_answer memory file call
      obtain ⟨left, rest⟩ := ih _ (memory.answer call).2 middle
      exact ⟨left, by rw [Dialogue.interpret, Dialogue.run_bind, answered, rest, Dialogue.run]⟩

/-! ## Opening -/

/-- How deep the document of an entry may be nested, one level below the object of all entries. -/
def deepestEntry : Nat := 126

/-- The entries are read back from the text that is written for them, if their documents are. -/
theorem parse?_text {store : Store} (exact : ∀ entry ∈ store.toList, entry.2.Exact deepestEntry) :
    parse? (Utf8.encode (text store)) = some store := by
  have back : store.document.Exact Draft.deepest := Json.exact_object store.sorted exact
  have read : Json.parseBytes? (Utf8.encode (text store)) = some (.object store.toList) :=
    (Json.parseBytes?_pretty store.document).trans back
  rw [parse?, read]
  exact congrArg some (SortedMap.ofList_toList store)

theorem parse?_text_empty : parse? (Utf8.encode (text .empty)) = some .empty :=
  parse?_text fun _ isMember => nomatch isMember

/-- A store opens with the entries of its file, or without entries in a new file. -/
theorem ends_load {name : String}
    (ended : (load name).Ends FileContent.MayReply file (.ok memory) left) :
    (∃ bytes, file = .bytes bytes ∧ parse? bytes = some memory ∧ left = file) ∨
      file = .missing ∧ memory = .empty ∧ left = .ofText (text .empty) := by
  obtain ⟨answer, middle, replied, rest⟩ := Dialogue.ends_ask.1 ended
  obtain ⟨rfl | ⟨detail, rfl⟩, rfl⟩ := FileContent.mayReply_read.1 replied
  · cases middle with
    | bytes content =>
        dsimp only at rest
        cases parsed : parse? content with
        | none =>
            rw [parsed] at rest
            cases rest
        | some store =>
            rw [parsed] at rest
            cases rest
            exact .inl ⟨content, rfl, parsed, rfl⟩
    | missing =>
        obtain ⟨answer, made, replied, rest⟩ := Dialogue.ends_ask.1 rest
        rcases FileContent.mayReply_write.1 replied with ⟨rfl, rfl⟩ | ⟨⟨detail, rfl⟩, rfl⟩
        · cases rest
          exact .inr ⟨rfl, rfl, rfl⟩
        · cases rest
  · cases rest

/-- The file of a store that opens holds a text that is read as the entries. -/
theorem exists_bytes_of_ends_load {name : String}
    (ended : (load name).Ends FileContent.MayReply file (.ok memory) left) :
    ∃ bytes, left = .bytes bytes ∧ parse? bytes = some memory := by
  rcases ends_load ended with ⟨bytes, rfl, parsed, rfl⟩ | ⟨rfl, rfl, rfl⟩
  · exact ⟨bytes, rfl, parsed⟩
  · exact ⟨_, rfl, parse?_text_empty⟩

end FileStore

end Gatehouse
