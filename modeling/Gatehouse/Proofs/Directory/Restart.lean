import Gatehouse.Proofs.Directory.Additions
import Gatehouse.Proofs.Directory.FileStore
/-!
# Directories that are opened again

The directory stores nothing but documents of records, and each of them is read back from a text as it
was.  So the file of a directory always holds all of its records, whichever operations have run and
whatever the disk has refused, and a directory that is opened again is the one that was left.
-/

namespace Gatehouse.Directory

open FileStore (deepestEntry)

variable {memory next : Store} {file left : FileContent}

/-- How memory and file of a directory may be: its store was opened with a new file, operations ran on
it, and it was opened again, in any order and with a disk that may fail at any call. -/
inductive Filed : Store → FileContent → Prop where
  | opened {name : String} {memory : Store} {file : FileContent}
      (loaded : (FileStore.load name).Ends FileContent.MayReply .missing (.ok memory) file) :
      Filed memory file
  | performed (request : Request) {result : Except DirectoryError request.Result}
      {memory next : Store} {file left : FileContent} (filed : Filed memory file)
      (served : (FileStore.serve request.perform memory).Ends FileContent.MayReply file
        (result, next) left) :
      Filed next left
  | reopened {name : String} {memory again : Store} {file left : FileContent}
      (filed : Filed memory file)
      (loaded : (FileStore.load name).Ends FileContent.MayReply file (.ok again) left) :
      Filed again left

/-! ## What the file tells -/

/-- The file holds the text of the entries, and every entry is read back from it as it is. -/
structure Faithful (memory : Store) (file : FileContent) : Prop where
  written : file = .ofText (FileStore.text memory)
  exact : ∀ key json, memory.get? key = some json → json.Exact deepestEntry

/-- A call stores only what is read back from a file as it is. -/
def Storable : StoreCall → Prop
  | .set _ value => value.Exact deepestEntry
  | _ => True

theorem storable_perform (request : Request) : request.perform.Asks Storable :=
  asks_perform request trivial trivial (fun _ => trivial) (fun _ => trivial) (fun _ => trivial)
    fun _ record => LawfulRecord.exact_document record 125

namespace Faithful

variable (faithful : Faithful memory file)

include faithful

theorem parse?_text : FileStore.parse? (Utf8.encode (FileStore.text memory)) = some memory :=
  FileStore.parse?_text fun entry isMember =>
    faithful.exact entry.1 entry.2 ((SortedMap.mem_toList_iff ..).1 isMember)

/-- A call on the store keeps its file faithful. -/
theorem answer {call : StoreCall} {reply : call.Answer} (storable : Storable call)
    (answered : (FileStore.answer memory call).Ends FileContent.MayReply file (reply, next) left) :
    Faithful next left := by
  rcases FileStore.ends_answer answered with ⟨_, rfl, rfl⟩ | ⟨_, served, written⟩
  · exact faithful
  cases changed : call.changes reply with
  | false =>
      rw [changed, if_neg Bool.false_ne_true] at written
      obtain ⟨rfl, rfl⟩ := written
      exact faithful
  | true =>
      rw [changed, if_pos rfl] at written
      refine ⟨written, fun key json found => ?_⟩
      cases call with
      | set other value =>
          cases served
          rw [SortedMap.get?_insert] at found
          split at found
          · cases found
            exact storable
          · exact faithful.exact key json found
      | delete other =>
          cases served
          exact faithful.exact key json (SortedMap.get?_erase_eq_some.1 found).2
      | _ => cases changed

/-- A computation on the store keeps its file faithful. -/
theorem serve {α : Type} {visit : Visit α} {result : α} (storable : visit.Asks Storable)
    (served : (FileStore.serve visit memory).Ends FileContent.MayReply file (result, next) left) :
    Faithful next left := by
  have kept : visit.Upholds
      (fun (states : Store × FileContent) call reply (after : Store × FileContent) =>
        (FileStore.answer states.1 call).Ends FileContent.MayReply states.2 (reply, after.1) after.2)
      fun states => Faithful states.1 states.2 :=
    storable.upholds fun permitted _ _ _ faithful answered => faithful.answer permitted answered
  exact kept.keeps (memory, file) result (next, left) faithful (Dialogue.ends_interpret.1 served)

/-- A store that is opened again holds what it held. -/
theorem load {name : String} {again : Store}
    (loaded : (FileStore.load name).Ends FileContent.MayReply file (.ok again) left) :
    again = memory ∧ left = file := by
  rcases FileStore.ends_load loaded with ⟨bytes, isFile, parsed, rfl⟩ | ⟨isMissing, _, _⟩
  · have isText := isFile.symm.trans faithful.written
    cases isText
    exact ⟨Option.some.inj (parsed.symm.trans faithful.parse?_text), rfl⟩
  · cases isMissing.symm.trans faithful.written

/-- With a disk that works, the store can be opened again. -/
theorem run_load (name : String) :
    (FileStore.load name).run FileContent.answer file = (.ok memory, file) := by
  have parsed := faithful.parse?_text
  rw [faithful.written]
  simp only [FileStore.load, Dialogue.run, FileContent.answer, FileContent.ofText, parsed]

end Faithful

/-- The file of a directory is faithful. -/
theorem Filed.faithful (filed : Filed memory file) : Faithful memory file := by
  induction filed with
  | opened loaded =>
      rcases FileStore.ends_load loaded with ⟨_, isMissing, _⟩ | ⟨_, rfl, rfl⟩
      · cases isMissing
      · exact ⟨rfl, fun _ _ impossible => nomatch impossible⟩
  | performed _ _ served ih => exact ih.serve (storable_perform _) served
  | reopened _ loaded ih =>
      obtain ⟨rfl, rfl⟩ := ih.load loaded
      exact ih

/-! ## Principals that are added -/

/-- A principal is added under a free name when its role is there. -/
theorem run_createPrincipal {principal : Principal} {role : Role}
    (valid : checkName principal.name = .ok ())
    (free : memory.get? (userKey principal.name) = none)
    (held : memory.Holds (roleKey principal.role) role) :
    (createPrincipal principal).run Store.answer memory =
      (.ok (), memory.insert (userKey principal.name) (Record.document principal)) := by
  have ended : (createPrincipal principal).Ends Store.Answers memory
      ((createPrincipal principal).run Store.answer memory).1
      ((createPrincipal principal).run Store.answer memory).2 :=
    Dialogue.ends_run (fun _ _ => rfl) _ _
  have succeeds := eq_ok_of_ends_createPrincipal principal valid free held ended
  rcases ends_createPrincipal principal (ended.mono .inl) with
    ⟨⟨error, failed⟩, _⟩ | ⟨_, _, changed⟩
  · cases succeeds.symm.trans failed
  · exact Prod.ext succeeds changed

/-- A record that the store of a file holds is found there. -/
theorem run_serve_read {α : Type} [Record α] {key : String} {record : α}
    (held : memory.Holds key record) (file : FileContent) :
    (FileStore.serve (read key) memory).run FileContent.answer file =
      ((.ok (some record), memory), file) := by
  obtain ⟨json, found, parsed⟩ := held
  change (((answered (.ok (memory.get? key))).bind (decode? key), memory), file) = _
  rw [found]
  simp only [answered, Except.bind, decode?, decode, parsed, Except.map]

/-- On a disk that works, a principal is added under a free name when its role is there.  When the
directory is opened again, the principal is found as it was, and everything else is as before. -/
theorem lookup_after_restart {principal : Principal} {role : Role} (filed : Filed memory file)
    (valid : checkName principal.name = .ok ())
    (free : memory.get? (userKey principal.name) = none)
    (held : memory.Holds (roleKey principal.role) role) (name : String) :
    ∃ next left,
      (FileStore.serve (createPrincipal principal) memory).run FileContent.answer file =
          ((.ok (), next), left) ∧
        (FileStore.load name).run FileContent.answer left = (.ok next, left) ∧
        (FileStore.serve (lookupPrincipal principal.name) next).run FileContent.answer left =
          ((.ok (some principal), next), left) ∧
        ∀ key, key ≠ userKey principal.name → next.get? key = memory.get? key := by
  obtain ⟨left, created⟩ := FileStore.exists_run_serve (createPrincipal principal) memory file
  rw [run_createPrincipal valid free held] at created
  have served := Dialogue.ends_run FileContent.mayReply_answer
    (FileStore.serve (createPrincipal principal) memory) file
  rw [created] at served
  have faithful := filed.faithful.serve (storable_perform (.createPrincipal principal)) served
  exact ⟨_, left, created, faithful.run_load name,
    run_serve_read (holds_insert_document principal) left,
    fun key apart => SortedMap.get?_insert_of_ne _ _ apart⟩

/-! ### A deadline in the first minute of the calendar -/

namespace FirstMinute

/-- The end of a leap second in the first minute of the calendar. -/
def deadline : Instant := ⟨Instant.firstSecond + 59, 1999999999, by decide⟩

/-- Somebody who had to choose a new password long ago. -/
def ada : Principal :=
  { Principal.ofName "ada" "tab\tquote\"" with displayName := "Ada ✓", resetDeadline := some deadline }

/-- The store of a new directory. -/
def seeded : Store := (seedSystemRoles.run Store.answer .empty).2

theorem exists_filed : ∃ file, Filed seeded file := by
  have loaded := Dialogue.ends_run FileContent.mayReply_answer (FileStore.load "directory.json")
    .missing
  obtain ⟨left, seeds⟩ :=
    FileStore.exists_run_serve seedSystemRoles .empty (.ofText (FileStore.text .empty))
  have served := Dialogue.ends_run FileContent.mayReply_answer
    (FileStore.serve seedSystemRoles .empty) (.ofText (FileStore.text .empty))
  rw [seeds] at served
  exact ⟨left, .performed .seedSystemRoles (.opened loaded) served⟩

theorem lookup_after_restart_firstMinute : ∃ file next left,
    Filed seeded file ∧
      (FileStore.serve (createPrincipal ada) seeded).run FileContent.answer file =
          ((.ok (), next), left) ∧
        (FileStore.load "directory.json").run FileContent.answer left = (.ok next, left) ∧
        (FileStore.serve (lookupPrincipal "ada") next).run FileContent.answer left =
          ((.ok (some ada), next), left) := by
  obtain ⟨file, filed⟩ := exists_filed
  have free : seeded.get? (userKey ada.name) = none := rfl
  have held : seeded.Holds (roleKey ada.role) (⟨userRole, true, false⟩ : Role) := ⟨_, rfl, rfl⟩
  obtain ⟨next, left, created, loaded, found, _⟩ :=
    lookup_after_restart filed rfl free held "directory.json"
  exact ⟨file, next, left, filed, created, loaded, found⟩

end FirstMinute

end Gatehouse.Directory
