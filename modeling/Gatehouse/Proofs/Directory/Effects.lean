import Gatehouse.Proofs.Directory.Operations
import Gatehouse.Proofs.Directory.Record
import Gatehouse.Proofs.Directory.Store
/-!
# What operations do to a store that may fail

Reading and locking leave the store as it is.  An operation that changes one principal either fails
and leaves the store as it is, or it replaces the document at one key.
-/

namespace Gatehouse.Directory

variable {α : Type} {store after : Store} {key name : String}

/-! ## Building blocks -/

/-- The lock changes nothing and cannot fail. -/
theorem ends_locked {op : Op α} {result : Except DirectoryError α} :
    (locked op).Ends Store.MayReply store result after ↔
      op.Ends Store.MayReply store result after := by
  constructor
  · intro ended
    obtain ⟨_, _, held, under⟩ := Dialogue.ends_ask.1 ended
    obtain rfl := Store.eq_of_mayReply rfl held
    obtain ⟨_, _, begun, rest⟩ := Dialogue.ends_bind.1 under
    obtain ⟨_, _, released, last⟩ := Dialogue.ends_ask.1 rest
    obtain rfl := Store.eq_of_mayReply rfl released
    obtain ⟨rfl, rfl⟩ := Dialogue.ends_done.1 last
    exact begun
  · intro ended
    apply Dialogue.Ends.ask (Store.mayReply_answer store .lock)
    apply Dialogue.ends_bind.2
    exact ⟨result, after, ended, .ask (Store.mayReply_answer after .unlock) (.done _ _)⟩

/-- Removing fails and changes nothing, or it empties the key. -/
theorem ends_remove {result : Except DirectoryError Bool}
    (ended : (remove key).Ends Store.MayReply store result after) :
    ((∃ error, result = .error error) ∧ after = store) ∨
      result = .ok (store.contains key) ∧ after = store.erase key := by
  obtain ⟨answer, middle, replied, last⟩ := Dialogue.ends_ask.1 ended
  obtain ⟨rfl, rfl⟩ := Dialogue.ends_done.1 last
  rcases replied with served | ⟨cause, rfl, rfl⟩
  · cases served
    exact .inr ⟨rfl, rfl⟩
  · exact .inl ⟨⟨_, rfl⟩, rfl⟩

variable [Record α]

/-- Reading leaves the store as it is. -/
theorem eq_of_ends_read {result : Except DirectoryError (Option α)}
    (ended : (read key).Ends Store.MayReply store result after) : after = store := by
  obtain ⟨answer, middle, replied, last⟩ := Dialogue.ends_ask.1 ended
  obtain ⟨_, rfl⟩ := Dialogue.ends_done.1 last
  exact Store.eq_of_mayReply rfl replied

/-- A record that has been read is held by the store. -/
theorem holds_of_ends_read {record : α}
    (ended : (read key).Ends Store.MayReply store (.ok (some record)) after) :
    store.Holds key record := by
  obtain ⟨json, replied, parsed⟩ := ends_read_some.1 ended
  rcases (Store.mayReply_get.1 replied).1 with held | ⟨_, failed⟩
  · exact ⟨json, (Except.ok.inj held).symm, parsed⟩
  · cases failed

/-- A write fails and changes nothing, or it puts the document of the record at the key. -/
theorem ends_write {record : α} {result : Except DirectoryError Unit}
    (ended : (write key record).Ends Store.MayReply store result after) :
    ((∃ error, result = .error error) ∧ after = store) ∨
      (result = .ok () ∧ after = store.insert key (Record.document record)) := by
  obtain ⟨answer, middle, replied, last⟩ := Dialogue.ends_ask.1 ended
  obtain ⟨rfl, rfl⟩ := Dialogue.ends_done.1 last
  rcases replied with served | ⟨cause, rfl, rfl⟩
  · cases served
    exact .inr ⟨rfl, rfl⟩
  · exact .inl ⟨⟨_, rfl⟩, rfl⟩

/-- Nothing has been read at a key only if the store holds nothing there. -/
theorem get?_of_ends_read_none
    (ended : (read key : Op (Option α)).Ends Store.MayReply store (.ok none) after) :
    store.get? key = none := by
  obtain ⟨answer, middle, replied, last⟩ := Dialogue.ends_ask.1 ended
  obtain ⟨found, rfl⟩ := Dialogue.ends_done.1 last
  rcases (Store.mayReply_get.1 replied).1 with rfl | ⟨cause, rfl⟩
  · cases held : store.get? key with
    | none => rfl
    | some json =>
        rw [held] at found
        change Except.ok none = (decode key json).map some at found
        cases decoded : (decode key json : Except DirectoryError α) with
        | error error =>
            rw [decoded] at found
            cases found
        | ok record =>
            rw [decoded] at found
            cases found
  · cases found

/-! ## Changes of a principal -/

/-- Adding a principal fails and changes nothing, or it puts the document of the record where there
was none. -/
theorem ends_createPrincipal (principal : Principal) {result : Except DirectoryError Unit}
    (ended : (createPrincipal principal).Ends Store.MayReply store result after) :
    ((∃ error, result = .error error) ∧ after = store) ∨
      store.get? (userKey principal.name) = none ∧ result = .ok () ∧
        after = store.insert (userKey principal.name) (Record.document principal) := by
  unfold createPrincipal at ended
  split at ended
  · obtain ⟨rfl, rfl⟩ := Dialogue.ends_done.1 ended
    exact .inl ⟨⟨_, rfl⟩, rfl⟩
  rcases ends_andThen.1 (ends_locked.1 ended) with
    ⟨error, looked, rfl⟩ | ⟨found, middle, looked, ended⟩
  · exact .inl ⟨⟨error, rfl⟩, eq_of_ends_read looked⟩
  obtain rfl := eq_of_ends_read looked
  cases found with
  | some other =>
      obtain ⟨rfl, rfl⟩ := Dialogue.ends_done.1 ended
      exact .inl ⟨⟨_, rfl⟩, rfl⟩
  | none =>
      have free := get?_of_ends_read_none looked
      rcases ends_andThen.1 ended with ⟨error, looked, rfl⟩ | ⟨role, middle, looked, ended⟩
      · exact .inl ⟨⟨error, rfl⟩, eq_of_ends_read looked⟩
      obtain rfl := eq_of_ends_read looked
      cases role with
      | none =>
          obtain ⟨rfl, rfl⟩ := Dialogue.ends_done.1 ended
          exact .inl ⟨⟨_, rfl⟩, rfl⟩
      | some role =>
          rcases ends_write ended with unchanged | ⟨rfl, rfl⟩
          · exact .inl unchanged
          · exact .inr ⟨free, rfl, rfl⟩

/-- Changing a principal fails and changes nothing, or it replaces the record that was held. -/
theorem ends_modifyPrincipal {change : Principal → Principal} {result : Except DirectoryError Unit}
    (ended : (modifyPrincipal name change).Ends Store.MayReply store result after) :
    ((∃ error, result = .error error) ∧ after = store) ∨
      ∃ principal : Principal, store.Holds (userKey name) principal ∧ result = .ok () ∧
        after = store.insert (userKey name) (Record.document (change principal)) := by
  rcases ends_andThen.1 (ends_locked.1 ended) with
    ⟨error, looked, rfl⟩ | ⟨found, middle, looked, ended⟩
  · exact .inl ⟨⟨error, rfl⟩, eq_of_ends_read looked⟩
  · obtain rfl := eq_of_ends_read looked
    cases found with
    | none =>
        obtain ⟨rfl, rfl⟩ := Dialogue.ends_done.1 ended
        exact .inl ⟨⟨_, rfl⟩, rfl⟩
    | some principal =>
        rcases ends_write ended with unchanged | ⟨rfl, rfl⟩
        · exact .inl unchanged
        · exact .inr ⟨principal, holds_of_ends_read looked, rfl, rfl⟩

/-- Setting a password fails and changes nothing, or it replaces the record that was held by one
with that password and without a pending reset. -/
theorem ends_setCredential {credential : String} {result : Except DirectoryError Unit}
    (ended : (setCredential name credential).Ends Store.MayReply store result after) :
    ((∃ error, result = .error error) ∧ after = store) ∨
      ∃ principal : Principal, store.Holds (userKey name) principal ∧ result = .ok () ∧
        after = store.insert (userKey name)
          (Record.document (principal.withCredential credential)) := by
  unfold setCredential at ended
  split at ended
  · obtain ⟨rfl, rfl⟩ := Dialogue.ends_done.1 ended
    exact .inl ⟨⟨_, rfl⟩, rfl⟩
  · exact ends_modifyPrincipal ended

theorem ends_read_of_holds {record : α} (held : store.Holds key record) :
    (read key).Ends Store.MayReply store (.ok (some record)) store := by
  obtain ⟨json, found, parsed⟩ := held
  exact ends_read_some.2 ⟨json, Store.mayReply_get.2 ⟨.inl (congrArg _ found.symm), rfl⟩, parsed⟩

/-- A record that is held may be changed. -/
theorem ends_modifyPrincipal_of_holds {change : Principal → Principal} {principal : Principal}
    (held : store.Holds (userKey name) principal) :
    (modifyPrincipal name change).Ends Store.MayReply store (.ok ())
      (store.insert (userKey name) (Record.document (change principal))) := by
  refine ends_locked.2 (ends_andThen.2 (.inr ⟨some principal, store, ends_read_of_holds held, ?_⟩))
  exact .ask (Store.mayReply_answer store (.set _ _)) (.done _ _)

theorem ends_setCredential_of_holds {credential : String} {principal : Principal}
    (nonempty : credential.isEmpty = false) (held : store.Holds (userKey name) principal) :
    (setCredential name credential).Ends Store.MayReply store (.ok ())
      (store.insert (userKey name) (Record.document (principal.withCredential credential))) := by
  rw [setCredential, if_neg (Bool.eq_false_iff.1 nonempty)]
  exact ends_modifyPrincipal_of_holds held

/-- A record is held once its document has been put at a key. -/
theorem holds_insert_document [LawfulRecord α] (record : α) :
    Store.Holds (store.insert key (Record.document record)) key record := by
  rw [Store.holds_insert, if_pos rfl]
  exact LawfulRecord.parse?_document record

end Gatehouse.Directory
