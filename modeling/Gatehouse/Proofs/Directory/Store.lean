import Gatehouse.Directory.Store
import Gatehouse.Directory.Record
import Gatehouse.Proofs.SortedMap
/-!
# Stores that may fail

A store in use answers a call from its contents, or the call fails and has no effect.  What a store
holds at a key is a record when the document there can be read as one.
-/

namespace Gatehouse

/-! ## Questions that write -/

namespace StoreCall

/-- Whether the question may change the store. -/
def writes : StoreCall → Bool
  | .set _ _ => true
  | .delete _ => true
  | _ => false

/-- Whether the question may change what the store holds at a key. -/
def writesAt (key : String) : StoreCall → Bool
  | .set other _ => other = key
  | .delete other => other = key
  | _ => false

/-- Whether the question is there to put something at a key. -/
def setsAt (key : String) : StoreCall → Bool
  | .set other _ => other = key
  | _ => false

/-- Whether the question is one about the contents of the store. -/
def plain : StoreCall → Bool
  | .lock => false
  | .unlock => false
  | _ => true

end StoreCall

/-! ## Answers -/

namespace Store

/-- The answers that a store may give to a call, and its contents afterwards. -/
def MayReply (store : Store) (call : StoreCall) (answer : call.Answer) (after : Store) : Prop :=
  (answer, after) = store.answer call ∨ ∃ error, answer = call.failure error ∧ after = store

/-- The store in memory gives one answer to every call. -/
def Answers (store : Store) (call : StoreCall) (answer : call.Answer) (after : Store) : Prop :=
  (answer, after) = store.answer call

/-- A store that answers as it may, and always takes the lock back. -/
structure Sound (reply : Store → (call : StoreCall) → call.Answer → Store → Prop) : Prop where
  mayReply : ∀ {store call answer after}, reply store call answer after →
    MayReply store call answer after
  unlocks : ∀ store, reply store .unlock () store

/-- The store holds a record at a key. -/
def Holds {α : Type} [Record α] (store : Store) (key : String) (record : α) : Prop :=
  ∃ json, store.get? key = some json ∧ Record.parse? json = some record

variable {store after : Store} {α : Type} [Record α] {key other : String} {record : α}

theorem mayReply_answer (store : Store) (call : StoreCall) :
    store.MayReply call (store.answer call).1 (store.answer call).2 :=
  .inl rfl

theorem mayReply_get {answer : Except StoreError (Option Json)} :
    store.MayReply (.get key) answer after ↔
      (answer = .ok (store.get? key) ∨ ∃ error, answer = .error error) ∧ after = store := by
  constructor
  · rintro (same | ⟨error, failed, rfl⟩)
    · cases same
      exact ⟨.inl rfl, rfl⟩
    · exact ⟨.inr ⟨error, failed⟩, rfl⟩
  · rintro ⟨rfl | ⟨error, rfl⟩, rfl⟩
    · exact .inl rfl
    · exact .inr ⟨error, rfl, rfl⟩

theorem sound_answers : Sound Answers where
  mayReply := .inl
  unlocks _ := rfl

/-- A call changes the store as it does in memory, or not at all. -/
theorem eq_or_eq_of_mayReply {call : StoreCall} {answer : call.Answer}
    (replied : store.MayReply call answer after) :
    after = store ∨ after = (store.answer call).2 := by
  rcases replied with same | ⟨_, _, rfl⟩
  · exact .inr (congrArg Prod.snd same)
  · exact .inl rfl

/-- A call that only looks leaves the store as it is. -/
theorem eq_of_mayReply {call : StoreCall} {answer : call.Answer}
    (looks : (store.answer call).2 = store) (replied : store.MayReply call answer after) :
    after = store := by
  rcases eq_or_eq_of_mayReply replied with same | same
  · exact same
  · exact same.trans looks

/-- A question that writes nothing leaves the store as it is. -/
theorem eq_of_not_writes {call : StoreCall} {answer : call.Answer} (reads : call.writes = false)
    (replied : store.MayReply call answer after) : after = store := by
  cases call with
  | set => cases reads
  | delete => cases reads
  | _ => exact eq_of_mayReply rfl replied

theorem Sound.still {reply : Store → (call : StoreCall) → call.Answer → Store → Prop}
    (sound : Sound reply) {call : StoreCall} {answer : call.Answer} (reads : call.writes = false)
    (replied : reply store call answer after) : after = store :=
  eq_of_not_writes reads (sound.mayReply replied)

/-- A question that does not write at a key leaves what is there. -/
theorem get?_of_not_writesAt {call : StoreCall} {answer : call.Answer}
    (spares : call.writesAt key = false) (replied : store.MayReply call answer after) :
    after.get? key = store.get? key := by
  rcases eq_or_eq_of_mayReply replied with rfl | rfl
  · rfl
  · cases call with
    | set other value =>
        exact SortedMap.get?_insert_of_ne _ _ (Ne.symm (of_decide_eq_false spares))
    | delete other =>
        exact SortedMap.get?_erase_of_ne _ (Ne.symm (of_decide_eq_false spares))
    | _ => rfl

/-- A question that puts nothing at a key keeps it empty. -/
theorem get?_eq_none_of_not_setsAt {call : StoreCall} {answer : call.Answer}
    (spares : call.setsAt key = false) (absent : store.get? key = none)
    (replied : store.MayReply call answer after) : after.get? key = none := by
  rcases eq_or_eq_of_mayReply replied with rfl | rfl
  · exact absent
  · cases call with
    | set other value =>
        exact (SortedMap.get?_insert_of_ne _ _ (Ne.symm (of_decide_eq_false spares))).trans absent
    | delete other =>
        by_cases same : key = other
        · subst same
          exact SortedMap.get?_erase_self ..
        · exact (SortedMap.get?_erase_of_ne _ same).trans absent
    | _ => exact absent

/-! ## What a store holds after a change -/

theorem holds_insert {json : Json} :
    Holds (store.insert key json) other record ↔
      if other = key then Record.parse? json = some record else store.Holds other record := by
  unfold Holds
  simp only [SortedMap.get?_insert, Std.LawfulEqOrd.compare_eq_iff_eq]
  split
  · simp
  · rfl

theorem holds_of_holds_erase (held : Holds (store.erase key) other record) :
    store.Holds other record := by
  obtain ⟨json, found, parsed⟩ := held
  rw [SortedMap.get?_erase] at found
  split at found
  · cases found
  · exact ⟨json, found, parsed⟩

end Store

end Gatehouse
