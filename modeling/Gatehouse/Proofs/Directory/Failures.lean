import Gatehouse.Proofs.Directory.HeldRoles
/-!
# Operations that fail

An operation makes its change in its last call, and after a call that fails it does nothing more.
So one that ends with an error has left the store as it was, and in one that succeeds no call has
failed.  Only to make sure of the system roles takes two changes, and may stop between them.
-/

namespace Gatehouse.Directory

section

variable {α β : Type} {store after : Store} {key : String}

/-- When the operation succeeds, it has done what it does with a store in memory. -/
def SucceedsInMemory (op : Op α) : Prop :=
  ∀ {store after value}, op.Ends Store.MayReply store (.ok value) after →
    op.Ends Store.Answers store (.ok value) after

/-- The operation does what it does with a store in memory, or it fails and leaves the store as it
was. -/
structure AllOrNothing (op : Op α) : Prop where
  unchanged : ∀ {store after error}, op.Ends Store.MayReply store (.error error) after →
    after = store
  succeeds : SucceedsInMemory op

/-! ## Building blocks -/

theorem allOrNothing_done (result : Except DirectoryError α) :
    AllOrNothing (.done result : Op α) where
  unchanged ended := (Dialogue.ends_done.1 ended).2
  succeeds ended := Dialogue.ends_done.2 (Dialogue.ends_done.1 ended)

/-- A single call, when its failure is one of the operation and no other error follows a change. -/
theorem allOrNothing_ask {call : StoreCall} {finish : call.Answer → Except DirectoryError α}
    (fails : ∀ cause, ∃ error, finish (call.failure cause) = .error error)
    (still : ∀ (store : Store) error, finish (store.answer call).1 = .error error →
      (store.answer call).2 = store) :
    AllOrNothing (.ask call fun answer => .done (finish answer) : Op α) where
  unchanged ended := by
    obtain ⟨answer, middle, replied, last⟩ := Dialogue.ends_ask.1 ended
    obtain ⟨isError, rfl⟩ := Dialogue.ends_done.1 last
    rcases replied with served | ⟨cause, _, same⟩
    · obtain ⟨rfl, rfl⟩ := Prod.mk.inj served
      exact still _ _ isError.symm
    · exact same
  succeeds ended := by
    obtain ⟨answer, middle, replied, last⟩ := Dialogue.ends_ask.1 ended
    rcases replied with served | ⟨cause, rfl, _⟩
    · exact .ask served (Dialogue.ends_done.2 (Dialogue.ends_done.1 last))
    · obtain ⟨error, isError⟩ := fails cause
      rw [isError] at last
      cases last

theorem allOrNothing_read [Record α] : AllOrNothing (read key : Op (Option α)) :=
  allOrNothing_ask (fun cause => ⟨.unavailable cause, rfl⟩) fun _ _ _ => rfl

theorem allOrNothing_list [Record α] {start : String} : AllOrNothing (list start : Op (List α)) :=
  allOrNothing_ask (fun cause => ⟨.unavailable cause, rfl⟩) fun _ _ _ => rfl

theorem allOrNothing_write [Record α] {record : α} : AllOrNothing (write key record) :=
  allOrNothing_ask (fun cause => ⟨.unavailable cause, rfl⟩) nofun

theorem allOrNothing_remove : AllOrNothing (remove key) :=
  allOrNothing_ask (fun cause => ⟨.unavailable cause, rfl⟩) nofun

theorem succeedsInMemory_andThen {op : Op α} {next : α → Op β} (first : SucceedsInMemory op)
    (rest : ∀ value, SucceedsInMemory (next value)) : SucceedsInMemory (andThen op next) := by
  intro _ _ _ ended
  apply ends_andThen.2
  rcases ends_andThen.1 ended with ⟨_, _, impossible⟩ | ⟨found, middle, begun, last⟩
  · cases impossible
  · exact .inr ⟨found, middle, first begun, rest found last⟩

/-- A look in front changes nothing. -/
theorem allOrNothing_read_andThen [Record α] {next : Option α → Op β}
    (rest : ∀ found, AllOrNothing (next found)) : AllOrNothing (andThen (read key) next) where
  unchanged ended := by
    rcases ends_andThen.1 ended with ⟨_, looked, _⟩ | ⟨found, middle, looked, last⟩
    · exact eq_of_ends_read looked
    · obtain rfl := eq_of_ends_read looked
      exact (rest found).unchanged last
  succeeds := succeedsInMemory_andThen allOrNothing_read.succeeds fun found => (rest found).succeeds

/-- After the change there is nothing left that could fail. -/
theorem allOrNothing_andThen_finish {op : Op α} {last : α → β} (first : AllOrNothing op) :
    AllOrNothing (andThen op fun value => finish (last value)) where
  unchanged ended := by
    rcases ends_andThen.1 ended with ⟨cause, failed, _⟩ | ⟨value, middle, _, finished⟩
    · exact first.unchanged failed
    · cases finished
  succeeds := succeedsInMemory_andThen first.succeeds fun _ => (allOrNothing_done _).succeeds

theorem succeedsInMemory_locked {op : Op α} (succeeds : SucceedsInMemory op) :
    SucceedsInMemory (locked op) := by
  intro _ _ _ ended
  apply Dialogue.Ends.ask (rfl : Store.Answers _ .lock () _)
  apply Dialogue.ends_bind.2
  exact ⟨_, _, succeeds (ends_locked.1 ended), .ask rfl (.done _ _)⟩

theorem allOrNothing_locked {op : Op α} (whole : AllOrNothing op) : AllOrNothing (locked op) where
  unchanged ended := whole.unchanged (ends_locked.1 ended)
  succeeds := succeedsInMemory_locked whole.succeeds

/-! ## The operations -/

theorem allOrNothing_createPrincipal (principal : Principal) :
    AllOrNothing (createPrincipal principal) := by
  unfold createPrincipal
  split
  · exact allOrNothing_done _
  · apply allOrNothing_locked
    apply allOrNothing_read_andThen
    rintro (_ | _)
    · apply allOrNothing_read_andThen
      rintro (_ | _)
      · exact allOrNothing_done _
      · exact allOrNothing_write
    · exact allOrNothing_done _

theorem allOrNothing_modifyPrincipal (name : String) (change : Principal → Principal) :
    AllOrNothing (modifyPrincipal name change) := by
  apply allOrNothing_locked
  apply allOrNothing_read_andThen
  rintro (_ | _)
  · exact allOrNothing_done _
  · exact allOrNothing_write

theorem allOrNothing_setCredential (name credential : String) :
    AllOrNothing (setCredential name credential) := by
  unfold setCredential
  split
  · exact allOrNothing_done _
  · exact allOrNothing_modifyPrincipal _ _

/-- A principal that is not there is reported after the call that removes it, and that call has
removed nothing then. -/
theorem allOrNothing_deletePrincipal (name : String) : AllOrNothing (deletePrincipal name) where
  unchanged {store _ _} ended := by
    rcases ends_andThen.1 ended with ⟨cause, failed, _⟩ | ⟨found, middle, removed, last⟩
    · exact allOrNothing_remove.unchanged failed
    · rcases ends_remove removed with ⟨⟨_, impossible⟩, _⟩ | ⟨isFound, rfl⟩
      · cases impossible
      · cases isFound
        cases isThere : store.contains (userKey name) with
        | true =>
            rw [isThere] at last
            cases last
        | false =>
            rw [isThere] at last
            obtain ⟨_, rfl⟩ := Dialogue.ends_done.1 last
            apply SortedMap.erase_eq_self
            simpa [SortedMap.contains] using isThere
  succeeds := by
    apply succeedsInMemory_andThen allOrNothing_remove.succeeds
    rintro (_ | _) <;> exact (allOrNothing_done _).succeeds

theorem allOrNothing_isAdmin (name : String) : AllOrNothing (isAdmin name) := by
  apply allOrNothing_read_andThen
  rintro (_ | principal)
  · exact allOrNothing_done _
  · dsimp only
    split
    · exact allOrNothing_andThen_finish allOrNothing_read
    · exact allOrNothing_done _

theorem allOrNothing_seedRole (name : String) (admin : Bool) :
    AllOrNothing (seedRole name admin) := by
  apply allOrNothing_read_andThen
  rintro (_ | _)
  · exact allOrNothing_write
  · exact allOrNothing_done _

theorem succeedsInMemory_seedSystemRoles : SucceedsInMemory seedSystemRoles :=
  succeedsInMemory_locked (succeedsInMemory_andThen (allOrNothing_seedRole _ _).succeeds fun _ =>
    (allOrNothing_seedRole _ _).succeeds)

theorem allOrNothing_createRole (name : String) (admin : Bool) :
    AllOrNothing (createRole name admin) := by
  unfold createRole
  split
  · exact allOrNothing_done _
  · apply allOrNothing_locked
    apply allOrNothing_read_andThen
    rintro (_ | _)
    · exact allOrNothing_write
    · exact allOrNothing_done _

theorem allOrNothing_deleteRole (name : String) : AllOrNothing (deleteRole name) := by
  apply allOrNothing_locked
  apply allOrNothing_read_andThen
  rintro (_ | role)
  · exact allOrNothing_done _
  · dsimp only
    split
    · exact allOrNothing_done _
    · exact allOrNothing_andThen_finish allOrNothing_remove

theorem allOrNothing_putDevice (device : Device) : AllOrNothing (putDevice device) := by
  unfold putDevice
  split
  · exact allOrNothing_done _
  · exact allOrNothing_andThen_finish allOrNothing_write

theorem allOrNothing_getDevice (mac : String) : AllOrNothing (getDevice mac) := by
  unfold getDevice
  split
  · exact allOrNothing_done _
  · exact allOrNothing_read

theorem allOrNothing_deleteDevice (mac : String) : AllOrNothing (deleteDevice mac) := by
  unfold deleteDevice
  split
  · exact allOrNothing_done _
  · exact allOrNothing_remove

variable {request : Request} {result : Except DirectoryError request.Result}

/-- Each operation that makes one change does all of it or nothing. -/
theorem allOrNothing_perform (single : request ≠ .seedSystemRoles) :
    AllOrNothing request.perform := by
  cases request with
  | lookupPrincipal name => exact allOrNothing_read
  | createPrincipal principal => exact allOrNothing_createPrincipal principal
  | updatePrincipal principal => exact allOrNothing_modifyPrincipal _ _
  | setCredential name credential => exact allOrNothing_setCredential name credential
  | requireReset name deadline => exact allOrNothing_modifyPrincipal _ _
  | deletePrincipal name => exact allOrNothing_deletePrincipal name
  | listPrincipals => exact allOrNothing_list
  | isAdmin name => exact allOrNothing_isAdmin name
  | seedSystemRoles => exact absurd rfl single
  | lookupRole name => exact allOrNothing_read
  | listRoles => exact allOrNothing_list
  | createRole name admin => exact allOrNothing_createRole name admin
  | deleteRole name => exact allOrNothing_deleteRole name
  | putDevice device => exact allOrNothing_putDevice device
  | getDevice mac => exact allOrNothing_getDevice mac
  | listDevices => exact allOrNothing_list
  | deleteDevice mac => exact allOrNothing_deleteDevice mac

/-- An operation that succeeds has the result and leaves the store that it has and leaves with a
store in memory. -/
theorem run_of_ends_perform_ok {value : request.Result}
    (ended : request.perform.Ends Store.MayReply store (.ok value) after) :
    request.perform.run Store.answer store = (.ok value, after) := by
  have succeeds : SucceedsInMemory request.perform := by
    by_cases seeds : request = .seedSystemRoles
    · subst seeds
      exact succeedsInMemory_seedSystemRoles
    · exact (allOrNothing_perform seeds).succeeds
  exact (Dialogue.ends_iff_run.1 (succeeds ended)).symm

/-! ## Failures -/

/-- Whatever a store holds and whichever of its calls fail: an operation that ends with an error has
changed no entry, and one that succeeds has changed at most the entry of the one record that it
names. -/
theorem failed_operations_change_nothing (single : request ≠ .seedSystemRoles)
    (ended : request.perform.Ends Store.MayReply store result after) :
    ((∃ error, result = .error error) → after = store) ∧
      ((∃ value, result = .ok value) → request.changes.length ≤ 1 ∧
        ∀ key, (∀ name ∈ request.changes, name.key ≠ key) → after.get? key = store.get? key) := by
  constructor
  · rintro ⟨error, rfl⟩
    exact (allOrNothing_perform single).unchanged ended
  · intro _
    constructor
    · exact request.length_changes.resolve_left single
    · intro key apart
      exact get?_of_spares (spares_of_not_changes apart) ended

/-- Where operations have failed, the others have done what they do without them. -/
theorem Course.without_failures {last : Store} {performances : List Performance}
    (course : Course store performances last)
    (single : ∀ performance ∈ performances, performance.request ≠ .seedSystemRoles) :
    Course store (performances.filter fun performance => performance.result.isOk) last := by
  induction course with
  | nil store => exact .nil store
  | @cons performance rest last happens others ih =>
      have singleOthers := fun other isMember => single other (List.mem_cons_of_mem _ isMember)
      cases ended : performance.result with
      | ok value =>
          rw [List.filter_cons_of_pos (by rw [ended]; rfl)]
          exact .cons happens (ih singleOthers)
      | error error =>
          rw [List.filter_cons_of_neg (by rw [ended]; exact Bool.false_ne_true)]
          have whole := allOrNothing_perform (single performance List.mem_cons_self)
          unfold Performance.Happens at happens
          rw [ended] at happens
          rw [← whole.unchanged happens]
          exact ih singleOthers

end

/-! ### A record that cannot be read -/

namespace Foreign

/-- A store with something at the key of Bob that is no record. -/
def store : Store := SortedMap.empty.insert (userKey "bob") .null

/-- No password can be set for Bob, and what is stored for him stays.  He can be removed, and
nothing else is. -/
theorem failed_operations_change_nothing_unreadable :
    (∃ result after,
      (Request.setCredential "bob" "new").perform.Ends Store.MayReply store result after ∧
        result = .error (.corrupt "user:bob") ∧ after = store) ∧
    ∃ after, (Request.deletePrincipal "bob").perform.Ends Store.MayReply store (.ok ()) after ∧
      ∀ key, key ≠ userKey "bob" → after.get? key = store.get? key := by
  have sets : Request.setCredential "bob" "new" ≠ .seedSystemRoles := nofun
  have deletes : Request.deletePrincipal "bob" ≠ .seedSystemRoles := nofun
  have failed := Dialogue.ends_run Store.mayReply_answer
    (Request.setCredential "bob" "new").perform store
  have removed := Dialogue.ends_run Store.mayReply_answer
    (Request.deletePrincipal "bob").perform store
  constructor
  · have unchanged := (failed_operations_change_nothing sets failed).1 ⟨.corrupt "user:bob", rfl⟩
    exact ⟨_, _, failed, rfl, unchanged⟩
  · refine ⟨_, removed, fun key apart => ?_⟩
    apply ((failed_operations_change_nothing deletes removed).2 ⟨(), rfl⟩).2
    intro name isNamed
    rw [List.mem_singleton.1 isNamed]
    exact apart.symm

end Foreign

end Gatehouse.Directory
