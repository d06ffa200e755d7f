import Gatehouse.Proofs.Access.AllowList
import Mathlib.Data.List.Perm.Basic
import Mathlib.Data.Set.Card
/-!
# Calls on a list of grants

The entry of a client is the one that the last call has left which granted the client or revoked
it.  So what a call answers depends on the calls for its client alone, calls for different clients
commute, and there is one entry for each client that was granted last.
-/

namespace Gatehouse.Access.AllowList

/-! ## Calls -/

/-- A call on a list of grants. -/
inductive Call where
  | grant (client : Address) (subject : String) (now : Instant)
  | revoke (client : Address)
  | admits (client : Address) (now : Instant)
deriving DecidableEq

namespace Call

/-- What a call answers: until when it grants, whether there was an entry, or the grant that
admits. -/
abbrev Answer : Call → Type
  | .grant _ _ _ => Expiry
  | .revoke _ => Bool
  | .admits _ _ => Option Grant

/-- The client that a call is about. -/
def client : Call → Address
  | .grant client _ _ => client
  | .revoke client => client
  | .admits client _ => client

/-- Whether a call grants a client or revokes it. -/
def changes (call : Call) (client : Address) : Bool :=
  match call with
  | .grant other _ _ => other = client
  | .revoke other => other = client
  | .admits _ _ => false

/-- Whether a call grants a client. -/
def isGrant : Call → Bool
  | .grant _ _ _ => true
  | _ => false

/-- The entry that a call leaves which grants a client or revokes it. -/
def entry? (lifetime : Span) : Call → Option Grant
  | .grant _ subject now => some ⟨subject, .after lifetime now⟩
  | _ => none

end Call

/-- What a call answers, and the list after it. -/
def perform (list : AllowList) : (call : Call) → call.Answer × AllowList
  | .grant client subject now => (list.expiry now, list.grant client subject now)
  | .revoke client => (list.holds client, list.revoke client)
  | .admits client now => (list.admits? client now, list)

/-- The list after some calls, one after the other. -/
def after (list : AllowList) (calls : List Call) : AllowList :=
  calls.foldl (fun list call => (list.perform call).2) list

/-- The last of some calls that grants a client or revokes it. -/
def lastChange? (calls : List Call) (client : Address) : Option Call :=
  (calls.filter fun call => call.changes client).getLast?

/-- The last of some calls that concerns a client grants it. -/
def GrantedLast (calls : List Call) (client : Address) (subject : String) (start : Instant) :
    Prop :=
  lastChange? calls client = some (.grant client subject start)

section

variable {list other : AllowList} {calls grants : List Call} {call first second : Call}
  {client : Address} {lifetime : Span}

/-! ## The entry of a client -/

@[simp] theorem lifetime_perform (list : AllowList) (call : Call) :
    (list.perform call).2.lifetime = list.lifetime := by
  cases call <;> rfl

@[simp] theorem lifetime_after (list : AllowList) (calls : List Call) :
    (list.after calls).lifetime = list.lifetime := by
  induction calls generalizing list with
  | nil => rfl
  | cons call rest ih => rw [after, List.foldl_cons, ← after, ih, lifetime_perform]

theorem eq_of_get?_eq (lifetimes : list.lifetime = other.lifetime)
    (entries : ∀ client, list.entries.get? client = other.entries.get? client) : list = other := by
  obtain ⟨map, lifetime⟩ := list
  obtain ⟨map', lifetime'⟩ := other
  cases lifetimes
  cases SortedMap.ext_get? entries
  rfl

/-- A call leaves the entries of the clients alone that it is not about. -/
theorem get?_perform (list : AllowList) (call : Call) (client : Address) :
    (list.perform call).2.entries.get? client =
      if call.changes client then call.entry? list.lifetime else list.entries.get? client := by
  cases call with
  | grant other subject now =>
      by_cases same : client = other
      · subst same
        simp [perform, Call.changes, Call.entry?, get?_grant]
      · simp [perform, Call.changes, get?_grant_of_ne subject now same, Ne.symm same]
  | revoke other =>
      by_cases same : client = other
      · subst same
        simp [perform, Call.changes, Call.entry?, get?_revoke]
      · simp [perform, Call.changes, get?_revoke_of_ne same, Ne.symm same]
  | admits other now => simp [perform, Call.changes]

theorem Call.changes_eq_false (apart : call.client ≠ client) : call.changes client = false := by
  cases call <;> simp_all [changes, Call.client]

theorem get?_perform_of_ne (apart : call.client ≠ client) :
    (list.perform call).2.entries.get? client = list.entries.get? client := by
  rw [get?_perform, Call.changes_eq_false apart, if_neg Bool.false_ne_true]

theorem lastChange?_append_singleton (calls : List Call) (call : Call) (client : Address) :
    lastChange? (calls ++ [call]) client =
      if call.changes client then some call else lastChange? calls client := by
  unfold lastChange?
  rw [List.filter_append, List.filter_singleton]
  cases call.changes client with
  | true => simp
  | false => simp

/-- The entry of a client is what the last call has left that granted the client or revoked it. -/
theorem get?_after (list : AllowList) (calls : List Call) (client : Address) :
    (list.after calls).entries.get? client =
      match lastChange? calls client with
      | some call => call.entry? list.lifetime
      | none => list.entries.get? client := by
  induction calls using List.reverseRecOn with
  | nil => rfl
  | append_singleton calls call ih =>
      rw [after, List.foldl_append, List.foldl_cons, List.foldl_nil, ← after, get?_perform,
        lastChange?_append_singleton, lifetime_after]
      cases call.changes client with
      | true => rfl
      | false => exact ih

theorem changes_of_lastChange? (last : lastChange? calls client = some call) :
    call.changes client = true :=
  (List.mem_filter.1 (List.mem_of_getLast? last)).2

/-- A client has an entry exactly if it was granted last, and the entry is the one of that grant. -/
theorem get?_eq_some_iff {grant : Grant} :
    ((ofLifetime lifetime).after calls).entries.get? client = some grant ↔
      ∃ subject start, GrantedLast calls client subject start ∧
        grant = ⟨subject, .after lifetime start⟩ := by
  rw [get?_after]
  unfold GrantedLast
  cases last : lastChange? calls client with
  | none => simp [ofLifetime]
  | some call =>
      have about := changes_of_lastChange? last
      cases call with
      | grant other subject start =>
          have same : other = client := by simpa [Call.changes] using about
          subst same
          simp [Call.entry?, ofLifetime, eq_comm]
      | revoke other => simp [Call.entry?]
      | admits other now => simp [Call.entry?]

/-! ## Calls for different clients -/

/-- What a call answers depends on the entry of its client alone. -/
theorem answer_eq (lifetimes : list.lifetime = other.lifetime)
    (same : list.entries.get? call.client = other.entries.get? call.client) :
    (list.perform call).1 = (other.perform call).1 := by
  cases call with
  | grant client subject now => simp only [perform, expiry, lifetimes]
  | revoke client => exact congrArg Option.isSome same
  | admits client now => exact congrArg (Option.filter _) same

/-- Two calls do and answer the same in either order. -/
structure Commutes (list : AllowList) (first second : Call) : Prop where
  after_eq : ((list.perform first).2.perform second).2 = ((list.perform second).2.perform first).2
  second_answer : ((list.perform first).2.perform second).1 = (list.perform second).1
  first_answer : ((list.perform second).2.perform first).1 = (list.perform first).1

theorem commutes_of_ne (list : AllowList) (apart : first.client ≠ second.client) :
    list.Commutes first second where
  after_eq := by
    refine eq_of_get?_eq (by simp) fun client => ?_
    simp only [get?_perform, lifetime_perform]
    -- At most one of the two calls is about this client.
    by_cases about : first.client = client
    · rw [Call.changes_eq_false (about ▸ Ne.symm apart)]
      rfl
    · rw [Call.changes_eq_false about]
      rfl
  second_answer := answer_eq (lifetime_perform _ _) (get?_perform_of_ne apart)
  first_answer := answer_eq (lifetime_perform _ _) (get?_perform_of_ne (Ne.symm apart))

/-- Calls for as many clients lead to the same list in any order. -/
theorem after_eq_of_perm (list : AllowList) (order : calls.Perm grants)
    (once : (calls.map Call.client).Nodup) : list.after calls = list.after grants := by
  refine order.foldl_eq' (fun first isFirst second isSecond list => ?_) list
  by_cases same : first.client = second.client
  · rw [List.inj_on_of_nodup_map once isFirst isSecond same]
  · exact (list.commutes_of_ne same).after_eq

/-! ## The number of entries -/

/-- The clients that have an entry. -/
def clients (list : AllowList) : Finset Address := list.entries.keys.toFinset

theorem mem_clients : client ∈ list.clients ↔ list.holds client = true := by
  rw [clients, List.mem_toFinset, SortedMap.mem_keys_iff, holds, SortedMap.contains,
    Option.isSome_iff_exists]

theorem size_eq_card (list : AllowList) : list.size = list.clients.card := by
  rw [clients, List.toFinset_card_of_nodup list.entries.nodup_keys, size, SortedMap.size,
    SortedMap.keys, List.length_map]

theorem clients_perform_of_isGrant (isGrant : call.isGrant = true) :
    (list.perform call).2.clients = insert call.client list.clients := by
  cases call with
  | grant client subject now =>
      ext other
      rw [Finset.mem_insert, mem_clients, mem_clients, holds, holds, SortedMap.contains,
        SortedMap.contains, get?_perform]
      by_cases same : other = client
      · subst same
        simp [Call.changes, Call.entry?, Call.client]
      · simp [Call.changes, Call.client, same, Ne.symm same]
  | revoke client => cases isGrant
  | admits client now => cases isGrant

theorem clients_after_of_grants (allGrant : ∀ call ∈ grants, call.isGrant = true) :
    (list.after grants).clients = list.clients ∪ (grants.map Call.client).toFinset := by
  induction grants generalizing list with
  | nil => simp [after]
  | cons call rest ih =>
      obtain ⟨isGrant, others⟩ := List.forall_mem_cons.1 allGrant
      rw [after, List.foldl_cons, ← after, ih others, clients_perform_of_isGrant isGrant,
        List.map_cons, List.toFinset_cons, Finset.insert_union, Finset.union_insert]

/-- Grants for as many clients add an entry for each client that had none. -/
theorem size_after_of_grants (allGrant : ∀ call ∈ grants, call.isGrant = true)
    (once : (grants.map Call.client).Nodup) :
    (list.after grants).size + (grants.filter fun call => list.holds call.client).length =
      list.size + grants.length := by
  have known : list.clients ∩ (grants.map Call.client).toFinset =
      ((grants.filter fun call => list.holds call.client).map Call.client).toFinset := by
    ext client
    simp only [Finset.mem_inter, mem_clients, List.mem_toFinset, List.mem_map, List.mem_filter]
    constructor
    · rintro ⟨held, call, isMember, rfl⟩
      exact ⟨call, ⟨isMember, held⟩, rfl⟩
    · rintro ⟨call, ⟨isMember, held⟩, rfl⟩
      exact ⟨held, call, isMember, rfl⟩
  have onceKnown : ((grants.filter fun call => list.holds call.client).map Call.client).Nodup :=
    once.sublist (List.filter_sublist.map Call.client)
  calc (list.after grants).size + (grants.filter fun call => list.holds call.client).length
      = (list.clients ∪ (grants.map Call.client).toFinset).card +
          (list.clients ∩ (grants.map Call.client).toFinset).card := by
        rw [size_eq_card, clients_after_of_grants allGrant, known,
          List.toFinset_card_of_nodup onceKnown, List.length_map]
    _ = list.size + grants.length := by
        rw [Finset.card_union_add_card_inter, ← size_eq_card, List.toFinset_card_of_nodup once,
          List.length_map]

/-- There is one entry for each client that was granted last. -/
theorem size_eq_ncard (lifetime : Span) (calls : List Call) :
    ((ofLifetime lifetime).after calls).size =
      {client | ∃ subject start, GrantedLast calls client subject start}.ncard := by
  have same : {client | ∃ subject start, GrantedLast calls client subject start} =
      (((ofLifetime lifetime).after calls).clients : Set Address) := by
    ext client
    rw [Finset.mem_coe, mem_clients, holds, SortedMap.contains, Option.isSome_iff_exists]
    simp only [get?_eq_some_iff, Set.mem_ofPred_eq]
    constructor
    · rintro ⟨subject, start, last⟩
      exact ⟨_, subject, start, last, rfl⟩
    · rintro ⟨_, subject, start, last, _⟩
      exact ⟨subject, start, last⟩
  rw [same, Set.ncard_coe_finset, size_eq_card]

/-! ## Every history -/

/-- Let any calls be made on a list without grants, at any times.  A client is admitted exactly if
the last call that concerns it has granted it and that grant is in force, and by that grant.  A
revocation answers that there was an entry exactly if the last such call was a grant, and there are
as many entries as clients for which it was.  Calls for different clients commute.  Grants for
several clients, each granted once, lead to the same list in any order, with an entry more for each
of them that had none. -/
theorem grants_follow_calls {lifetime : Span} (forward : 0 ≤ lifetime.nanos) (calls : List Call) :
    let list := (ofLifetime lifetime).after calls
    (∀ client now grant, (list.perform (.admits client now)).1 = some grant ↔
      ∃ subject start, GrantedLast calls client subject start ∧ InForce lifetime start now ∧
        grant = ⟨subject, .after lifetime start⟩) ∧
    (∀ client, (list.perform (.revoke client)).1 = true ↔
      ∃ subject start, GrantedLast calls client subject start) ∧
    list.size = {client | ∃ subject start, GrantedLast calls client subject start}.ncard ∧
    (∀ first second : Call, first.client ≠ second.client → list.Commutes first second) ∧
    ∀ grants order : List Call, (∀ call ∈ grants, call.isGrant = true) →
      (grants.map Call.client).Nodup → grants.Perm order →
      list.after grants = list.after order ∧
        (list.after grants).size + (grants.filter fun call => list.holds call.client).length =
          list.size + grants.length ∧
        ((∀ call ∈ grants, list.holds call.client = false) →
          (list.after grants).size = list.size + grants.length) := by
  intro list
  refine ⟨fun client now grant => ?_, fun client => ?_, size_eq_ncard lifetime calls,
    fun _ _ => list.commutes_of_ne, fun grants order allGrant once isOrder =>
      ⟨list.after_eq_of_perm isOrder once, size_after_of_grants allGrant once, fun unknown => ?_⟩⟩
  · rw [perform, admits?, Option.filter_eq_some_iff, get?_eq_some_iff]
    constructor
    · rintro ⟨⟨subject, start, last, rfl⟩, isLive⟩
      exact ⟨subject, start, last, (isLive_after_iff forward).1 isLive, rfl⟩
    · rintro ⟨subject, start, last, inForce, rfl⟩
      have isLive := (isLive_after_iff forward).2 inForce
      exact ⟨⟨subject, start, last, rfl⟩, isLive⟩
  · rw [perform, holds, SortedMap.contains, Option.isSome_iff_exists]
    simp only [list, get?_eq_some_iff]
    constructor
    · rintro ⟨_, subject, start, last, _⟩
      exact ⟨subject, start, last⟩
    · rintro ⟨subject, start, last⟩
      exact ⟨_, subject, start, last, rfl⟩
  · have counted : (list.after grants).size +
        (grants.filter fun call => list.holds call.client).length = list.size + grants.length :=
      size_after_of_grants allGrant once
    have none : (grants.filter fun call => list.holds call.client) = [] :=
      List.filter_eq_nil_iff.2 fun call isMember => by simp [unknown call isMember]
    rw [none, List.length_nil, Nat.add_zero] at counted
    exact counted

end

/-! ### Two clients -/

namespace TwoClients

/-- The client that is granted twice. -/
def here : Address := .v4 (Address.ofOctets 192 0 2 1)

/-- The client that is revoked. -/
def there : Address := .v4 (Address.ofOctets 192 0 2 2)

/-- A grant lasts a minute. -/
def minute : Span := ⟨60000000000, by decide⟩

/-- One client is granted again, at an earlier time, and the other is revoked. -/
def calls : List Call := [
  .grant here "ada" ⟨100, 0, by decide⟩, .grant there "bob" ⟨100, 0, by decide⟩,
  .admits there ⟨300, 0, by decide⟩, .revoke there, .grant here "carol" ⟨90, 5, by decide⟩]

/-- A nanosecond before the minute of the last grant is over. -/
def late : Instant := ⟨150, 4, by decide⟩

/-- The one client is admitted by the last grant up to its end, and the other is not. -/
theorem grants_follow_calls_two :
    0 ≤ minute.nanos ∧
      (((ofLifetime minute).after calls).perform (.admits here late)).1 =
        some ⟨"carol", .at ⟨150, 5, by decide⟩⟩ ∧
      (((ofLifetime minute).after calls).perform (.revoke here)).1 = true ∧
      ¬ (((ofLifetime minute).after calls).perform (.revoke there)).1 = true := by
  have forward : 0 ≤ minute.nanos := by decide
  obtain ⟨admits, revoke, _⟩ := grants_follow_calls forward calls
  have last : lastChange? calls here = some (.grant here "carol" ⟨90, 5, by decide⟩) := by decide
  have inForce : InForce minute ⟨90, 5, by decide⟩ late :=
    .inr (.inl ⟨⟨150, 5, by decide⟩, by decide, by decide⟩)
  refine ⟨forward, (admits here late _).2 ⟨"carol", _, last, inForce, by decide⟩,
    (revoke here).2 ⟨_, _, last⟩, fun revoked => ?_⟩
  obtain ⟨subject, start, granted⟩ := (revoke there).1 revoked
  have revokedLast : lastChange? calls there = some (.revoke there) := by decide
  rw [GrantedLast, revokedLast] at granted
  cases granted

end TwoClients

end Gatehouse.Access.AllowList
