import Gatehouse.Proofs.Directory.SystemRoles
/-!
# Roles that principals have

A principal is only added with a role that is there.  Two operations look at one side alone: a record
may be replaced by one with a role that is not there, and a role may be deleted while principals have
it.  They are the only ones that leave a principal without its role.  As long as neither happens, the
role of every principal is there and stays the same role, so that nobody's rights change by what is
done to roles.
-/

namespace Gatehouse.Directory

section

variable {store after : Store} {name : String} {request : Request}

/-- A stored principal has a role. -/
def HasRole (store : Store) (user role : String) : Prop :=
  ∃ principal : Principal, store.Holds (userKey user) principal ∧ principal.role = role

/-- A role is there. -/
def RoleIsThere (store : Store) (name : String) : Prop :=
  ∃ role : Role, store.Holds (roleKey name) role

/-- The role of every stored principal is there. -/
def RolesAreThere (store : Store) : Prop :=
  ∀ user role, HasRole store user role → RoleIsThere store role

/-- The operation is there to leave a principal without its role. -/
inductive Orphans (store : Store) : Request → Prop where
  /-- The new record has a role that is not there. -/
  | update (principal : Principal) (missing : ¬ RoleIsThere store principal.role) :
      Orphans store (.updatePrincipal principal)
  /-- Somebody has the role that is to be deleted. -/
  | delete {user role : String} (held : HasRole store user role) : Orphans store (.deleteRole role)

theorem hasRole_of_get?_eq {user role : String}
    (same : after.get? (userKey user) = store.get? (userKey user))
    (held : HasRole after user role) : HasRole store user role := by
  obtain ⟨principal, ⟨json, found, parsed⟩, named⟩ := held
  exact ⟨principal, ⟨json, same ▸ found, parsed⟩, named⟩

/-- The role of a principal whose document has just been written. -/
theorem role_of_hasRole_document {user role : String} {principal : Principal}
    (written : after.get? (userKey user) = some (Record.document principal))
    (held : HasRole after user role) : principal.role = role := by
  obtain ⟨found, ⟨json, isThere, parsed⟩, named⟩ := held
  cases isThere.symm.trans written
  rw [LawfulRecord.parse?_document] at parsed
  cases parsed
  exact named

/-- A change that keeps the role of a principal gives nobody another role. -/
theorem hasRole_of_revised {user role : String} (change : Principal → Principal)
    (sameRole : ∀ principal, (change principal).role = principal.role)
    (written : after.get? (userKey user) = revised (store.get? (userKey user)) change)
    (held : HasRole after user role) : HasRole store user role := by
  cases found : revised (store.get? (userKey user)) change with
  | none =>
      obtain ⟨principal, ⟨json, isThere, _⟩, _⟩ := held
      cases isThere.symm.trans (written.trans found)
  | some document =>
      obtain ⟨json, isThere, isRevised⟩ := Option.bind_eq_some_iff.1 found
      obtain ⟨principal, parsed, rfl⟩ := Option.map_eq_some_iff.1 isRevised
      refine ⟨principal, ⟨json, isThere, parsed⟩, ?_⟩
      rw [← sameRole]
      exact role_of_hasRole_document (written.trans found) held

/-! ## What operations do to roles that principals have -/

/-- A principal is only added when its role is there. -/
theorem roleIsThere_of_ends_createPrincipal {principal : Principal}
    (ended : (createPrincipal principal).Ends Store.MayReply store (.ok ()) after) :
    RoleIsThere store principal.role := by
  unfold createPrincipal at ended
  split at ended
  · cases ended
  rcases ends_andThen.1 (ends_locked.1 ended) with ⟨_, _, failed⟩ | ⟨found, middle, looked, ended⟩
  · cases failed
  obtain rfl := eq_of_ends_read looked
  cases found with
  | some other => cases ended
  | none =>
      rcases ends_andThen.1 ended with ⟨_, _, failed⟩ | ⟨role, _, lookedRole, ended⟩
      · cases failed
      · cases role with
        | none => cases ended
        | some role => exact ⟨role, holds_of_ends_read lookedRole⟩

/-- The role that a principal has after an operation was its role before, or the operation gave it that
role, which is there unless the operation leaves principals without their roles. -/
theorem hasRole_or_roleIsThere {user role : String} {result : Except DirectoryError request.Result}
    (ended : request.perform.Ends Store.MayReply store result after)
    (careful : result.isOk = true → ¬ Orphans store request) (held : HasRole after user role) :
    HasRole store user role ∨ request ≠ .deleteRole role ∧ RoleIsThere store role := by
  have written := get?_of_ends_perform user ended
  cases result with
  | error error => exact .inl (hasRole_of_get?_eq written held)
  | ok value =>
      by_cases isTarget : request.target? = some user
      · rw [Request.documentAfter_ok isTarget] at written
        cases request with
        | createPrincipal principal =>
            refine .inr ⟨nofun, ?_⟩
            rw [← role_of_hasRole_document written held]
            exact roleIsThere_of_ends_createPrincipal ended
        | updatePrincipal principal =>
            refine .inr ⟨nofun, ?_⟩
            rw [← role_of_hasRole_document written held]
            exact Classical.byContradiction fun missing =>
              careful rfl (.update principal missing)
        | setCredential target credential =>
            exact .inl (hasRole_of_revised (·.withCredential credential) (fun _ => rfl) written held)
        | requireReset target deadline =>
            exact .inl (hasRole_of_revised ({ · with resetDeadline := deadline }) (fun _ => rfl)
              written held)
        | deletePrincipal target =>
            obtain ⟨principal, ⟨json, isThere, _⟩, _⟩ := held
            cases isThere.symm.trans written
        | _ => cases isTarget
      · rw [Request.documentAfter_of_ne isTarget] at written
        exact .inl (hasRole_of_get?_eq written held)

/-- A role stays unless it is deleted. -/
theorem keepsRole_of_ne_deleteRole {role : Role} (kept : request ≠ .deleteRole name) :
    KeepsRole name role request.perform := by
  cases ordered : request.ordered with
  | true => exact keepsRole_perform ordered kept
  | false =>
      refine keepsRole_of_spares (spares_of_not_changes fun other changed same => ?_)
      have isRole : other = ⟨.role, name⟩ := RecordName.key_injective same
      subst isRole
      cases request with
      | deletePrincipal | listPrincipals | isAdmin | listRoles | putDevice | getDevice
      | listDevices | deleteDevice => simp [Request.changes] at changed
      | _ => cases ordered

/-- The role of a principal stays, whatever the operation, unless it leaves principals without their
roles. -/
theorem holds_role_of_careful {user : String} {role : Role}
    {result : Except DirectoryError request.Result}
    (ended : request.perform.Ends Store.MayReply store result after)
    (careful : result.isOk = true → ¬ Orphans store request) (owned : HasRole store user name)
    (held : store.Holds (roleKey name) role) : after.Holds (roleKey name) role := by
  by_cases deletes : request = .deleteRole name
  · subst deletes
    rcases ends_deleteRole ended with ⟨_, rfl⟩ | ⟨_, _, _, rfl, _⟩
    · exact held
    · exact absurd (.delete owned) (careful rfl)
  · exact keepsRole_of_ne_deleteRole deletes store result after held ended

/-- An operation that leaves a principal without its role does so whenever it succeeds. -/
theorem not_rolesAreThere_of_orphans {result : Except DirectoryError request.Result}
    (ended : request.perform.Ends Store.MayReply store result after) (succeeded : result.isOk = true)
    (orphans : Orphans store request) : ¬ RolesAreThere after := by
  intro present
  cases orphans with
  | update principal missing =>
      rcases ends_modifyPrincipal ended with ⟨⟨_, rfl⟩, _⟩ | ⟨_, _, _, rfl⟩
      · cases succeeded
      · obtain ⟨role, held⟩ :=
          present principal.name principal.role ⟨principal, holds_insert_document principal, rfl⟩
        rw [Store.holds_insert, if_neg (userKey_ne_roleKey _ _).symm] at held
        exact missing ⟨role, held⟩
  | @delete user name owned =>
      obtain ⟨principal, ⟨json, found, parsed⟩, named⟩ := owned
      rcases ends_deleteRole ended with ⟨⟨_, rfl⟩, _⟩ | ⟨_, _, _, _, rfl⟩
      · cases succeeded
      · have stays : HasRole (store.erase (roleKey name)) user name :=
          ⟨principal,
            ⟨json, (SortedMap.get?_erase_of_ne _ (userKey_ne_roleKey _ _)).trans found, parsed⟩, named⟩
        obtain ⟨role, json, gone, _⟩ := present user name stays
        rw [SortedMap.get?_erase_self] at gone
        cases gone

/-! ## Operations one after the other -/

/-- One operation: the store that it meets, what comes of it, and the store that it leaves. -/
structure Performance where
  request : Request
  before : Store
  result : Except DirectoryError request.Result
  after : Store

namespace Performance

/-- The operation may end in this way, at a store that may fail. -/
def Happens (performance : Performance) : Prop :=
  performance.request.perform.Ends Store.MayReply performance.before performance.result
    performance.after

/-- The operation succeeds and leaves a principal without its role. -/
def Orphans (performance : Performance) : Prop :=
  performance.result.isOk = true ∧ Directory.Orphans performance.before performance.request

/-- One operation keeps the role of everybody there, unless it leaves a principal without one. -/
theorem rolesAreThere_iff {performance : Performance} (happens : performance.Happens)
    (present : RolesAreThere performance.before) :
    RolesAreThere performance.after ↔ ¬ performance.Orphans := by
  constructor
  · rintro still ⟨succeeded, orphans⟩
    exact not_rolesAreThere_of_orphans happens succeeded orphans still
  · intro careful user name owned
    have spared : performance.result.isOk = true →
        ¬ Directory.Orphans performance.before performance.request :=
      fun succeeded orphans => careful ⟨succeeded, orphans⟩
    rcases hasRole_or_roleIsThere happens spared owned with ownedBefore | ⟨kept, role, held⟩
    · obtain ⟨role, held⟩ := present user name ownedBefore
      exact ⟨role, holds_role_of_careful happens spared ownedBefore held⟩
    · exact ⟨role, keepsRole_of_ne_deleteRole kept _ _ _ held happens⟩

/-- An operation on the store in memory. -/
def inMemory (store : Store) (request : Request) : Performance :=
  ⟨request, store, (request.perform.run Store.answer store).1,
    (request.perform.run Store.answer store).2⟩

theorem happens_inMemory (store : Store) (request : Request) : (inMemory store request).Happens :=
  Dialogue.ends_run Store.mayReply_answer _ _

end Performance

/-- Operations are performed one after the other, from a store to a store. -/
inductive Course : Store → List Performance → Store → Prop where
  | nil (store : Store) : Course store [] store
  | cons {performance : Performance} {rest : List Performance} {last : Store}
      (happens : performance.Happens) (others : Course performance.after rest last) :
      Course performance.before (performance :: rest) last

variable {seeded middle last : Store} {performances earlier later : List Performance}

theorem Course.rolesAreThere (course : Course store performances last)
    (present : RolesAreThere store)
    (careful : ∀ performance ∈ performances, ¬ performance.Orphans) : RolesAreThere last := by
  induction course with
  | nil store => exact present
  | cons happens others ih =>
      refine ih ((Performance.rolesAreThere_iff happens present).2 (careful _ List.mem_cons_self)) ?_
      exact fun performance isMember => careful performance (List.mem_cons_of_mem _ isMember)

/-- A role that somebody has all along stays as it is. -/
theorem Course.holds_role {user : String} {role : Role} (course : Course store performances last)
    (careful : ∀ performance ∈ performances, ¬ performance.Orphans)
    (owned : ∀ performance ∈ performances, HasRole performance.before user name)
    (held : store.Holds (roleKey name) role) : last.Holds (roleKey name) role := by
  induction course with
  | nil store => exact held
  | cons happens others ih =>
      refine ih (fun performance isMember => careful performance (List.mem_cons_of_mem _ isMember))
        (fun performance isMember => owned performance (List.mem_cons_of_mem _ isMember)) ?_
      refine holds_role_of_careful happens ?_ (owned _ List.mem_cons_self) held
      exact fun succeeded orphans => careful _ List.mem_cons_self ⟨succeeded, orphans⟩

/-- A new directory has no principals. -/
theorem rolesAreThere_of_seeded
    (ended : seedSystemRoles.Ends Store.MayReply .empty (.ok ()) store) : RolesAreThere store := by
  obtain rfl := eq_of_seeded ended
  rintro user name ⟨principal, ⟨json, found, _⟩, _⟩
  rw [SortedMap.get?_insert_of_ne _ _ (userKey_ne_roleKey _ _),
    SortedMap.get?_insert_of_ne _ _ (userKey_ne_roleKey _ _)] at found
  cases found

/-- Take any operations on a new directory, any of whose calls to the store may fail, such that none
replaces a record by one with a role that is not there, and none deletes a role that somebody has.
Then the role of every principal is there; it is these two kinds of operations that would change that;
and a role that somebody has all along stays the same, whatever is done to roles. -/
theorem roles_stay_there (start : seedSystemRoles.Ends Store.MayReply .empty (.ok ()) seeded)
    (first : Course seeded earlier middle) (second : Course middle later last)
    (careful : ∀ performance ∈ earlier ++ later, ¬ performance.Orphans) :
    RolesAreThere last ∧
      (∀ performance : Performance, performance.Happens → RolesAreThere performance.before →
        (RolesAreThere performance.after ↔ ¬ performance.Orphans)) ∧
      ∀ user name, ∀ role : Role,
        (∀ performance ∈ later, HasRole performance.before user name) →
          middle.Holds (roleKey name) role → last.Holds (roleKey name) role := by
  have carefulFirst : ∀ performance ∈ earlier, ¬ performance.Orphans :=
    fun performance isMember => careful performance (List.mem_append_left _ isMember)
  have carefulSecond : ∀ performance ∈ later, ¬ performance.Orphans :=
    fun performance isMember => careful performance (List.mem_append_right _ isMember)
  have present := first.rolesAreThere (rolesAreThere_of_seeded start) carefulFirst
  refine ⟨second.rolesAreThere present carefulSecond, ?_, ?_⟩
  · exact fun performance => Performance.rolesAreThere_iff
  · exact fun user name role owned => second.holds_role carefulSecond owned

end

/-! ### Roles that come and go -/

namespace Vacancy

/-- The store of a new directory. -/
def founded : Store := (seedSystemRoles.run Store.answer .empty).2

theorem founded_ends : seedSystemRoles.Ends Store.MayReply .empty (.ok ()) founded :=
  Dialogue.ends_run Store.mayReply_answer seedSystemRoles .empty

/-- Somebody with an ordinary role. -/
def bob : Principal := Principal.ofName "bob" "builder"

/-- The same person as an auditor. -/
def auditor : Principal := { bob with role := "auditor" }

/-- A role of auditors is added. -/
def opening : Performance := .inMemory founded (.createRole "auditor" false)

/-- Somebody is added as an auditor. -/
def hiring : Performance := .inMemory opening.after (.createPrincipal auditor)

/-- The record of the auditor gets another display name. -/
def correction : Performance :=
  .inMemory hiring.after (.updatePrincipal { auditor with displayName := "Bob" })

/-- The role of somebody whose record is replaced by another one with that role stays. -/
theorem roles_stay_there_correction :
    Course founded [opening, hiring] hiring.after ∧ Course hiring.after [correction] correction.after ∧
      RolesAreThere correction.after ∧
      correction.after.Holds (roleKey "auditor") (⟨"auditor", false, false⟩ : Role) := by
  have first : Course founded [opening, hiring] hiring.after :=
    .cons (Performance.happens_inMemory ..) (.cons (Performance.happens_inMemory ..) (.nil _))
  have second : Course hiring.after [correction] correction.after :=
    .cons (Performance.happens_inMemory ..) (.nil _)
  have isThere : hiring.after.Holds (roleKey "auditor") (⟨"auditor", false, false⟩ : Role) :=
    ⟨_, rfl, rfl⟩
  have careful : ∀ performance ∈ [opening, hiring] ++ [correction], ¬ performance.Orphans := by
    rintro performance isMember ⟨_, orphans⟩
    simp only [List.cons_append, List.nil_append, List.mem_cons, List.not_mem_nil, or_false]
      at isMember
    rcases isMember with rfl | rfl | rfl
    · cases orphans
    · cases orphans
    · cases orphans with
      | update _ missing => exact missing ⟨_, isThere⟩
  have stays := roles_stay_there founded_ends first second careful
  have owned : ∀ performance ∈ [correction], HasRole performance.before "bob" "auditor" := by
    intro performance isMember
    rw [List.mem_singleton.1 isMember]
    exact ⟨auditor, ⟨_, rfl, rfl⟩, rfl⟩
  exact ⟨first, second, stays.1, stays.2.2 "bob" "auditor" _ owned isThere⟩

/-- The record of somebody is replaced by one with a role that is not there. -/
def promotion : Performance :=
  .inMemory (Performance.inMemory founded (.createPrincipal bob)).after (.updatePrincipal auditor)

/-- A role is deleted that somebody has. -/
def closing : Performance := .inMemory hiring.after (.deleteRole "auditor")

/-- A role of auditors is added that has every right. -/
def reopening (store : Store) : Performance := .inMemory store (.createRole "auditor" true)

/-- Whether somebody has every right. -/
def mayDoAll (store : Store) : Except DirectoryError Bool :=
  ((isAdmin "bob").run Store.answer store).1

/-- The role of a principal is not always there: not after a change of the record, and not after a
deletion of the role.  When a role is added under that name then, somebody gets every right whose
record nobody touches. -/
theorem roles_not_always_there :
    (Reached promotion.after ∧ ¬ RolesAreThere promotion.after ∧
      mayDoAll promotion.after = .ok false ∧
      mayDoAll (reopening promotion.after).after = .ok true) ∧
    Reached closing.after ∧ ¬ RolesAreThere closing.after ∧
      mayDoAll closing.after = .ok false ∧ mayDoAll (reopening closing.after).after = .ok true := by
  have next {store : Store} (reached : Reached store) (request : Request) :
      Reached (Performance.inMemory store request).after :=
    reached.performed request (Performance.happens_inMemory store request)
  have orphaned {store : Store} (owned : HasRole store "bob" "auditor")
      (missing : store.get? (roleKey "auditor") = none) : ¬ RolesAreThere store := by
    intro present
    obtain ⟨role, json, found, _⟩ := present "bob" "auditor" owned
    cases found.symm.trans missing
  have begun : Reached founded := .seeded founded_ends
  refine ⟨⟨next (next begun _) _, ?_, ?_, ?_⟩, next (next (next begun _) _) _, ?_, ?_, ?_⟩
  · exact orphaned ⟨auditor, ⟨_, rfl, rfl⟩, rfl⟩ rfl
  · rfl
  · rfl
  · exact orphaned ⟨auditor, ⟨_, rfl, rfl⟩, rfl⟩ rfl
  · rfl
  · rfl

end Vacancy

end Gatehouse.Directory
