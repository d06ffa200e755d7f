import Gatehouse.Proofs.Directory.Additions
/-!
# Roles of the system

Once the roles of the system are there, they stay as they are: only the seeding writes such roles, it
does so only where there are none, and no role of the system is ever deleted.  Every operation may fail
at any call to the store.
-/

namespace Gatehouse.Directory

variable {store after : Store} {name : String}

/-- The roles of the system. -/
def systemRoles : List Role := [⟨adminRole, true, true⟩, ⟨userRole, true, false⟩]

theorem system_of_mem_systemRoles {role : Role} (isSystem : role ∈ systemRoles) :
    role.system = true := by
  revert role
  decide

theorem name_of_mem_systemRoles {role : Role} (isSystem : role ∈ systemRoles) :
    role.name = adminRole ∨ role.name = userRole := by
  revert role
  decide

/-! ## Operations on roles -/

/-- Seeding a role changes nothing, or it puts the document of the role where there was none; when it
succeeds, there is something. -/
theorem ends_seedRole {admin : Bool} {result : Except DirectoryError Unit}
    (ended : (seedRole name admin).Ends Store.MayReply store result after) :
    (after = store ∧ (result = .ok () → ∃ role : Role, store.Holds (roleKey name) role)) ∨
      store.get? (roleKey name) = none ∧ result = .ok () ∧
        after = store.insert (roleKey name) (Record.document (⟨name, true, admin⟩ : Role)) := by
  rcases ends_andThen.1 ended with ⟨error, looked, rfl⟩ | ⟨found, middle, looked, ended⟩
  · exact .inl ⟨eq_of_ends_read looked, nofun⟩
  obtain rfl := eq_of_ends_read looked
  cases found with
  | some role =>
      obtain ⟨rfl, rfl⟩ := Dialogue.ends_done.1 ended
      exact .inl ⟨rfl, fun _ => ⟨role, holds_of_ends_read looked⟩⟩
  | none =>
      rcases ends_write ended with ⟨⟨error, rfl⟩, rfl⟩ | ⟨rfl, rfl⟩
      · exact .inl ⟨rfl, nofun⟩
      · exact .inr ⟨get?_of_ends_read_none looked, rfl, rfl⟩

/-- Adding a role changes nothing, or it puts a role that is not one of the system where there was
none. -/
theorem ends_createRole {admin : Bool} {result : Except DirectoryError Unit}
    (ended : (createRole name admin).Ends Store.MayReply store result after) :
    after = store ∨ ∃ normal, store.get? (roleKey normal) = none ∧
      after = store.insert (roleKey normal) (Record.document (⟨normal, false, admin⟩ : Role)) := by
  unfold createRole at ended
  split at ended
  · exact .inl (Dialogue.ends_done.1 ended).2
  rename_i normal isNormal
  rcases ends_andThen.1 (ends_locked.1 ended) with
    ⟨error, looked, rfl⟩ | ⟨found, middle, looked, ended⟩
  · exact .inl (eq_of_ends_read looked)
  obtain rfl := eq_of_ends_read looked
  cases found with
  | some role => exact .inl (Dialogue.ends_done.1 ended).2
  | none =>
      rcases ends_write ended with ⟨_, rfl⟩ | ⟨_, rfl⟩
      · exact .inl rfl
      · exact .inr ⟨normal, get?_of_ends_read_none looked, rfl⟩

/-- Deleting a role fails and changes nothing, or the role was not one of the system. -/
theorem ends_deleteRole {result : Except DirectoryError Unit}
    (ended : (deleteRole name).Ends Store.MayReply store result after) :
    ((∃ error, result = .error error) ∧ after = store) ∨
      ∃ role : Role, store.Holds (roleKey name) role ∧ role.system = false ∧ result = .ok () ∧
        after = store.erase (roleKey name) := by
  rcases ends_andThen.1 (ends_locked.1 ended) with
    ⟨error, looked, rfl⟩ | ⟨found, middle, looked, ended⟩
  · exact .inl ⟨⟨error, rfl⟩, eq_of_ends_read looked⟩
  obtain rfl := eq_of_ends_read looked
  cases found with
  | none =>
      obtain ⟨rfl, rfl⟩ := Dialogue.ends_done.1 ended
      exact .inl ⟨⟨_, rfl⟩, rfl⟩
  | some role =>
      dsimp only at ended
      split at ended
      · obtain ⟨rfl, rfl⟩ := Dialogue.ends_done.1 ended
        exact .inl ⟨⟨_, rfl⟩, rfl⟩
      · rename_i notSystem
        rcases ends_andThen.1 ended with ⟨error, removed, rfl⟩ | ⟨value, middle, removed, ended⟩
        · rcases ends_remove removed with ⟨_, rfl⟩ | ⟨impossible, _⟩
          · exact .inl ⟨⟨error, rfl⟩, rfl⟩
          · cases impossible
        · obtain ⟨rfl, rfl⟩ := Dialogue.ends_done.1 ended
          rcases ends_remove removed with ⟨⟨error, impossible⟩, _⟩ | ⟨_, rfl⟩
          · cases impossible
          · exact .inr ⟨role, holds_of_ends_read looked, Bool.eq_false_iff.2 notSystem, rfl, rfl⟩

/-! ## Changes of a role -/

/-- What an operation may make of the document of a role. -/
inductive RoleChange (name : String) : Option Json → Option Json → Prop where
  | kept (document : Option Json) : RoleChange name document document
  | seeded {role : Role} (isSystem : role ∈ systemRoles) (named : role.name = name) :
      RoleChange name none (some (Record.document role))
  | created {role : Role} (plain : role.system = false) (named : role.name = name) :
      RoleChange name none (some (Record.document role))
  | deleted {json : Json} {role : Role} (parsed : Record.parse? json = some role)
      (plain : role.system = false) : RoleChange name (some json) none

theorem get?_insert_role (given : String) (document : Json) :
    (store.insert (roleKey given) document).get? (roleKey name) =
      if given = name then some document else store.get? (roleKey name) := by
  by_cases named : given = name
  · rw [if_pos named, named, SortedMap.get?_insert_self]
  · rw [if_neg named, SortedMap.get?_insert_of_ne _ _ fun same => named (roleKey_injective same).symm]

theorem get?_of_ends_seedRole {role : Role} (isSystem : role ∈ systemRoles)
    {result : Except DirectoryError Unit}
    (ended : (seedRole role.name role.admin).Ends Store.MayReply store result after) :
    after.get? (roleKey name) = store.get? (roleKey name) ∨
      store.get? (roleKey name) = none ∧ role.name = name ∧
        after.get? (roleKey name) = some (Record.document role) := by
  rcases ends_seedRole ended with ⟨rfl, _⟩ | ⟨free, _, rfl⟩
  · exact .inl rfl
  · rw [get?_insert_role, ← system_of_mem_systemRoles isSystem]
    by_cases named : role.name = name
    · rw [if_pos named, ← named]
      exact .inr ⟨free, rfl, rfl⟩
    · exact .inl (if_neg named)

theorem roleChange_seedSystemRoles {result : Except DirectoryError Unit}
    (ended : seedSystemRoles.Ends Store.MayReply store result after) (name : String) :
    RoleChange name (store.get? (roleKey name)) (after.get? (roleKey name)) := by
  have admin : (⟨adminRole, true, true⟩ : Role) ∈ systemRoles := by decide
  have user : (⟨userRole, true, false⟩ : Role) ∈ systemRoles := by decide
  rcases ends_andThen.1 (ends_locked.1 ended) with ⟨error, seeded, _⟩ | ⟨_, middle, first, second⟩
  · rcases get?_of_ends_seedRole admin seeded with same | ⟨free, named, added⟩
    · rw [same]
      exact .kept _
    · rw [free, added]
      exact .seeded admin named
  · rcases get?_of_ends_seedRole admin first with same | ⟨free, named, added⟩ <;>
      rcases get?_of_ends_seedRole user second with again | ⟨stillFree, alsoNamed, alsoAdded⟩
    · rw [again, same]
      exact .kept _
    · rw [← same, stillFree, alsoAdded]
      exact .seeded user alsoNamed
    · rw [free, again, added]
      exact .seeded admin named
    · cases added.symm.trans stillFree

theorem roleChange_createRole {given : String} {admin : Bool} {result : Except DirectoryError Unit}
    (ended : (createRole given admin).Ends Store.MayReply store result after) (name : String) :
    RoleChange name (store.get? (roleKey name)) (after.get? (roleKey name)) := by
  rcases ends_createRole ended with rfl | ⟨normal, free, rfl⟩
  · exact .kept _
  · rw [get?_insert_role]
    split
    · rename_i named
      subst named
      rw [free]
      exact .created rfl rfl
    · exact .kept _

theorem roleChange_deleteRole {given : String} {result : Except DirectoryError Unit}
    (ended : (deleteRole given).Ends Store.MayReply store result after) (name : String) :
    RoleChange name (store.get? (roleKey name)) (after.get? (roleKey name)) := by
  rcases ends_deleteRole ended with ⟨_, rfl⟩ | ⟨role, ⟨json, found, parsed⟩, plain, _, rfl⟩
  · exact .kept _
  · by_cases same : name = given
    · subst same
      rw [found, SortedMap.get?_erase_self]
      exact .deleted parsed plain
    · rw [SortedMap.get?_erase_of_ne _ fun keys => same (roleKey_injective keys)]
      exact .kept _

/-- Whatever operation is performed, a role is kept, added where there was none, or deleted unless it is
one of the system; and only the seeding adds roles of the system. -/
theorem roleChange_of_ends_perform {request : Request}
    {result : Except DirectoryError request.Result}
    (ended : request.perform.Ends Store.MayReply store result after) (name : String) :
    RoleChange name (store.get? (roleKey name)) (after.get? (roleKey name)) := by
  by_cases isNamed : ⟨.role, name⟩ ∈ request.changes
  · cases request with
    | seedSystemRoles => exact roleChange_seedSystemRoles ended name
    | createRole given admin => exact roleChange_createRole ended name
    | deleteRole given => exact roleChange_deleteRole ended name
    | _ => simp [Request.changes] at isNamed
  · have spares : Spares (roleKey name) request.perform := by
      refine spares_of_not_changes fun other changed same => isNamed ?_
      have isRole : other = ⟨.role, name⟩ := RecordName.key_injective same
      exact isRole ▸ changed
    rw [get?_of_spares spares ended]
    exact .kept _

/-! ## Directories in use -/

/-- The stores that a directory may come to: the roles of the system were added to a store without
entries, and then operations were performed, each to its end.  Any call to the store may have failed. -/
inductive Reached : Store → Prop where
  | seeded {store : Store}
      (ended : seedSystemRoles.Ends Store.MayReply .empty (.ok ()) store) : Reached store
  | performed {store after : Store} (reached : Reached store) (request : Request)
      {result : Except DirectoryError request.Result}
      (ended : request.perform.Ends Store.MayReply store result after) : Reached after

/-- The roles of the system are in the store as they are seeded, and no others. -/
structure HasSystemRoles (store : Store) : Prop where
  seeded : ∀ role ∈ systemRoles, store.get? (roleKey role.name) = some (Record.document role)
  only : ∀ name, ∀ role : Role, store.Holds (roleKey name) role → role.system = true →
    role ∈ systemRoles ∧ role.name = name

/-- Seeding that succeeds puts both roles of the system into a store without entries. -/
theorem eq_of_seeded (ended : seedSystemRoles.Ends Store.MayReply .empty (.ok ()) store) :
    store = (SortedMap.empty.insert (roleKey adminRole)
      (Record.document (⟨adminRole, true, true⟩ : Role))).insert (roleKey userRole)
        (Record.document (⟨userRole, true, false⟩ : Role)) := by
  rcases ends_andThen.1 (ends_locked.1 ended) with
    ⟨error, _, impossible⟩ | ⟨_, middle, first, second⟩
  · cases impossible
  rcases ends_seedRole first with ⟨_, taken⟩ | ⟨_, _, rfl⟩
  · obtain ⟨role, json, impossible, _⟩ := taken rfl
    cases impossible
  rcases ends_seedRole second with ⟨_, taken⟩ | ⟨_, _, rfl⟩
  · obtain ⟨role, json, impossible, _⟩ := taken rfl
    cases impossible
  · rfl

theorem hasSystemRoles_of_seeded
    (ended : seedSystemRoles.Ends Store.MayReply .empty (.ok ()) store) : HasSystemRoles store := by
  obtain rfl := eq_of_seeded ended
  constructor
  · intro role isSystem
    simp only [systemRoles, List.mem_cons, List.not_mem_nil, or_false] at isSystem
    rcases isSystem with rfl | rfl <;> rfl
  · rintro name role ⟨json, found, parsed⟩ _
    rw [get?_insert_role, get?_insert_role] at found
    split at found
    · rename_i isUser
      cases found
      rw [LawfulRecord.parse?_document] at parsed
      cases parsed
      exact ⟨by decide, isUser⟩
    split at found
    · rename_i isAdmin
      cases found
      rw [LawfulRecord.parse?_document] at parsed
      cases parsed
      exact ⟨by decide, isAdmin⟩
    · cases found

/-- Every operation keeps the roles of the system. -/
theorem HasSystemRoles.perform {request : Request}
    {result : Except DirectoryError request.Result} (has : HasSystemRoles store)
    (ended : request.perform.Ends Store.MayReply store result after) : HasSystemRoles after where
  seeded role isSystem := by
    have change := roleChange_of_ends_perform ended role.name
    rw [has.seeded role isSystem] at change
    generalize after.get? (roleKey role.name) = document at change
    cases change with
    | kept => rfl
    | deleted parsed plain =>
        rw [LawfulRecord.parse?_document] at parsed
        cases parsed
        rw [system_of_mem_systemRoles isSystem] at plain
        cases plain
  only name role held system := by
    obtain ⟨json, found, parsed⟩ := held
    have change := roleChange_of_ends_perform ended name
    rw [found] at change
    generalize before : store.get? (roleKey name) = document at change
    cases change with
    | kept => exact has.only name role ⟨json, before, parsed⟩ system
    | seeded isSystem named =>
        rw [LawfulRecord.parse?_document] at parsed
        cases parsed
        exact ⟨isSystem, named⟩
    | created plain named =>
        rw [LawfulRecord.parse?_document] at parsed
        cases parsed
        rw [system] at plain
        cases plain

theorem HasSystemRoles.eq_of_holds {role other : Role} (has : HasSystemRoles store)
    (isSystem : role ∈ systemRoles) (held : store.Holds (roleKey role.name) other) :
    other = role := by
  obtain ⟨json, found, parsed⟩ := held
  cases found.symm.trans (has.seeded role isSystem)
  rw [LawfulRecord.parse?_document] at parsed
  exact (Option.some.inj parsed).symm

/-- Deleting a role of the system fails and changes nothing. -/
theorem HasSystemRoles.deleteRole {role : Role} {result : Except DirectoryError Unit}
    (has : HasSystemRoles store) (isSystem : role ∈ systemRoles)
    (ended : (deleteRole role.name).Ends Store.MayReply store result after) :
    (∃ error, result = .error error) ∧ after = store := by
  rcases ends_deleteRole ended with failed | ⟨other, held, plain, _⟩
  · exact failed
  · obtain rfl := has.eq_of_holds isSystem held
    rw [system_of_mem_systemRoles isSystem] at plain
    cases plain

theorem Reached.hasSystemRoles (reached : Reached store) : HasSystemRoles store := by
  induction reached with
  | seeded ended => exact hasSystemRoles_of_seeded ended
  | performed _ _ ended ih => exact ih.perform ended

/-- In every directory in use, the roles of the system are there as they were seeded, deleting one of
them fails, and no other role is one of the system. -/
theorem system_roles_stay (reached : Reached store) :
    store.get? (roleKey adminRole) = some (Record.document (⟨adminRole, true, true⟩ : Role)) ∧
      store.get? (roleKey userRole) = some (Record.document (⟨userRole, true, false⟩ : Role)) ∧
      (∀ name, name = adminRole ∨ name = userRole → ∀ result after,
        (deleteRole name).Ends Store.MayReply store result after →
          (∃ error, result = .error error) ∧ after = store) ∧
      ∀ name, ∀ role : Role, store.Holds (roleKey name) role → role.system = true →
        name = adminRole ∨ name = userRole := by
  have has := reached.hasSystemRoles
  have admin : (⟨adminRole, true, true⟩ : Role) ∈ systemRoles := by decide
  have user : (⟨userRole, true, false⟩ : Role) ∈ systemRoles := by decide
  refine ⟨has.seeded _ admin, has.seeded _ user, ?_, fun name role held system => ?_⟩
  · rintro name (rfl | rfl) result after ended
    · exact has.deleteRole admin ended
    · exact has.deleteRole user ended
  · obtain ⟨isSystem, rfl⟩ := has.only name role held system
    exact name_of_mem_systemRoles isSystem

/-! ### A role that is added at the second attempt -/

namespace Auditors

/-- The store of a new directory. -/
def seeded : Store := (seedSystemRoles.run Store.answer .empty).2

/-- The store with a role of auditors. -/
def extended : Store := ((createRole " auditor " true).run Store.answer seeded).2

theorem reached : Reached extended := by
  have start : Reached seeded :=
    .seeded (Dialogue.ends_run Store.mayReply_answer seedSystemRoles .empty)
  -- At the first attempt the store does not answer the look for the role.
  have failed : (createRole " auditor " true).Ends Store.MayReply seeded
      (.error (.unavailable (.unavailable "timeout"))) seeded :=
    .ask (Store.mayReply_answer ..) (.ask (.inr ⟨.unavailable "timeout", rfl, rfl⟩)
      (.ask (Store.mayReply_answer ..) (.done _ _)))
  have again : Reached seeded := start.performed (.createRole " auditor " true) failed
  exact again.performed (.createRole " auditor " true)
    (Dialogue.ends_run Store.mayReply_answer (createRole " auditor " true) seeded)

/-- Auditors have every right, and still their role is none of the system. -/
theorem system_roles_stay_auditors :
    extended.Holds (roleKey "auditor") (⟨"auditor", false, true⟩ : Role) ∧
      extended.get? (roleKey adminRole) = some (Record.document (⟨adminRole, true, true⟩ : Role)) ∧
      ∀ result after, (deleteRole adminRole).Ends Store.MayReply extended result after →
        (∃ error, result = .error error) ∧ after = extended :=
  ⟨⟨_, rfl, rfl⟩, (system_roles_stay reached).1,
    (system_roles_stay reached).2.2.1 adminRole (.inl rfl)⟩

end Auditors

end Gatehouse.Directory
