import Gatehouse.Proofs.Directory.Sections
/-!
# Adding principals

A principal is added under a free name, when its role is there.  As long as nobody removes
principals or deletes that role, the role stays, and so does the principal.
-/

namespace Gatehouse.Directory

open Interleaving

/-! ## Roles that stay -/

section

variable {store after : Store} {name : String} {role : Role}

theorem roleKey_injective {first second : String} (same : roleKey first = roleKey second) :
    first = second :=
  Key.append_injective same

/-- The operation keeps a role. -/
abbrev KeepsRole (name : String) (role : Role) {α : Type} (visit : Visit α) : Prop :=
  visit.Keeps Store.MayReply fun store => store.Holds (roleKey name) role

theorem keepsRole_of_spares {α : Type} {visit : Visit α} (spares : Spares (roleKey name) visit) :
    KeepsRole name role visit := by
  rintro store result after ⟨json, found, parsed⟩ ended
  exact ⟨json, (get?_of_spares spares ended).trans found, parsed⟩

/-- A role that is added where there is none is another one. -/
theorem keepsRole_add {other : String} {taken : Role → Op Unit} {added : Role}
    (ends : ∀ found, ∃ result, taken found = .done result) :
    KeepsRole name role (andThen (lookupRole other) fun
      | some found => taken found
      | none => write (roleKey other) added) := by
  by_cases same : other = name
  · subst same
    intro store result after held ended
    rcases ends_andThen.1 ended with ⟨error, looked, _⟩ | ⟨found, middle, looked, ended⟩
    · rwa [eq_of_ends_read looked]
    · obtain rfl := eq_of_ends_read looked
      cases found with
      | none =>
          obtain ⟨json, found, _⟩ := held
          rw [get?_of_ends_read_none looked] at found
          cases found
      | some found =>
          obtain ⟨result, isDone⟩ := ends found
          change (taken found).Ends _ _ _ _ at ended
          rw [isDone] at ended
          cases ended
          exact held
  · refine keepsRole_of_spares (asks_andThen spares_read ?_)
    rintro (_ | found)
    · exact spares_write fun equal => same (roleKey_injective equal)
    · obtain ⟨result, isDone⟩ := ends found
      change Spares _ (taken found)
      rw [isDone]
      exact .done _

theorem keepsRole_locked {op : Op Unit} (kept : KeepsRole name role op) :
    KeepsRole name role (locked op) :=
  fun store result after held ended => kept store result after held (ends_locked.1 ended)

theorem keepsRole_seedSystemRoles : KeepsRole name role seedSystemRoles := by
  refine keepsRole_locked (Dialogue.keeps_bind (keepsRole_add fun _ => ⟨_, rfl⟩) ?_)
  rintro (error | _)
  · exact Dialogue.keeps_done _
  · exact keepsRole_add fun _ => ⟨_, rfl⟩

theorem keepsRole_createRole (other : String) (admin : Bool) :
    KeepsRole name role (createRole other admin) := by
  unfold createRole
  split
  · exact Dialogue.keeps_done _
  · exact keepsRole_locked (keepsRole_add fun _ => ⟨_, rfl⟩)

/-- A role stays unless it is deleted. -/
theorem keepsRole_perform {request : Request} (ordered : request.ordered = true)
    (kept : request ≠ .deleteRole name) : KeepsRole name role request.perform := by
  have apart (user : String) : userKey user ≠ roleKey name := userKey_ne_roleKey user name
  cases request with
  | lookupPrincipal user => exact keepsRole_of_spares spares_read
  | createPrincipal principal =>
      exact keepsRole_of_spares (spares_createPrincipal principal (apart _))
  | updatePrincipal principal => exact keepsRole_of_spares (spares_modifyPrincipal (apart _))
  | setCredential user credential =>
      exact keepsRole_of_spares (spares_setCredential user credential (apart _))
  | requireReset user deadline => exact keepsRole_of_spares (spares_modifyPrincipal (apart _))
  | seedSystemRoles => exact keepsRole_seedSystemRoles
  | lookupRole role => exact keepsRole_of_spares spares_read
  | createRole other admin => exact keepsRole_createRole other admin
  | deleteRole other =>
      refine keepsRole_of_spares (spares_deleteRole other fun same => kept ?_)
      rw [roleKey_injective same]
  | _ => cases ordered

/-! ## Principals that are added -/

/-- With a store that does not fail, a principal is added under a free name when its role is
there. -/
theorem eq_ok_of_ends_createPrincipal (principal : Principal)
    {result : Except DirectoryError Unit} (valid : checkName principal.name = .ok ())
    (free : store.get? (userKey principal.name) = none)
    (held : store.Holds (roleKey principal.role) role)
    (ended : (createPrincipal principal).Ends Store.Answers store result after) :
    result = .ok () := by
  obtain ⟨json, found, parsed⟩ := held
  have runs := Dialogue.ends_iff_run.1 ended
  have decoded : decode (roleKey principal.role) json = .ok role := by rw [decode, parsed]
  simp only [createPrincipal, valid, locked, lookupPrincipal, lookupRole, andThen, read, write,
    Dialogue.bind_ask, Dialogue.bind_done, Dialogue.run, Store.answer, free, answered, found,
    Except.bind, decode?, decoded, Except.map, Prod.mk.injEq] at runs
  exact runs.1

/-- An operation that does not remove principals keeps a name taken or free, unless it adds the
principal with that name. -/
theorem isSome_get?_of_ends_perform {request : Request} {user : String}
    {result : Except DirectoryError request.Result} (ordered : request.ordered = true)
    (ended : request.perform.Ends Store.MayReply store result after)
    (other : (request.creates user && result.isOk) = false) :
    (after.get? (userKey user)).isSome = (store.get? (userKey user)).isSome := by
  have changed {target : String} {change : Principal → Principal}
      {result : Except DirectoryError Unit}
      (effect : ((∃ error, result = .error error) ∧ after = store) ∨
        ∃ principal : Principal, store.Holds (userKey target) principal ∧ result = .ok () ∧
          after = store.insert (userKey target) (Record.document (change principal))) :
      (after.get? (userKey target)).isSome = (store.get? (userKey target)).isSome := by
    rcases effect with ⟨_, rfl⟩ | ⟨principal, ⟨json, found, _⟩, _, rfl⟩
    · rfl
    · rw [SortedMap.get?_insert_self, found]
      rfl
  by_cases isTarget : request.target? = some user
  · cases request with
    | createPrincipal principal =>
        cases isTarget
        rcases ends_createPrincipal principal ended with ⟨_, rfl⟩ | ⟨_, rfl, _⟩
        · rfl
        · simp [Request.creates, Except.isOk, Except.toBool] at other
    | updatePrincipal principal =>
        cases isTarget
        exact changed (ends_modifyPrincipal ended)
    | setCredential target credential =>
        cases isTarget
        exact changed (ends_setCredential ended)
    | requireReset target deadline =>
        cases isTarget
        exact changed (ends_modifyPrincipal ended)
    | deletePrincipal target => cases ordered
    | _ => cases isTarget
  · rw [get?_of_spares (spares_perform isTarget) ended]

/-- An operation that has added a principal has put its document where there was none. -/
theorem ends_perform_of_creates {request : Request} {user : String}
    {result : Except DirectoryError request.Result}
    (ended : request.perform.Ends Store.MayReply store result after)
    (added : (request.creates user && result.isOk) = true) :
    store.get? (userKey user) = none ∧ ∃ principal : Principal,
      request = .createPrincipal principal ∧ principal.name = user ∧
        after.get? (userKey user) = some (Record.document principal) := by
  obtain ⟨creates, isOk⟩ := Bool.and_eq_true_iff.1 added
  obtain ⟨principal, rfl, rfl⟩ := Request.exists_of_creates creates
  rcases ends_createPrincipal principal ended with ⟨⟨_, rfl⟩, _⟩ | ⟨free, _, rfl⟩
  · cases isOk
  · exact ⟨free, principal, rfl, rfl, SortedMap.get?_insert_self ..⟩

/-- What is there stays, unless principals are removed. -/
theorem isSome_get?_mono {request : Request} {user : String}
    {result : Except DirectoryError request.Result} (ordered : request.ordered = true)
    (ended : request.perform.Ends Store.MayReply store result after)
    (taken : (store.get? (userKey user)).isSome) : (after.get? (userKey user)).isSome := by
  cases added : request.creates user && result.isOk with
  | true =>
      obtain ⟨_, _, _, _, stored⟩ := ends_perform_of_creates ended added
      rw [stored]
      rfl
  | false => rwa [isSome_get?_of_ends_perform ordered ended added]

/-- After an attempt to add a principal its name is taken, when the store does not fail. -/
theorem isSome_get?_of_creation {request : Request} {principal : Principal}
    {result : Except DirectoryError request.Result}
    (isCreation : request = .createPrincipal principal)
    (valid : checkName principal.name = .ok ()) (held : store.Holds (roleKey principal.role) role)
    (ended : request.perform.Ends Store.Answers store result after) :
    (after.get? (userKey principal.name)).isSome := by
  subst isCreation
  cases free : store.get? (userKey principal.name) with
  | some json => exact isSome_get?_mono rfl (ended.mono .inl) (Option.isSome_of_eq_some free)
  | none =>
      obtain rfl := eq_ok_of_ends_createPrincipal principal valid free held ended
      rcases ends_createPrincipal principal (ended.mono .inl) with ⟨⟨_, failed⟩, _⟩ | ⟨_, _, rfl⟩
      · cases failed
      · rw [SortedMap.get?_insert_self]
        rfl

theorem takesLock_of_creation {request : Request} {principal : Principal}
    (isCreation : request = .createPrincipal principal)
    (valid : checkName principal.name = .ok ()) : takesLock request.perform = true := by
  subst isCreation
  change takesLock (createPrincipal principal) = true
  rw [createPrincipal, valid]
  rfl

end

end Gatehouse.Directory
