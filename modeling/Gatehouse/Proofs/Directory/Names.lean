import Gatehouse.Proofs.Directory.Effects
import Gatehouse.Proofs.Directory.Keys
/-!
# Keys and names of principals

A principal is stored at the key of its name.  Every operation on the directory keeps it so,
whichever of its calls fail, because a record is written at the key of its own name, and a changed
record keeps the name of the one that was read.
-/

namespace Gatehouse.Directory

/-- What is stored as a principal has the name that belongs to its key. -/
def NamesAgree (store : Store) : Prop :=
  ∀ name (principal : Principal), store.Holds (userKey name) principal → principal.name = name

theorem userKey_injective {first second : String} (same : userKey first = userKey second) :
    first = second :=
  Key.append_injective same

theorem userKey_ne_roleKey (user role : String) : userKey user ≠ roleKey role := by
  intro same
  have sameName : (⟨.principal, user⟩ : RecordName) = ⟨.role, role⟩ := RecordName.key_injective same
  cases sameName

theorem userKey_ne_deviceKey (user mac : String) : userKey user ≠ deviceKey mac := by
  intro same
  have sameName : (⟨.principal, user⟩ : RecordName) = ⟨.device, mac⟩ := RecordName.key_injective same
  cases sameName

theorem NamesAgree.erase {store : Store} (agree : NamesAgree store) (key : String) :
    NamesAgree (store.erase key) :=
  fun name principal held => agree name principal (Store.holds_of_holds_erase held)

/-- Another kind of record does not matter. -/
theorem NamesAgree.insert_other {store : Store} (agree : NamesAgree store) {key : String}
    (apart : ∀ name, userKey name ≠ key) (json : Json) : NamesAgree (store.insert key json) := by
  intro name principal held
  rw [Store.holds_insert, if_neg (apart name)] at held
  exact agree name principal held

/-- A record at the key of its own name is right. -/
theorem NamesAgree.insert_principal {store : Store} (agree : NamesAgree store)
    (principal : Principal) :
    NamesAgree (store.insert (userKey principal.name) (Record.document principal)) := by
  intro name found held
  rw [Store.holds_insert] at held
  split at held
  · rename_i same
    rw [LawfulRecord.parse?_document] at held
    cases held
    exact (userKey_injective same).symm
  · exact agree name found held

/-! ## The operations -/

/-- The operation keeps keys and names together. -/
abbrev KeepsNames {α : Type} (visit : Visit α) : Prop := visit.Keeps Store.MayReply NamesAgree

variable {α β : Type}

theorem keepsNames_ask_of_looks {call : StoreCall} {next : call.Answer → Visit α}
    (looks : ∀ store : Store, (store.answer call).2 = store)
    (rest : ∀ answer, KeepsNames (next answer)) :
    KeepsNames (.ask call next) :=
  Dialogue.keeps_ask
    (fun _ _ _ agree replied => by rwa [Store.eq_of_mayReply (looks _) replied]) rest

theorem keepsNames_andThen {op : Op α} {next : α → Op β} (first : KeepsNames op)
    (rest : ∀ value, KeepsNames (next value)) : KeepsNames (andThen op next) := by
  refine Dialogue.keeps_bind first ?_
  rintro (error | value)
  · exact Dialogue.keeps_done _
  · exact rest value

theorem keepsNames_locked {op : Op α} (kept : KeepsNames op) : KeepsNames (locked op) :=
  keepsNames_ask_of_looks (fun _ => rfl) fun _ =>
    Dialogue.keeps_bind kept fun _ => keepsNames_ask_of_looks (fun _ => rfl) fun _ =>
      Dialogue.keeps_done _

theorem keepsNames_read [Record α] (key : String) : KeepsNames (read key : Op (Option α)) :=
  keepsNames_ask_of_looks (fun _ => rfl) fun _ => Dialogue.keeps_done _

theorem keepsNames_list [Record α] (start : String) : KeepsNames (list start : Op (List α)) :=
  keepsNames_ask_of_looks (fun _ => rfl) fun _ => Dialogue.keeps_done _

theorem keepsNames_remove (key : String) : KeepsNames (remove key) := by
  refine Dialogue.keeps_ask ?_ fun _ => Dialogue.keeps_done _
  rintro store answer after agree replied
  rcases Store.eq_or_eq_of_mayReply replied with rfl | rfl
  · exact agree
  · exact agree.erase key

theorem keepsNames_write [Record α] {key : String} {record : α}
    (kept : ∀ store, NamesAgree store → NamesAgree (store.insert key (Record.document record))) :
    KeepsNames (write key record) := by
  intro store result after agree written
  rcases ends_write written with ⟨_, rfl⟩ | ⟨_, rfl⟩
  · exact agree
  · exact kept store agree

theorem keepsNames_write_other [Record α] {key : String} (apart : ∀ name, userKey name ≠ key)
    (record : α) : KeepsNames (write key record) :=
  keepsNames_write fun _ agree => agree.insert_other apart _

theorem keepsNames_write_principal (principal : Principal) :
    KeepsNames (write (userKey principal.name) principal) :=
  keepsNames_write fun _ agree => agree.insert_principal principal

/-- A changed record keeps its place when the change keeps its name. -/
theorem keepsNames_modifyPrincipal {name : String} {change : Principal → Principal}
    (same : ∀ principal, principal.name = name → (change principal).name = name) :
    KeepsNames (modifyPrincipal name change) := by
  intro store result after agree modified
  rcases ends_modifyPrincipal modified with ⟨_, rfl⟩ | ⟨principal, held, _, rfl⟩
  · exact agree
  · have written := agree.insert_principal (change principal)
    rwa [same principal (agree name principal held)] at written

theorem keepsNames_createPrincipal (principal : Principal) :
    KeepsNames (createPrincipal principal) := by
  unfold createPrincipal
  split
  · exact Dialogue.keeps_done _
  · refine keepsNames_locked (keepsNames_andThen (keepsNames_read _) ?_)
    rintro (_ | _)
    · refine keepsNames_andThen (keepsNames_read _) ?_
      rintro (_ | _)
      · exact Dialogue.keeps_done _
      · exact keepsNames_write_principal principal
    · exact Dialogue.keeps_done _

theorem keepsNames_setCredential (name credential : String) :
    KeepsNames (setCredential name credential) := by
  unfold setCredential
  split
  · exact Dialogue.keeps_done _
  · exact keepsNames_modifyPrincipal fun _ named => named

theorem keepsNames_deletePrincipal (name : String) : KeepsNames (deletePrincipal name) := by
  refine keepsNames_andThen (keepsNames_remove _) ?_
  rintro (_ | _) <;> exact Dialogue.keeps_done _

theorem keepsNames_isAdmin (name : String) : KeepsNames (isAdmin name) := by
  refine keepsNames_andThen (keepsNames_read _) ?_
  rintro (_ | principal)
  · exact Dialogue.keeps_done _
  · dsimp only
    split
    · exact keepsNames_andThen (keepsNames_read _) fun _ => Dialogue.keeps_done _
    · exact Dialogue.keeps_done _

theorem keepsNames_seedRole (name : String) (admin : Bool) : KeepsNames (seedRole name admin) := by
  refine keepsNames_andThen (keepsNames_read _) ?_
  rintro (_ | _)
  · exact keepsNames_write_other (fun user => userKey_ne_roleKey user name) _
  · exact Dialogue.keeps_done _

theorem keepsNames_seedSystemRoles : KeepsNames seedSystemRoles :=
  keepsNames_locked (keepsNames_andThen (keepsNames_seedRole _ _) fun _ => keepsNames_seedRole _ _)

theorem keepsNames_createRole (name : String) (admin : Bool) :
    KeepsNames (createRole name admin) := by
  unfold createRole
  split
  · exact Dialogue.keeps_done _
  · refine keepsNames_locked (keepsNames_andThen (keepsNames_read _) ?_)
    rintro (_ | _)
    · exact keepsNames_write_other (fun user => userKey_ne_roleKey user _) _
    · exact Dialogue.keeps_done _

theorem keepsNames_deleteRole (name : String) : KeepsNames (deleteRole name) := by
  refine keepsNames_locked (keepsNames_andThen (keepsNames_read _) ?_)
  rintro (_ | role)
  · exact Dialogue.keeps_done _
  · dsimp only
    split
    · exact Dialogue.keeps_done _
    · exact keepsNames_andThen (keepsNames_remove _) fun _ => Dialogue.keeps_done _

theorem keepsNames_putDevice (device : Device) : KeepsNames (putDevice device) := by
  unfold putDevice
  split
  · exact Dialogue.keeps_done _
  · exact keepsNames_andThen (keepsNames_write_other (fun user => userKey_ne_deviceKey user _) _)
      fun _ => Dialogue.keeps_done _

theorem keepsNames_getDevice (mac : String) : KeepsNames (getDevice mac) := by
  unfold getDevice
  split
  · exact Dialogue.keeps_done _
  · exact keepsNames_read _

theorem keepsNames_deleteDevice (mac : String) : KeepsNames (deleteDevice mac) := by
  unfold deleteDevice
  split
  · exact Dialogue.keeps_done _
  · exact keepsNames_remove _

/-! ## Any operation -/

/-- An operation on the directory, with its arguments. -/
inductive Request where
  | lookupPrincipal (name : String)
  | createPrincipal (principal : Principal)
  | updatePrincipal (principal : Principal)
  | setCredential (name credential : String)
  | requireReset (name : String) (deadline : Option Instant)
  | deletePrincipal (name : String)
  | listPrincipals
  | isAdmin (name : String)
  | seedSystemRoles
  | lookupRole (name : String)
  | listRoles
  | createRole (name : String) (admin : Bool)
  | deleteRole (name : String)
  | putDevice (device : Device)
  | getDevice (mac : String)
  | listDevices
  | deleteDevice (mac : String)

/-- What an operation results in. -/
abbrev Request.Result : Request → Type
  | .lookupPrincipal _ => Option Principal
  | .listPrincipals => List Principal
  | .isAdmin _ => Bool
  | .lookupRole _ => Option Role
  | .listRoles => List Role
  | .putDevice _ => Device
  | .getDevice _ => Option Device
  | .listDevices => List Device
  | .deleteDevice _ => Bool
  | _ => Unit

/-- Perform an operation. -/
def Request.perform : (request : Request) → Op request.Result
  | .lookupPrincipal name => Directory.lookupPrincipal name
  | .createPrincipal principal => Directory.createPrincipal principal
  | .updatePrincipal principal => Directory.updatePrincipal principal
  | .setCredential name credential => Directory.setCredential name credential
  | .requireReset name deadline => Directory.requireReset name deadline
  | .deletePrincipal name => Directory.deletePrincipal name
  | .listPrincipals => Directory.listPrincipals
  | .isAdmin name => Directory.isAdmin name
  | .seedSystemRoles => Directory.seedSystemRoles
  | .lookupRole name => Directory.lookupRole name
  | .listRoles => Directory.listRoles
  | .createRole name admin => Directory.createRole name admin
  | .deleteRole name => Directory.deleteRole name
  | .putDevice device => Directory.putDevice device
  | .getDevice mac => Directory.getDevice mac
  | .listDevices => Directory.listDevices
  | .deleteDevice mac => Directory.deleteDevice mac

/-- Every operation keeps keys and names of principals together. -/
theorem keepsNames_perform (request : Request) : KeepsNames request.perform := by
  cases request with
  | lookupPrincipal name => exact keepsNames_read _
  | createPrincipal principal => exact keepsNames_createPrincipal principal
  | updatePrincipal principal => exact keepsNames_modifyPrincipal fun _ _ => rfl
  | setCredential name credential => exact keepsNames_setCredential name credential
  | requireReset name deadline => exact keepsNames_modifyPrincipal fun _ named => named
  | deletePrincipal name => exact keepsNames_deletePrincipal name
  | listPrincipals => exact keepsNames_list _
  | isAdmin name => exact keepsNames_isAdmin name
  | seedSystemRoles => exact keepsNames_seedSystemRoles
  | lookupRole name => exact keepsNames_read _
  | listRoles => exact keepsNames_list _
  | createRole name admin => exact keepsNames_createRole name admin
  | deleteRole name => exact keepsNames_deleteRole name
  | putDevice device => exact keepsNames_putDevice device
  | getDevice mac => exact keepsNames_getDevice mac
  | listDevices => exact keepsNames_list _
  | deleteDevice mac => exact keepsNames_deleteDevice mac

end Gatehouse.Directory
