import Gatehouse.Proofs.Directory.Documents
import Gatehouse.Proofs.Directory.Registry
/-!
# The directory runs as its three tables

Each operation on the store of a registry has the result that it has on the registry, and leaves the
store of the registry that it leaves.  So every history of a directory is one of three tables, and what
an operation may touch is read off the tables.
-/

namespace Gatehouse.Directory

variable {α β : Type} {registry middle : Registry} {kind : RecordKind}

/-- The operation runs on the store of a registry to a result and to the store of another registry. -/
def Simulates (op : Op α) (registry : Registry) (ended : Except DirectoryError α × Registry) : Prop :=
  op.run Store.answer registry.store = (ended.1, ended.2.store)

/-! ## Building blocks -/

theorem simulates_done (result : Except DirectoryError α) :
    Simulates (.done result) registry (result, registry) := rfl

theorem simulates_andThen {op : Op α} {next : α → Op β} {value : α}
    {ended : Except DirectoryError β × Registry} (first : Simulates op registry (.ok value, middle))
    (rest : Simulates (next value) middle ended) : Simulates (andThen op next) registry ended := by
  unfold Simulates at first rest ⊢
  rw [andThen, Dialogue.run_bind, first]
  exact rest

theorem simulates_locked {op : Op α} {ended : Except DirectoryError α × Registry}
    (simulates : Simulates op registry ended) : Simulates (locked op) registry ended :=
  (Dialogue.run_bind ..).trans simulates

theorem simulates_read (kind : RecordKind) (label : String) :
    Simulates (read (kind.start ++ label) : Op (Option kind.Content)) registry
      (.ok (registry.get? kind label), registry) := by
  have held := registry.get?_key ⟨kind, label⟩
  change ((answered (.ok (registry.store.get? (RecordName.key ⟨kind, label⟩)))).bind (decode? _),
    registry.store) = _
  rw [held, Registry.document?]
  cases registry.get? kind label with
  | none => rfl
  | some record =>
      simp only [Option.map_some, answered, Except.bind, decode?, decode,
        LawfulRecord.parse?_document, Except.map]

theorem simulates_write (kind : RecordKind) (record : kind.Content) :
    Simulates (write (kind.start ++ kind.label record) record) registry
      (.ok (), registry.put kind record) :=
  congrArg (Prod.mk _) (registry.store_put kind record).symm

theorem simulates_remove (kind : RecordKind) (label : String) :
    Simulates (remove (kind.start ++ label)) registry
      (.ok (registry.get? kind label).isSome, registry.remove kind label) := by
  have held := registry.get?_key ⟨kind, label⟩
  have contained : registry.store.contains (kind.start ++ label) =
      (registry.get? kind label).isSome :=
    (congrArg Option.isSome held).trans Option.isSome_map
  unfold Simulates
  rw [registry.store_remove, ← contained]
  rfl

theorem simulates_list (kind : RecordKind) :
    Simulates (list kind.start : Op (List kind.Content)) registry
      (.ok (registry.records kind), registry) := by
  change ((answered (.ok (registry.store.scan kind.start))).bind decodeAll, registry.store) = _
  rw [registry.scan_start]
  exact congrArg (·, registry.store) (Table.decodeAll_rows _ _)

theorem simulates_lookupPrincipal (name : String) :
    Simulates (lookupPrincipal name) registry (.ok (registry.get? .principal name), registry) :=
  simulates_read .principal name

theorem simulates_lookupRole (name : String) :
    Simulates (lookupRole name) registry (.ok (registry.get? .role name), registry) :=
  simulates_read .role name

/-! ## Operations -/

theorem simulates_createPrincipal (principal : Principal) :
    Simulates (createPrincipal principal) registry (registry.createPrincipal principal) := by
  unfold createPrincipal Registry.createPrincipal
  cases checkName principal.name with
  | error error => exact simulates_done _
  | ok =>
      refine simulates_locked (simulates_andThen (simulates_lookupPrincipal _) ?_)
      cases registry.get? .principal principal.name with
      | some other => exact simulates_done _
      | none =>
          refine simulates_andThen (simulates_lookupRole _) ?_
          cases registry.get? .role principal.role with
          | none => exact simulates_done _
          | some role => exact simulates_write .principal principal

theorem simulates_modifyPrincipal {name : String} {change : Principal → Principal}
    (keeps : ∀ principal, principal.name = name → (change principal).name = name) :
    Simulates (modifyPrincipal name change) registry (registry.modifyPrincipal name change) := by
  unfold modifyPrincipal Registry.modifyPrincipal
  refine simulates_locked (simulates_andThen (simulates_lookupPrincipal _) ?_)
  cases found : registry.get? .principal name with
  | none => exact simulates_done _
  | some principal =>
      have written : Simulates (write (userKey (change principal).name) (change principal)) registry
          (.ok (), registry.put .principal (change principal)) := simulates_write .principal _
      rwa [keeps principal (registry.label_of_get? found)] at written

theorem simulates_setCredential (name credential : String) :
    Simulates (setCredential name credential) registry
      (registry.setCredential name credential) := by
  unfold setCredential Registry.setCredential
  split
  · exact simulates_done _
  · exact simulates_modifyPrincipal fun _ named => named

theorem simulates_deletePrincipal (name : String) :
    Simulates (deletePrincipal name) registry (registry.deletePrincipal name) := by
  have removed := @simulates_remove registry .principal name
  unfold deletePrincipal Registry.deletePrincipal
  cases found : registry.get? .principal name with
  | none =>
      rw [found, registry.remove_of_absent found] at removed
      exact simulates_andThen removed (simulates_done _)
  | some principal =>
      rw [found] at removed
      exact simulates_andThen removed (simulates_done _)

theorem simulates_isAdmin (name : String) :
    Simulates (isAdmin name) registry (.ok (registry.isAdmin name), registry) := by
  unfold isAdmin Registry.isAdmin
  refine simulates_andThen (simulates_lookupPrincipal name) ?_
  cases registry.get? .principal name with
  | none => exact simulates_done _
  | some principal =>
      cases enabled : principal.enabled with
      | false =>
          simp only [enabled]
          exact simulates_done _
      | true =>
          simp only [enabled]
          exact simulates_andThen (simulates_lookupRole _) (simulates_done _)

theorem simulates_seedRole (name : String) (admin : Bool) :
    Simulates (seedRole name admin) registry (.ok (), registry.seedRole name admin) := by
  unfold seedRole Registry.seedRole
  refine simulates_andThen (simulates_lookupRole name) ?_
  cases registry.get? .role name with
  | some role => exact simulates_done _
  | none => exact simulates_write .role ⟨name, true, admin⟩

theorem simulates_createRole (name : String) (admin : Bool) :
    Simulates (createRole name admin) registry (registry.createRole name admin) := by
  unfold createRole Registry.createRole
  cases Text.accountName name with
  | error reason => exact simulates_done _
  | ok normal =>
      dsimp only
      refine simulates_locked (simulates_andThen (simulates_lookupRole normal) ?_)
      cases registry.get? .role normal with
      | some role => exact simulates_done _
      | none => exact simulates_write .role ⟨normal, false, admin⟩

theorem simulates_deleteRole (name : String) :
    Simulates (deleteRole name) registry (registry.deleteRole name) := by
  unfold deleteRole Registry.deleteRole
  refine simulates_locked (simulates_andThen (simulates_lookupRole name) ?_)
  cases found : registry.get? .role name with
  | none => exact simulates_done _
  | some role =>
      have named : role.name = name := registry.label_of_get? found
      cases system : role.system with
      | true =>
          simp only [system, if_true, named]
          exact simulates_done _
      | false =>
          simp only [system, Bool.false_eq_true, if_false]
          exact simulates_andThen (simulates_remove .role name) (simulates_done _)

theorem simulates_putDevice (device : Device) :
    Simulates (putDevice device) registry (registry.putDevice device) := by
  unfold putDevice Registry.putDevice
  cases normalDevice? device with
  | none => exact simulates_done _
  | some record => exact simulates_andThen (simulates_write .device record) (simulates_done _)

theorem simulates_getDevice (mac : String) :
    Simulates (getDevice mac) registry
      (.ok ((Text.hardwareAddress? mac).bind (registry.get? .device)), registry) := by
  unfold getDevice
  cases Text.hardwareAddress? mac with
  | none => exact simulates_done _
  | some normal => exact simulates_read .device normal

theorem simulates_deleteDevice (mac : String) :
    Simulates (deleteDevice mac) registry (registry.deleteDevice mac) := by
  unfold deleteDevice Registry.deleteDevice
  cases Text.hardwareAddress? mac with
  | none => exact simulates_done _
  | some normal => exact simulates_remove .device normal

/-- Each operation runs on the store of a registry as it is performed on the registry. -/
theorem simulates_perform (request : Request) :
    Simulates request.perform registry (registry.perform request) := by
  cases request with
  | lookupPrincipal name => exact simulates_lookupPrincipal name
  | createPrincipal principal => exact simulates_createPrincipal principal
  | updatePrincipal principal => exact simulates_modifyPrincipal fun _ _ => rfl
  | setCredential name credential => exact simulates_setCredential name credential
  | requireReset name deadline => exact simulates_modifyPrincipal fun _ named => named
  | deletePrincipal name => exact simulates_deletePrincipal name
  | listPrincipals => exact simulates_list .principal
  | isAdmin name => exact simulates_isAdmin name
  | seedSystemRoles =>
      exact simulates_locked (simulates_andThen (simulates_seedRole _ _) (simulates_seedRole _ _))
  | lookupRole name => exact simulates_lookupRole name
  | listRoles => exact simulates_list .role
  | createRole name admin => exact simulates_createRole name admin
  | deleteRole name => exact simulates_deleteRole name
  | putDevice device => exact simulates_putDevice device
  | getDevice mac => exact simulates_getDevice mac
  | listDevices => exact simulates_list .device
  | deleteDevice mac => exact simulates_deleteDevice mac

/-! ## Histories -/

/-- An operation that has been performed, with its result. -/
structure Outcome where
  request : Request
  result : Except DirectoryError request.Result

/-- Perform operations on a store in memory, one after the other. -/
def performAll (store : Store) : List Request → List Outcome × Store
  | [] => ([], store)
  | request :: rest =>
      let ended := request.perform.run Store.answer store
      let others := performAll ended.2 rest
      (⟨request, ended.1⟩ :: others.1, others.2)

/-- Perform operations on a registry, one after the other. -/
def Registry.performAll (registry : Registry) : List Request → List Outcome × Registry
  | [] => ([], registry)
  | request :: rest =>
      let ended := registry.perform request
      let others := ended.2.performAll rest
      (⟨request, ended.1⟩ :: others.1, others.2)

/-- A history of the store of a registry is one of the registry. -/
theorem performAll_store (registry : Registry) (requests : List Request) :
    performAll registry.store requests =
      ((registry.performAll requests).1, (registry.performAll requests).2.store) := by
  induction requests generalizing registry with
  | nil => rfl
  | cons request rest ih =>
      have simulates : request.perform.run Store.answer registry.store = _ :=
        simulates_perform request
      simp only [performAll, Registry.performAll, simulates, ih]

/-! ## What the store of a registry holds -/

/-- The store of a registry holds the records of the registry. -/
theorem holds_store_iff (kind : RecordKind) {label : String} {record : kind.Content} :
    registry.store.Holds (kind.start ++ label) record ↔ registry.get? kind label = some record := by
  have held := registry.get?_key ⟨kind, label⟩
  unfold Store.Holds
  change (∃ json, registry.store.get? (RecordName.key ⟨kind, label⟩) = some json ∧ _) ↔ _
  rw [held, Registry.document?]
  cases registry.get? kind label with
  | none => simp
  | some found => simp [LawfulRecord.parse?_document]

/-- The operation that lists all records of a kind. -/
def listing : (kind : RecordKind) → Op (List kind.Content)
  | .device => listDevices
  | .role => listRoles
  | .principal => listPrincipals

theorem simulates_listing (kind : RecordKind) :
    Simulates (listing kind) registry (.ok (registry.records kind), registry) := by
  cases kind with
  | device => exact simulates_list .device
  | role => exact simulates_list .role
  | principal => exact simulates_list .principal

/-- A list shows the records of a kind that a store holds, each once and by increasing label. -/
structure Shows (store : Store) (kind : RecordKind) (records : List kind.Content) : Prop where
  mem_iff : ∀ label record, record ∈ records ∧ kind.label record = label ↔
    store.Holds (kind.start ++ label) record
  increasing : records.Pairwise fun first second =>
    compare (kind.label first) (kind.label second) = .lt

theorem shows_records (kind : RecordKind) : Shows registry.store kind (registry.records kind) where
  mem_iff label record := by
    rw [holds_store_iff, Registry.records, Table.mem_records]
    constructor
    · rintro ⟨held, rfl⟩
      exact held
    · intro held
      obtain rfl := registry.label_of_get? held
      exact ⟨held, rfl⟩
  increasing := Table.pairwise_records _

/-- Nothing is added under a name that is taken. -/
theorem createPrincipal_of_taken {principal existing : Principal}
    (taken : registry.get? .principal principal.name = some existing) :
    ∃ error, registry.createPrincipal principal = (.error error, registry) := by
  unfold Registry.createPrincipal
  cases checkName principal.name with
  | error error => exact ⟨error, rfl⟩
  | ok => exact ⟨_, by rw [taken]⟩

theorem createRole_of_taken {name normal : String} {admin : Bool} {existing : Role}
    (isNormal : Text.accountName name = .ok normal)
    (taken : registry.get? .role normal = some existing) :
    registry.createRole name admin = (.error (.alreadyExists "role" normal), registry) := by
  unfold Registry.createRole
  rw [isNormal]
  dsimp only
  rw [taken]

/-- A directory that starts without records is three tables.  Every operation of a history has the
result that it has on the tables, and the store is that of the tables.  In it an operation changes
nothing but the records that it names, which is at most one unless it makes sure that the roles of the
system are there; keys of different records differ; what exists is not added again; and a list shows all
records of its kind. -/
theorem directory_is_three_tables (requests : List Request) :
    let tables := Registry.empty.performAll requests
    let store := tables.2.store
    performAll .empty requests = (tables.1, store) ∧
      Function.Injective RecordName.key ∧
      (∀ request : Request,
        (request = .seedSystemRoles ∨ request.changes.length ≤ 1) ∧
          ∀ key, (∀ name ∈ request.changes, name.key ≠ key) →
            (request.perform.run Store.answer store).2.get? key = store.get? key) ∧
      (∀ principal existing : Principal, store.Holds (userKey principal.name) existing →
        ∃ error, (createPrincipal principal).run Store.answer store = (.error error, store)) ∧
      (∀ name normal admin, ∀ existing : Role, Text.accountName name = .ok normal →
        store.Holds (roleKey normal) existing →
          (createRole name admin).run Store.answer store =
            (.error (.alreadyExists "role" normal), store)) ∧
      ∀ kind, ∃ records, (listing kind).run Store.answer store = (.ok records, store) ∧
        Shows store kind records := by
  intro tables store
  refine ⟨performAll_store .empty requests, RecordName.key_injective,
    fun request => ⟨request.length_changes, fun key apart => ?_⟩, fun principal existing held => ?_,
    fun name normal admin existing isNormal held => ?_, fun kind => ?_⟩
  · exact get?_of_spares (spares_of_not_changes apart)
      (Dialogue.ends_run Store.mayReply_answer request.perform store)
  · have taken := (holds_store_iff .principal).1 held
    obtain ⟨error, refused⟩ := createPrincipal_of_taken taken
    exact ⟨error, (simulates_createPrincipal principal).trans (by rw [refused])⟩
  · have taken := (holds_store_iff .role).1 held
    exact (simulates_createRole name admin).trans (by rw [createRole_of_taken isNormal taken])
  · exact ⟨_, simulates_listing kind, shows_records kind⟩

end Gatehouse.Directory
