import Gatehouse.Proofs.Directory.Names
import Gatehouse.Proofs.Directory.Table
/-!
# The directory as three tables

A registry holds principals, roles and devices in tables of their own, and its operations are plain
functions.  Its store has a row for each record: names of different records have different keys, and
the rows of the three tables stand one table after the other.
-/

namespace Gatehouse.Directory

/-! ## Registries -/

/-- The records of a directory, each kind in a table of its own. -/
structure Registry where
  table : (kind : RecordKind) → Table kind.label

namespace Registry

/-- The registry without records. -/
def empty : Registry := ⟨fun _ => .empty⟩

variable (registry : Registry) {kind : RecordKind}

/-- The record of a kind with a label. -/
def get? (kind : RecordKind) (label : String) : Option kind.Content :=
  (registry.table kind).get? label

/-- All records of a kind. -/
def records (kind : RecordKind) : List kind.Content := (registry.table kind).records

/-- The registry with another table of one kind. -/
def withTable (table : Table kind.label) : Registry :=
  ⟨Function.update registry.table kind table⟩

/-- The registry with a record, in place of the one with the same name. -/
def put (kind : RecordKind) (record : kind.Content) : Registry :=
  registry.withTable ((registry.table kind).put record)

/-- The registry without the record with a name. -/
def remove (kind : RecordKind) (label : String) : Registry :=
  registry.withTable ((registry.table kind).remove label)

/-- The document of a record. -/
def document? (name : RecordName) : Option Json :=
  (registry.get? name.kind name.label).map Record.document

theorem document?_put (record : kind.Content) (other : RecordName) :
    (registry.put kind record).document? other =
      if other = ⟨kind, kind.label record⟩ then some (Record.document record)
      else registry.document? other := by
  obtain ⟨otherKind, label⟩ := other
  by_cases same : otherKind = kind
  · subst same
    simp only [document?, get?, put, withTable, Function.update_self, Table.get?_put,
      RecordName.mk.injEq, true_and]
    split <;> rfl
  · simp [document?, get?, put, withTable, same]

theorem document?_remove (kind : RecordKind) (label : String) (other : RecordName) :
    (registry.remove kind label).document? other =
      if other = ⟨kind, label⟩ then none else registry.document? other := by
  obtain ⟨otherKind, another⟩ := other
  by_cases same : otherKind = kind
  · subst same
    simp only [document?, get?, remove, withTable, Function.update_self, Table.get?_remove,
      RecordName.mk.injEq, true_and]
    split <;> rfl
  · simp [document?, get?, remove, withTable, same]

theorem label_of_get? {label : String} {record : kind.Content}
    (found : registry.get? kind label = some record) : kind.label record = label :=
  (registry.table kind).label_of_get? found

theorem remove_of_absent {label : String} (absent : registry.get? kind label = none) :
    registry.remove kind label = registry := by
  rw [remove, Table.remove_of_absent _ absent, withTable, Function.update_eq_self]

/-! ## Stores -/

/-- The entries that the records of a kind are stored as. -/
def rows (kind : RecordKind) : List (String × Json) := (registry.table kind).rows kind.start

section

variable {registry} {entry : String × Json}

theorem startsWith_of_mem_rows (isRow : entry ∈ registry.rows kind) :
    Key.StartsWith kind.letter entry.1 :=
  Table.startsWith_of_mem_rows _ kind.startsWith_start isRow

/-- Kinds stand in the order of their letters. -/
theorem compare_of_mem_rows {earlier later : RecordKind} {first second : String × Json}
    (inOrder : earlier.letter < later.letter) (isFirst : first ∈ registry.rows earlier)
    (isSecond : second ∈ registry.rows later) : compare first.1 second.1 = .lt :=
  Key.compare_of_startsWith (startsWith_of_mem_rows isFirst) (startsWith_of_mem_rows isSecond)
    inOrder

end

/-- The store that holds the records. -/
def store : Store where
  toList := registry.rows .device ++ (registry.rows .role ++ registry.rows .principal)
  sorted := by
    refine List.pairwise_append.2 ⟨Table.sorted_rows _ _, List.pairwise_append.2
      ⟨Table.sorted_rows _ _, Table.sorted_rows _ _, ?_⟩, ?_⟩
    · exact fun _ isRole _ isPrincipal => compare_of_mem_rows (by decide) isRole isPrincipal
    · intro device isDevice other isOther
      rcases List.mem_append.1 isOther with isRole | isPrincipal
      · exact compare_of_mem_rows (by decide) isDevice isRole
      · exact compare_of_mem_rows (by decide) isDevice isPrincipal

theorem mem_store {key : String} {json : Json} :
    (key, json) ∈ registry.store.toList ↔
      ∃ name : RecordName, key = name.key ∧ registry.document? name = some json := by
  unfold store rows
  simp only [List.mem_append, Table.mem_rows]
  constructor
  · rintro (⟨label, isKey, held⟩ | ⟨label, isKey, held⟩ | ⟨label, isKey, held⟩)
    · exact ⟨⟨.device, label⟩, isKey, held⟩
    · exact ⟨⟨.role, label⟩, isKey, held⟩
    · exact ⟨⟨.principal, label⟩, isKey, held⟩
  · rintro ⟨⟨kind, label⟩, isKey, held⟩
    cases kind with
    | device => exact .inl ⟨label, isKey, held⟩
    | role => exact .inr (.inl ⟨label, isKey, held⟩)
    | principal => exact .inr (.inr ⟨label, isKey, held⟩)

/-- The store has the document of each record at the key of its name. -/
theorem get?_key (name : RecordName) : registry.store.get? name.key = registry.document? name := by
  refine Option.ext fun json => ?_
  rw [← SortedMap.mem_toList_iff, mem_store]
  constructor
  · rintro ⟨other, same, held⟩
    rwa [RecordName.key_injective same]
  · exact fun held => ⟨name, rfl, held⟩

/-- The store has nothing else. -/
theorem get?_of_ne_key {key : String} (noName : ∀ name : RecordName, key ≠ name.key) :
    registry.store.get? key = none := by
  rw [Option.eq_none_iff_forall_not_mem]
  intro json held
  obtain ⟨name, isKey, _⟩ := registry.mem_store.1 ((SortedMap.mem_toList_iff ..).2 held)
  exact noName name isKey

/-- A store with the documents of a registry and nothing else is the one of that registry. -/
theorem eq_store {other : Store}
    (same : ∀ name : RecordName, other.get? name.key = registry.document? name)
    (nothing : ∀ key, (∀ name : RecordName, key ≠ name.key) → other.get? key = none) :
    other = registry.store := by
  refine SortedMap.ext_get? fun key => ?_
  by_cases isKey : ∃ name : RecordName, key = name.key
  · obtain ⟨name, rfl⟩ := isKey
    rw [same, get?_key]
  · have noName : ∀ name : RecordName, key ≠ name.key := fun name isName => isKey ⟨name, isName⟩
    rw [nothing key noName, get?_of_ne_key registry noName]

/-- Putting a record stores its document. -/
theorem store_put (kind : RecordKind) (record : kind.Content) :
    (registry.put kind record).store =
      registry.store.insert (kind.start ++ kind.label record) (Record.document record) := by
  have isKey : kind.start ++ kind.label record = RecordName.key ⟨kind, kind.label record⟩ := rfl
  refine (eq_store _ (fun other => ?_) fun key noName => ?_).symm
  · rw [document?_put, isKey]
    split
    · rename_i same
      rw [same, SortedMap.get?_insert_self]
    · rename_i apart
      rw [SortedMap.get?_insert_of_ne _ _ (RecordName.key_injective.ne apart), get?_key]
  · rw [isKey, SortedMap.get?_insert_of_ne _ _ (noName _), get?_of_ne_key registry noName]

/-- Removing a record removes its document. -/
theorem store_remove (kind : RecordKind) (label : String) :
    (registry.remove kind label).store = registry.store.erase (kind.start ++ label) := by
  have isKey : kind.start ++ label = RecordName.key ⟨kind, label⟩ := rfl
  refine (eq_store _ (fun other => ?_) fun key noName => ?_).symm
  · rw [document?_remove, isKey]
    split
    · rename_i same
      rw [same, SortedMap.get?_erase_self]
    · rename_i apart
      rw [SortedMap.get?_erase_of_ne _ (RecordName.key_injective.ne apart), get?_key]
  · rw [isKey, SortedMap.get?_erase_of_ne _ (noName _), get?_of_ne_key registry noName]

/-- A look for what the keys of a kind begin with finds the rows of that kind, between rows of
earlier and of later kinds. -/
theorem scan_of_split {low high : List (String × Json)}
    (split : registry.store.toList = low ++ (registry.rows kind ++ high))
    (before : ∀ entry ∈ low, ∃ earlier : RecordKind,
      earlier.letter < kind.letter ∧ entry ∈ registry.rows earlier)
    (behind : ∀ entry ∈ high, ∃ later : RecordKind,
      kind.letter < later.letter ∧ entry ∈ registry.rows later) :
    registry.store.scan kind.start = registry.rows kind := by
  have start := kind.startsWith_start
  refine Store.scan_eq split (fun entry isLow => ?_) (fun entry isEntry => ?_)
    (fun _ => Table.begins_of_mem_rows _) fun entry isHigh => ?_
  · obtain ⟨earlier, inOrder, isRow⟩ := before entry isLow
    exact Key.compare_of_startsWith (startsWith_of_mem_rows isRow) start inOrder
  · rcases List.mem_append.1 isEntry with isRow | isHigh
    · exact Table.compare_ne_lt_of_mem_rows _ isRow
    · obtain ⟨later, inOrder, isRow⟩ := behind entry isHigh
      exact Key.compare_ne_lt_of_startsWith (startsWith_of_mem_rows isRow) start inOrder
  · obtain ⟨later, inOrder, isRow⟩ := behind entry isHigh
    exact Key.begins_of_startsWith start (startsWith_of_mem_rows isRow) inOrder.ne

theorem scan_start (kind : RecordKind) :
    registry.store.scan kind.start = registry.rows kind := by
  have order : RecordKind.letter .device < RecordKind.letter .role ∧
      RecordKind.letter .role < RecordKind.letter .principal ∧
      RecordKind.letter .device < RecordKind.letter .principal := by decide
  cases kind with
  | device =>
      refine registry.scan_of_split (List.nil_append _).symm nofun fun entry isEntry => ?_
      rcases List.mem_append.1 isEntry with isRole | isPrincipal
      · exact ⟨.role, order.1, isRole⟩
      · exact ⟨.principal, order.2.2, isPrincipal⟩
  | role =>
      exact registry.scan_of_split rfl (fun _ isDevice => ⟨.device, order.1, isDevice⟩)
        fun _ isPrincipal => ⟨.principal, order.2.1, isPrincipal⟩
  | principal =>
      have split : registry.store.toList =
          (registry.rows .device ++ registry.rows .role) ++ (registry.rows .principal ++ []) := by
        rw [List.append_nil, List.append_assoc]
        rfl
      refine registry.scan_of_split split (fun entry isEntry => ?_) nofun
      rcases List.mem_append.1 isEntry with isDevice | isRole
      · exact ⟨.device, order.2.2, isDevice⟩
      · exact ⟨.role, order.2.1, isRole⟩

/-! ## Operations -/

/-- Add a principal under a free name and with a role that exists. -/
def createPrincipal (principal : Principal) : Except DirectoryError Unit × Registry :=
  match checkName principal.name with
  | .error error => (.error error, registry)
  | .ok () =>
      match registry.get? .principal principal.name with
      | some _ => (.error (.alreadyExists "principal" principal.name), registry)
      | none =>
          match registry.get? .role principal.role with
          | none => (.error (noRole principal.role), registry)
          | some _ => (.ok (), registry.put .principal principal)

/-- Change the principal with a name. -/
def modifyPrincipal (name : String) (change : Principal → Principal) :
    Except DirectoryError Unit × Registry :=
  match registry.get? .principal name with
  | none => (.error (noPrincipal name), registry)
  | some principal => (.ok (), registry.put .principal (change principal))

/-- Give a principal another password, which ends a pending reset. -/
def setCredential (name credential : String) : Except DirectoryError Unit × Registry :=
  if credential.isEmpty then
    (.error (.invalid "password" "password must not be empty"), registry)
  else registry.modifyPrincipal name fun principal => principal.withCredential credential

/-- Remove a principal. -/
def deletePrincipal (name : String) : Except DirectoryError Unit × Registry :=
  match registry.get? .principal name with
  | some _ => (.ok (), registry.remove .principal name)
  | none => (.error (noPrincipal name), registry)

/-- Whether a name is that of an enabled principal whose role has every right. -/
def isAdmin (name : String) : Bool :=
  match registry.get? .principal name with
  | none => false
  | some principal =>
      principal.enabled && (registry.get? .role principal.role).any Role.admin

/-- Add a role of the system unless there is one of its name. -/
def seedRole (name : String) (admin : Bool) : Registry :=
  match registry.get? .role name with
  | some _ => registry
  | none => registry.put .role ⟨name, true, admin⟩

/-- Add a role under a free name. -/
def createRole (name : String) (admin : Bool) : Except DirectoryError Unit × Registry :=
  match Text.accountName name with
  | .error reason => (.error (.invalid "role" reason.message), registry)
  | .ok name =>
      match registry.get? .role name with
      | some _ => (.error (.alreadyExists "role" name), registry)
      | none => (.ok (), registry.put .role ⟨name, false, admin⟩)

/-- Remove a role that is not one of the system. -/
def deleteRole (name : String) : Except DirectoryError Unit × Registry :=
  match registry.get? .role name with
  | none => (.error (noRole name), registry)
  | some role =>
      if role.system then (.error (.protectedRole name), registry)
      else (.ok (), registry.remove .role name)

/-- Store a device, in place of the one with the same address. -/
def putDevice (device : Device) : Except DirectoryError Device × Registry :=
  match normalDevice? device with
  | none => (.error (.invalid "mac" (Text.badHardwareAddress device.mac)), registry)
  | some record => (.ok record, registry.put .device record)

/-- Remove a device, and say whether there was one. -/
def deleteDevice (mac : String) : Except DirectoryError Bool × Registry :=
  match Text.hardwareAddress? mac with
  | none => (.ok false, registry)
  | some mac => (.ok (registry.get? .device mac).isSome, registry.remove .device mac)

/-- Perform an operation. -/
def perform : (request : Request) → Except DirectoryError request.Result × Registry
  | .lookupPrincipal name => (.ok (registry.get? .principal name), registry)
  | .createPrincipal principal => registry.createPrincipal principal
  | .updatePrincipal principal => registry.modifyPrincipal principal.name fun _ => principal
  | .setCredential name credential => registry.setCredential name credential
  | .requireReset name deadline =>
      registry.modifyPrincipal name fun principal => { principal with resetDeadline := deadline }
  | .deletePrincipal name => registry.deletePrincipal name
  | .listPrincipals => (.ok (registry.records .principal), registry)
  | .isAdmin name => (.ok (registry.isAdmin name), registry)
  | .seedSystemRoles => (.ok (), (registry.seedRole adminRole true).seedRole userRole false)
  | .lookupRole name => (.ok (registry.get? .role name), registry)
  | .listRoles => (.ok (registry.records .role), registry)
  | .createRole name admin => registry.createRole name admin
  | .deleteRole name => registry.deleteRole name
  | .putDevice device => registry.putDevice device
  | .getDevice mac => (.ok ((Text.hardwareAddress? mac).bind (registry.get? .device)), registry)
  | .listDevices => (.ok (registry.records .device), registry)
  | .deleteDevice mac => registry.deleteDevice mac

end Registry

end Gatehouse.Directory
