import Gatehouse.Proofs.Directory.Failures
import Gatehouse.Proofs.Directory.Refinement
import Gatehouse.Proofs.Text.HardwareAddress
/-!
# Devices and their addresses

A device is stored at the normal form of its address.  So it is found and removed under every
spelling of that address and under nothing else, and there is no second device with it.  What is
stored is in normal form, and storing it once more changes nothing.
-/

namespace Gatehouse.Directory

open Text (SameAddress)

section

variable {store after : Store} {device record : Device} {mac address : String}

/-! ## Records in normal form -/

/-- The record that a device with an address in normal form is stored as. -/
def deviceAt (mac : String) (device : Device) : Device :=
  { device with mac := mac, name := Text.sanitizeLabel device.name }

theorem normalDevice?_eq_some_iff :
    normalDevice? device = some record ↔
      ∃ mac, Text.hardwareAddress? device.mac = some mac ∧ deviceAt mac device = record :=
  Option.map_eq_some_iff

/-- What a device is stored as is stored as it is. -/
theorem normalDevice?_of_normal (isNormal : normalDevice? device = some record) :
    normalDevice? record = some record := by
  obtain ⟨mac, isAddress, rfl⟩ := normalDevice?_eq_some_iff.1 isNormal
  apply normalDevice?_eq_some_iff.2
  refine ⟨mac, Text.hardwareAddress?_of_normal isAddress, ?_⟩
  have label := (Text.isLabel_sanitizeLabel device.name).sanitizeLabel_eq
  simp only [deviceAt, label]

/-- A record that is stored as it is has an address in normal form and a label. -/
theorem isLabel_of_normal (isNormal : normalDevice? device = some device) :
    Text.hardwareAddress? device.mac = some device.mac ∧ Text.IsLabel device.name := by
  obtain ⟨mac, isAddress, same⟩ := normalDevice?_eq_some_iff.1 isNormal
  have sameMac : mac = device.mac := congrArg Device.mac same
  have sameName : Text.sanitizeLabel device.name = device.name := congrArg Device.name same
  constructor
  · rw [isAddress, sameMac]
  · rw [← sameName]
    exact Text.isLabel_sanitizeLabel device.name

theorem deviceKey_injective : Function.Injective deviceKey := fun _ _ same =>
  Key.append_injective same

/-! ## Single operations -/

theorem run_putDevice (isNormal : normalDevice? device = some record) :
    (putDevice device).run Store.answer store =
      (.ok record, store.insert (deviceKey record.mac) (Record.document record)) := by
  rw [putDevice, isNormal]
  rfl

theorem run_getDevice (isAddress : Text.hardwareAddress? address = some mac) :
    (getDevice address).run Store.answer store =
      (decode? (deviceKey mac) (store.get? (deviceKey mac)), store) := by
  rw [getDevice, isAddress]
  rfl

theorem run_getDevice_of_holds (isAddress : Text.hardwareAddress? address = some mac)
    (held : store.Holds (deviceKey mac) device) :
    (getDevice address).run Store.answer store = (.ok (some device), store) := by
  obtain ⟨json, found, parsed⟩ := held
  rw [run_getDevice isAddress, found, decode?, decode, parsed]
  rfl

theorem run_deleteDevice (isAddress : Text.hardwareAddress? address = some mac) :
    (deleteDevice address).run Store.answer store =
      (.ok (store.contains (deviceKey mac)), store.erase (deviceKey mac)) := by
  rw [deleteDevice, isAddress]
  rfl

/-- Storing a device changes nothing, or it puts a record in normal form at its address. -/
theorem ends_putDevice {result : Except DirectoryError Device}
    (ended : (putDevice device).Ends Store.MayReply store result after) :
    after = store ∨ ∃ record, normalDevice? device = some record ∧
      after = store.insert (deviceKey record.mac) (Record.document record) := by
  unfold putDevice at ended
  split at ended
  · exact .inl (Dialogue.ends_done.1 ended).2
  · rename_i record isNormal
    rcases ends_andThen.1 ended with ⟨_, failed, _⟩ | ⟨_, middle, written, last⟩
    · exact .inl (allOrNothing_write.unchanged failed)
    · obtain ⟨_, rfl⟩ := Dialogue.ends_done.1 last
      rcases ends_write written with ⟨_, same⟩ | ⟨_, inserted⟩
      · exact .inl same
      · exact .inr ⟨record, isNormal, inserted⟩

/-- Removing a device changes nothing, or it empties a key. -/
theorem ends_deleteDevice {result : Except DirectoryError Bool}
    (ended : (deleteDevice address).Ends Store.MayReply store result after) :
    after = store ∨ ∃ key, after = store.erase key := by
  unfold deleteDevice at ended
  split at ended
  · exact .inl (Dialogue.ends_done.1 ended).2
  · rcases ends_remove ended with ⟨_, same⟩ | ⟨_, erased⟩
    · exact .inl same
    · exact .inr ⟨_, erased⟩

/-- What is found under an address is held at the key of its normal form. -/
theorem holds_of_run_getDevice
    (found : (getDevice address).run Store.answer store = (.ok (some device), after)) :
    ∃ mac, Text.hardwareAddress? address = some mac ∧ store.Holds (deviceKey mac) device := by
  cases isAddress : Text.hardwareAddress? address with
  | none =>
      rw [getDevice, isAddress] at found
      cases found
  | some mac =>
      have ended := Dialogue.ends_run Store.mayReply_answer (getDevice address) store
      rw [found, getDevice, isAddress] at ended
      exact ⟨mac, rfl, holds_of_ends_read ended⟩

end

/-! ## Directories in use are three tables -/

section

variable {store after : Store} {registry : Registry} {request : Request}

theorem exists_registry_of_ends_seedRole {name : String} {admin : Bool}
    {result : Except DirectoryError Unit}
    (ended : (seedRole name admin).Ends Store.MayReply registry.store result after) :
    ∃ next : Registry, next.store = after := by
  have whole := allOrNothing_seedRole name admin
  cases result with
  | error error => exact ⟨registry, (whole.unchanged ended).symm⟩
  | ok value =>
      have runs := Dialogue.ends_iff_run.1 (whole.succeeds ended)
      have simulates : (seedRole name admin).run Store.answer registry.store = _ :=
        simulates_seedRole name admin
      exact ⟨_, (congrArg Prod.snd (runs.trans simulates)).symm⟩

/-- An operation on the store of three tables leaves the store of three tables, whichever of its
calls fail. -/
theorem exists_registry_of_ends_perform {result : Except DirectoryError request.Result}
    (ended : request.perform.Ends Store.MayReply registry.store result after) :
    ∃ next : Registry, next.store = after := by
  by_cases seeds : request = .seedSystemRoles
  · subst seeds
    rcases ends_andThen.1 (ends_locked.1 ended) with ⟨_, first, _⟩ | ⟨_, middle, first, second⟩
    · exact exists_registry_of_ends_seedRole first
    · obtain ⟨between, rfl⟩ := exists_registry_of_ends_seedRole first
      exact exists_registry_of_ends_seedRole second
  · cases result with
    | error error => exact ⟨registry, ((allOrNothing_perform seeds).unchanged ended).symm⟩
    | ok value =>
        have simulates : request.perform.run Store.answer registry.store = _ :=
          simulates_perform request
        have runs := run_of_ends_perform_ok ended
        exact ⟨_, (congrArg Prod.snd (runs.symm.trans simulates)).symm⟩

/-- A store that operations have left, from an empty one on.  Any of their calls may have failed. -/
inductive InUse : Store → Prop where
  | empty : InUse .empty
  | performed {store after : Store} (used : InUse store) (request : Request)
      {result : Except DirectoryError request.Result}
      (ended : request.perform.Ends Store.MayReply store result after) : InUse after

theorem InUse.exists_registry (used : InUse store) :
    ∃ registry : Registry, registry.store = store := by
  induction used with
  | empty => exact ⟨.empty, rfl⟩
  | performed _ _ ended ih =>
      obtain ⟨registry, rfl⟩ := ih
      exact exists_registry_of_ends_perform ended

end

/-! ## Devices in a directory in use -/

/-- All devices that are stored are in normal form. -/
def NormalDevices (store : Store) : Prop :=
  ∀ mac (device : Device), store.Holds (deviceKey mac) device → normalDevice? device = some device

section

variable {store after : Store} {device record : Device} {mac address : String}

theorem NormalDevices.insert (normal : NormalDevices store)
    (isNormal : normalDevice? record = some record) :
    NormalDevices (store.insert (deviceKey record.mac) (Record.document record)) := by
  intro mac device held
  rw [Store.holds_insert] at held
  split at held
  · rw [LawfulRecord.parse?_document] at held
    cases held
    exact isNormal
  · exact normal mac device held

theorem keepsDevices_putDevice (device : Device) :
    (putDevice device).Keeps Store.MayReply NormalDevices := by
  intro store result after normal ended
  rcases ends_putDevice ended with rfl | ⟨record, isNormal, rfl⟩
  · exact normal
  · exact normal.insert (normalDevice?_of_normal isNormal)

theorem keepsDevices_deleteDevice (address : String) :
    (deleteDevice address).Keeps Store.MayReply NormalDevices := by
  intro store result after normal ended
  rcases ends_deleteDevice ended with rfl | ⟨key, rfl⟩
  · exact normal
  · intro mac device held
    exact normal mac device (Store.holds_of_holds_erase held)

/-- An operation that is about records of other kinds leaves all devices as they are. -/
theorem keepsDevices_of_spares {request : Request}
    (spares : ∀ mac, ⟨.device, mac⟩ ∉ request.changes) :
    request.perform.Keeps Store.MayReply NormalDevices := by
  rintro store result after normal ended mac device ⟨json, found, parsed⟩
  have same : after.get? (deviceKey mac) = store.get? (deviceKey mac) := by
    refine get?_of_spares (spares_of_not_changes fun name isChanged isKey => ?_) ended
    have isName : name = ⟨.device, mac⟩ := RecordName.key_injective isKey
    exact spares mac (isName ▸ isChanged)
  exact normal mac device ⟨json, same ▸ found, parsed⟩

/-- Every operation keeps devices in normal form. -/
theorem keepsDevices_perform (request : Request) :
    request.perform.Keeps Store.MayReply NormalDevices := by
  cases request with
  | putDevice device => exact keepsDevices_putDevice device
  | deleteDevice address => exact keepsDevices_deleteDevice address
  | _ =>
      apply keepsDevices_of_spares
      intro mac isChanged
      simp [Request.changes] at isChanged

/-- A new directory has no devices. -/
theorem normalDevices_empty : NormalDevices .empty := by
  rintro mac device ⟨json, found, _⟩
  cases found

theorem InUse.normalDevices (used : InUse store) : NormalDevices store := by
  induction used with
  | empty => exact normalDevices_empty
  | performed _ request ended ih => exact keepsDevices_perform request _ _ _ ih ended

/-- A device is stored at its own address. -/
theorem InUse.mac_of_holds (used : InUse store) (held : store.Holds (deviceKey mac) device) :
    device.mac = mac := by
  obtain ⟨registry, rfl⟩ := used.exists_registry
  exact registry.label_of_get? ((holds_store_iff .device).1 held)

/-- What is found under an address is a device with that address. -/
theorem InUse.hardwareAddress?_of_run_getDevice (used : InUse store)
    (found : (getDevice address).run Store.answer store = (.ok (some device), after)) :
    Text.hardwareAddress? address = some device.mac := by
  obtain ⟨mac, isAddress, held⟩ := holds_of_run_getDevice found
  rw [isAddress, used.mac_of_holds held]

/-- The list of devices holds no two with one address. -/
theorem InUse.exists_run_listDevices (used : InUse store) :
    ∃ devices, listDevices.run Store.answer store = (.ok devices, store) ∧
      devices.Pairwise fun first second => ¬ SameAddress first.mac second.mac := by
  obtain ⟨registry, rfl⟩ := used.exists_registry
  have listed : listDevices.run Store.answer registry.store = _ := simulates_listing .device
  have shown : Shows registry.store .device (registry.records .device) := shows_records .device
  -- The list goes by increasing addresses, and addresses that are the same are equal as texts.
  refine ⟨_, listed, shown.increasing.imp_of_mem ?_⟩
  intro first second isFirst isSecond below same
  have isNormal {device : Device} (isMember : device ∈ registry.records .device) :
      Text.hardwareAddress? device.mac = some device.mac :=
    (isLabel_of_normal
      (used.normalDevices _ _ ((shown.mem_iff device.mac device).1 ⟨isMember, rfl⟩))).1
  have equal := (Text.eq_iff_sameAddress (isNormal isFirst) (isNormal isSecond)).2 same
  have below : compare first.mac second.mac = .lt := below
  rw [Std.LawfulEqOrd.compare_eq_iff_eq.2 equal] at below
  cases below

/-- Storing a device that is stored already changes nothing. -/
theorem InUse.run_putDevice_of_holds (used : InUse store)
    (held : store.Holds (deviceKey mac) device) :
    (putDevice device).run Store.answer store = (.ok device, store) := by
  have isNormal := used.normalDevices mac device held
  have isOwn := used.mac_of_holds held
  obtain ⟨registry, rfl⟩ := used.exists_registry
  have found : registry.get? .device mac = some device := (holds_store_iff .device).1 held
  have there : registry.store.get? (deviceKey mac) = some (Record.document device) := by
    have atKey : registry.store.get? (deviceKey mac) = _ := registry.get?_key ⟨.device, mac⟩
    rw [atKey, Registry.document?, found]
    rfl
  rw [run_putDevice isNormal, isOwn, SortedMap.insert_eq_self there]

/-! ## Devices and all spellings of their addresses -/

/-- A device is found under each spelling of its address, whatever else there is in the store. -/
theorem run_getDevice_insert (isAddress : Text.hardwareAddress? device.mac = some mac)
    (same : SameAddress device.mac address) :
    (getDevice address).run Store.answer
        (store.insert (deviceKey mac) (Record.document (deviceAt mac device))) =
      (.ok (some (deviceAt mac device)),
        store.insert (deviceKey mac) (Record.document (deviceAt mac device))) := by
  exact run_getDevice_of_holds (same.hardwareAddress? isAddress) (holds_insert_document _)

/-- A device is no longer found once it has been removed under a spelling of its address. -/
theorem run_deleteDevice_of_sameAddress (isAddress : Text.hardwareAddress? device.mac = some mac)
    (held : store.Holds (deviceKey mac) record) (same : SameAddress device.mac address) :
    ∃ left, (deleteDevice address).run Store.answer store = (.ok true, left) ∧
      (getDevice device.mac).run Store.answer left = (.ok none, left) := by
  obtain ⟨json, found, _⟩ := held
  have there : store.contains (deviceKey mac) = true := by
    rw [SortedMap.contains, found]
    rfl
  refine ⟨store.erase (deviceKey mac), ?_, ?_⟩
  · rw [run_deleteDevice (same.hardwareAddress? isAddress), there]
  · rw [run_getDevice isAddress, SortedMap.get?_erase_self]
    rfl

/-- A device is found as before once anything has been removed under another address. -/
theorem run_deleteDevice_of_not_sameAddress
    (isAddress : Text.hardwareAddress? device.mac = some mac)
    (held : store.Holds (deviceKey mac) record) (apart : ¬ SameAddress device.mac address) :
    ∃ result left, (deleteDevice address).run Store.answer store = (result, left) ∧
      (getDevice device.mac).run Store.answer left = (.ok (some record), left) := by
  cases isOther : Text.hardwareAddress? address with
  | none =>
      have nothing : (deleteDevice address).run Store.answer store = (.ok false, store) := by
        rw [deleteDevice, isOther]
        rfl
      exact ⟨_, store, nothing, run_getDevice_of_holds isAddress held⟩
  | some other =>
      refine ⟨_, _, run_deleteDevice isOther, run_getDevice_of_holds isAddress ?_⟩
      have unequal : mac ≠ other := mt (Text.eq_iff_sameAddress isAddress isOther).1 apart
      obtain ⟨json, found, parsed⟩ := held
      refine ⟨json, ?_, parsed⟩
      rwa [SortedMap.get?_erase_of_ne _ (deviceKey_injective.ne unequal)]

/-- What there is under an address once a device has been stored as a record. -/
structure StoredByAddress (after : Store) (device record : Device) (address : String) : Prop where
  found : SameAddress device.mac address →
    (getDevice address).run Store.answer after = (.ok (some record), after)
  alone : InUse after → (getDevice address).run Store.answer after = (.ok (some record), after) →
    SameAddress device.mac address
  removed : SameAddress device.mac address →
    ∃ left, (deleteDevice address).run Store.answer after = (.ok true, left) ∧
      (getDevice device.mac).run Store.answer left = (.ok none, left)
  spared : ¬ SameAddress device.mac address →
    ∃ result left, (deleteDevice address).run Store.answer after = (result, left) ∧
      (getDevice device.mac).run Store.answer left = (.ok (some record), left)

theorem storedByAddress_insert (isAddress : Text.hardwareAddress? device.mac = some mac) :
    StoredByAddress (store.insert (deviceKey mac) (Record.document (deviceAt mac device))) device
      (deviceAt mac device) address where
  found same := run_getDevice_insert isAddress same
  alone used found :=
    (Text.eq_iff_sameAddress isAddress (used.hardwareAddress?_of_run_getDevice found)).1 rfl
  removed same := run_deleteDevice_of_sameAddress isAddress (holds_insert_document _) same
  spared apart := run_deleteDevice_of_not_sameAddress isAddress (holds_insert_document _) apart

/-- Devices are known by their addresses, however these are spelled.  Addresses have one normal form
where they have the same digits.  A device that has been stored is found under the spellings of its
address, which are also those that it is removed under.  No two devices are listed with one address,
and one that is stored already is stored as it is. -/
theorem devices_are_known_by_address :
    (∀ first, (∃ address, Text.hardwareAddress? first = some address) ↔
      ∃ digits, Text.Denotes first digits) ∧
    (∀ first second address other, Text.hardwareAddress? first = some address →
      Text.hardwareAddress? second = some other →
        (address = other ↔ SameAddress first second) ∧ Text.IsNormalAddress address ∧
          Text.hardwareAddress? address = some address) ∧
    (∀ store device mac, Text.hardwareAddress? device.mac = some mac →
      ∃ after, (putDevice device).run Store.answer store = (.ok (deviceAt mac device), after) ∧
        (InUse store → InUse after) ∧
          ∀ address, StoredByAddress after device (deviceAt mac device) address) ∧
    ∀ store, InUse store →
      (∃ devices, listDevices.run Store.answer store = (.ok devices, store) ∧
        devices.Pairwise fun first second => ¬ SameAddress first.mac second.mac) ∧
      ∀ mac device, store.Holds (deviceKey mac) device →
        (putDevice device).run Store.answer store = (.ok device, store) ∧
          Text.IsLabel device.name := by
  refine ⟨fun first => ?_, fun first second address other isFirst isSecond => ?_,
    fun store device mac isAddress => ?_, fun store used => ?_⟩
  · simp only [Text.hardwareAddress?_eq_some_iff]
    constructor
    · rintro ⟨_, digits, denotes, _⟩
      exact ⟨digits, denotes⟩
    · rintro ⟨digits, denotes⟩
      exact ⟨_, digits, denotes, rfl⟩
  · exact ⟨Text.eq_iff_sameAddress isFirst isSecond, Text.isNormalAddress_of_normal isFirst,
      Text.hardwareAddress?_of_normal isFirst⟩
  · have isNormal := normalDevice?_eq_some_iff.2 ⟨mac, isAddress, rfl⟩
    have stored : (putDevice device).run Store.answer store = (.ok (deviceAt mac device), _) :=
      run_putDevice isNormal
    refine ⟨_, stored, fun used => ?_, fun address => storedByAddress_insert isAddress⟩
    have ended := Dialogue.ends_run Store.mayReply_answer (putDevice device) store
    rw [stored] at ended
    exact used.performed (.putDevice device) ended
  · refine ⟨used.exists_run_listDevices, fun mac device held => ?_⟩
    have isNormal := used.normalDevices mac device held
    exact ⟨used.run_putDevice_of_holds held, (isLabel_of_normal isNormal).2⟩

end

/-! ### A device under two spellings -/

namespace Tablet

/-- A device with an address in capitals and hyphens. -/
def device : Device where
  mac := "AA-BB-CC-00-11-22"
  hostname := "tablet"
  name := "Tablet <Bob>"
  owner := some "bob"

/-- The same device as it is stored. -/
def record : Device := { device with mac := "aa:bb:cc:00:11:22", name := "Tablet Bob" }

theorem hardwareAddress?_device :
    Text.hardwareAddress? device.mac = some "aa:bb:cc:00:11:22" := by
  decide

/-- The device is found without separators and not with another last digit, and to store it again
changes nothing. -/
theorem devices_are_known_by_address_tablet :
    ∃ after, (putDevice device).run Store.answer .empty = (.ok record, after) ∧
      (getDevice "aabbcc001122").run Store.answer after = (.ok (some record), after) ∧
      (getDevice "aa:bb:cc:00:11:23").run Store.answer after ≠ (.ok (some record), after) ∧
      (putDevice record).run Store.answer after = (.ok record, after) := by
  obtain ⟨_, one, keeps, lists⟩ := devices_are_known_by_address
  have isSpelling : Text.hardwareAddress? "aabbcc001122" = some "aa:bb:cc:00:11:22" := by decide
  have isOther : Text.hardwareAddress? "aa:bb:cc:00:11:23" = some "aa:bb:cc:00:11:23" := by decide
  have same := (one _ _ _ _ hardwareAddress?_device isSpelling).1.1 rfl
  have apart := mt (one _ _ _ _ hardwareAddress?_device isOther).1.2 (by decide)
  have isRecord : deviceAt "aa:bb:cc:00:11:22" device = record := by decide
  obtain ⟨after, stored, used, known⟩ := keeps .empty device _ hardwareAddress?_device
  rw [isRecord] at stored known
  refine ⟨after, stored, (known _).found same, mt ((known _).alone (used .empty)) apart, ?_⟩
  have isAfter : (putDevice device).run Store.answer .empty = (.ok record, _) :=
    run_putDevice (by decide)
  rw [stored] at isAfter
  obtain ⟨_, rfl⟩ := Prod.mk.inj isAfter
  exact ((lists _ (used .empty)).2 _ record (holds_insert_document record)).1

end Tablet

end Gatehouse.Directory
