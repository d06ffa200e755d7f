import Gatehouse.Directory.Store
import Gatehouse.Directory.Record
import Gatehouse.Text.Label
/-!
# The directory

Principals, roles and devices kept in a store, each kind under keys of its own.  An operation that
first looks and then writes holds the directory's lock from the look to the write.
-/

namespace Gatehouse

/-- Why an operation on the directory failed. -/
inductive DirectoryError where
  | notFound (kind name : String)
  | alreadyExists (kind name : String)
  /-- The role is part of every directory. -/
  | protectedRole (name : String)
  | invalid (field message : String)
  | unavailable (cause : StoreError)
  /-- The document at a key is no record of its kind. -/
  | corrupt (key : String)
deriving DecidableEq, Repr

/-- The text of such an error. -/
def DirectoryError.message : DirectoryError → String
  | .notFound kind name => kind ++ " '" ++ name ++ "' not found"
  | .alreadyExists kind name => kind ++ " '" ++ name ++ "' already exists"
  | .protectedRole name => "role '" ++ name ++ "' is a system role and cannot be deleted"
  | .invalid field message => "invalid " ++ field ++ ": " ++ message
  | .unavailable cause => "directory unavailable: " ++ cause.message
  | .corrupt key => "record '" ++ key ++ "' is corrupt: it has another shape"

namespace Directory

/-- A computation on the directory that may fail. -/
abbrev Op (α : Type) := Visit (Except DirectoryError α)

/-! ## Building blocks -/

/-- Go on with the result of an operation, or fail as it failed. -/
def andThen {α β : Type} (op : Op α) (next : α → Op β) : Op β :=
  op.bind fun
    | .error error => .done (.error error)
    | .ok value => next value

/-- End with a value. -/
def finish {α : Type} (value : α) : Op α := .done (.ok value)

/-- End with an error. -/
def fail {α : Type} (error : DirectoryError) : Op α := .done (.error error)

/-- The answer of the store, with a failure as one of the directory. -/
def answered {α : Type} : Except StoreError α → Except DirectoryError α
  | .ok value => .ok value
  | .error cause => .error (.unavailable cause)

/-- The record of a document. -/
def decode {α : Type} [Record α] (key : String) (json : Json) : Except DirectoryError α :=
  match Record.parse? json with
  | some record => .ok record
  | none => .error (.corrupt key)

/-- The record of what a store holds at a key. -/
def decode? {α : Type} [Record α] (key : String) : Option Json → Except DirectoryError (Option α)
  | none => .ok none
  | some json => (decode key json).map some

/-- Read the record at a key. -/
def read {α : Type} [Record α] (key : String) : Op (Option α) :=
  .ask (.get key) fun answer => .done ((answered answer).bind (decode? key))

/-- Write a record at a key. -/
def write {α : Type} [Record α] (key : String) (record : α) : Op Unit :=
  .ask (.set key (Record.document record)) fun answer => .done (answered answer)

/-- Remove what is at a key, and say whether there was anything. -/
def remove (key : String) : Op Bool :=
  .ask (.delete key) fun answer => .done (answered answer)

/-- The records of some entries; the first corrupt one is reported. -/
def decodeAll {α : Type} [Record α] (entries : List (String × Json)) :
    Except DirectoryError (List α) :=
  entries.mapM fun entry => decode entry.1 entry.2

/-- All records whose keys begin with a text. -/
def list {α : Type} [Record α] (start : String) : Op (List α) :=
  .ask (.scan start) fun answer => .done ((answered answer).bind decodeAll)

/-- Hold the lock during an operation. -/
def locked {α : Type} (op : Op α) : Op α :=
  .ask .lock fun _ => op.bind fun result => .ask .unlock fun _ => .done result

/-! ## Keys -/

/-- The key of a principal. -/
def userKey (name : String) : String := "user:" ++ name

/-- The key of a role. -/
def roleKey (name : String) : String := "role:" ++ name

/-- The key of a device, by its hardware address in normal form. -/
def deviceKey (mac : String) : String := "device:" ++ mac

/-- The error for a principal that is not there. -/
def noPrincipal (name : String) : DirectoryError := .notFound "principal" name

/-- The error for a role that is not there. -/
def noRole (name : String) : DirectoryError := .notFound "role" name

/-! ## Principals -/

/-- The principal with a name. -/
def lookupPrincipal (name : String) : Op (Option Principal) := read (userKey name)

/-- The role with a name. -/
def lookupRole (name : String) : Op (Option Role) := read (roleKey name)

/-- Refuse a name that is not in its normal form. -/
def checkName (name : String) : Except DirectoryError Unit :=
  match Text.accountName name with
  | .error reason => .error (.invalid "username" reason.message)
  | .ok normal =>
      if normal = name then .ok ()
      else .error (.invalid "username" "Username must not have surrounding whitespace")

/-- Add a principal under a free name and with a role that exists. -/
def createPrincipal (principal : Principal) : Op Unit :=
  match checkName principal.name with
  | .error error => fail error
  | .ok () =>
      locked <| andThen (lookupPrincipal principal.name) fun
        | some _ => fail (.alreadyExists "principal" principal.name)
        | none =>
            andThen (lookupRole principal.role) fun
              | none => fail (noRole principal.role)
              | some _ => write (userKey principal.name) principal

/-- Change the principal with a name by a function of its record. -/
def modifyPrincipal (name : String) (change : Principal → Principal) : Op Unit :=
  locked <| andThen (lookupPrincipal name) fun
    | none => fail (noPrincipal name)
    | some principal => write (userKey name) (change principal)

/-- Replace the record of a principal. -/
def updatePrincipal (principal : Principal) : Op Unit :=
  modifyPrincipal principal.name fun _ => principal

/-- Give a principal another password, which ends a pending reset. -/
def setCredential (name credential : String) : Op Unit :=
  if credential.isEmpty then fail (.invalid "password" "password must not be empty")
  else modifyPrincipal name fun principal => principal.withCredential credential

/-- Require a new password up to a deadline, or no longer. -/
def requireReset (name : String) (deadline : Option Instant) : Op Unit :=
  modifyPrincipal name fun principal => { principal with resetDeadline := deadline }

/-- Remove a principal. -/
def deletePrincipal (name : String) : Op Unit :=
  andThen (remove (userKey name)) fun
    | true => finish ()
    | false => fail (noPrincipal name)

/-- All principals, by name. -/
def listPrincipals : Op (List Principal) := list "user:"

/-- Whether a name is that of an enabled principal whose role has every right. -/
def isAdmin (name : String) : Op Bool :=
  andThen (lookupPrincipal name) fun
    | none => finish false
    | some principal =>
        if principal.enabled then
          andThen (lookupRole principal.role) fun role => finish (role.any Role.admin)
        else finish false

/-- The deadline for choosing a new password some hours from now. -/
def resetDeadline (now : Instant) (hours : Int) : Except DirectoryError Instant :=
  match (Span.ofHours? hours).bind now.add? with
  | some deadline => .ok deadline
  | none => .error (.invalid "reset window" (Text.ofInt hours ++ " hours is out of range"))

/-! ## Roles -/

/-- Add a role of the system unless there is one of its name. -/
def seedRole (name : String) (admin : Bool) : Op Unit :=
  andThen (lookupRole name) fun
    | some _ => finish ()
    | none => write (roleKey name) (⟨name, true, admin⟩ : Role)

/-- Make sure that the roles of the system are there. -/
def seedSystemRoles : Op Unit :=
  locked <| andThen (seedRole adminRole true) fun _ => seedRole userRole false

/-- All roles, by name. -/
def listRoles : Op (List Role) := list "role:"

/-- Add a role under a free name. -/
def createRole (name : String) (admin : Bool) : Op Unit :=
  match Text.accountName name with
  | .error reason => fail (.invalid "role" reason.message)
  | .ok name =>
      locked <| andThen (lookupRole name) fun
        | some _ => fail (.alreadyExists "role" name)
        | none => write (roleKey name) (⟨name, false, admin⟩ : Role)

/-- Remove a role that is not one of the system. -/
def deleteRole (name : String) : Op Unit :=
  locked <| andThen (lookupRole name) fun
    | none => fail (noRole name)
    | some role =>
        if role.system then fail (.protectedRole role.name)
        else andThen (remove (roleKey name)) fun _ => finish ()

/-! ## Devices -/

/-- The record that a device is stored as: its address in normal form, and a clean label. -/
def normalDevice? (device : Device) : Option Device :=
  (Text.hardwareAddress? device.mac).map fun mac =>
    { device with mac := mac, name := Text.sanitizeLabel device.name }

/-- Store a device, in place of the one with the same address. -/
def putDevice (device : Device) : Op Device :=
  match normalDevice? device with
  | none => fail (.invalid "mac" (Text.badHardwareAddress device.mac))
  | some record => andThen (write (deviceKey record.mac) record) fun _ => finish record

/-- The device with an address. -/
def getDevice (mac : String) : Op (Option Device) :=
  match Text.hardwareAddress? mac with
  | none => finish none
  | some mac => read (deviceKey mac)

/-- All devices, by address. -/
def listDevices : Op (List Device) := list "device:"

/-- Remove a device, and say whether there was one. -/
def deleteDevice (mac : String) : Op Bool :=
  match Text.hardwareAddress? mac with
  | none => finish false
  | some mac => remove (deviceKey mac)

end Directory

end Gatehouse
