import Gatehouse.Json.Record
import Gatehouse.Time.Timestamp
/-!
# Records of the directory

Principals, roles and devices, and the documents that they are stored as.
-/

namespace Gatehouse

/-- The name of the role with every right. -/
def adminRole : String := "admin"

/-- The name of the role without special rights. -/
def userRole : String := "user"

/-- Somebody who can sign in. -/
structure Principal where
  name : String
  displayName : String
  email : String
  /-- The password, as entered. -/
  credential : String
  /-- Up to this instant a new password has to be chosen before anything else. -/
  resetDeadline : Option Instant
  enabled : Bool
  role : String
deriving DecidableEq

/-- What principals may do. -/
structure Role where
  name : String
  /-- Whether the role is part of every directory and cannot be deleted. -/
  system : Bool
  admin : Bool
deriving DecidableEq

/-- A piece of hardware in the network. -/
structure Device where
  /-- The hardware address. -/
  mac : String
  hostname : String
  name : String
  owner : Option String
deriving DecidableEq

/-- A kind of record: how it is written and how it is read. -/
class Record (α : Type) where
  document : α → Json
  fields : Draft.Fields α

namespace Principal

/-- An enabled principal without special rights and without a pending reset. -/
def ofName (name credential : String) : Principal where
  name := name
  displayName := name
  email := ""
  credential := credential
  resetDeadline := none
  enabled := true
  role := userRole

/-- Whether a new password has to be chosen. -/
def resetPending (principal : Principal) (now : Instant) : Bool :=
  match principal.resetDeadline with
  | some deadline => now < deadline
  | none => false

/-- Whether a text is the password. -/
def credentialMatches (principal : Principal) (candidate : String) : Bool :=
  principal.credential = candidate

/-- The record without its pending reset and with another password. -/
def withCredential (principal : Principal) (credential : String) : Principal :=
  { principal with credential := credential, resetDeadline := none }

instance : Record Principal where
  document principal := .object [
    ("credential", .string principal.credential), ("display_name", .string principal.displayName),
    ("email", .string principal.email), ("enabled", .bool principal.enabled),
    ("name", .string principal.name),
    ("reset_deadline", .ofText? (principal.resetDeadline.map Timestamp.text)),
    ("role", .string principal.role)]
  fields :=
    Principal.mk <$> .required "name" Draft.text <*> .required "display_name" Draft.text
      <*> .required "email" Draft.text <*> .required "credential" Draft.text
      <*> .optional "reset_deadline" (Draft.spelled Timestamp.parse?)
      <*> .required "enabled" Draft.boolean <*> .required "role" Draft.text

end Principal

instance : Record Role where
  document role := .object [
    ("admin", .bool role.admin), ("name", .string role.name), ("system", .bool role.system)]
  fields :=
    Role.mk <$> .required "name" Draft.text <*> .required "system" Draft.boolean
      <*> .required "admin" Draft.boolean

instance : Record Device where
  document device := .object [
    ("hostname", .string device.hostname), ("mac", .string device.mac),
    ("name", .string device.name), ("owner", .ofText? device.owner)]
  fields :=
    Device.mk <$> .required "mac" Draft.text <*> .required "hostname" Draft.text
      <*> .required "name" Draft.text <*> .optional "owner" Draft.text

/-- The record that a document holds. -/
def Record.parse? {α : Type} [Record α] (json : Json) : Option α :=
  ((Record.fields : Draft.Fields α).read (Draft.ofJson json)).toOption

end Gatehouse
