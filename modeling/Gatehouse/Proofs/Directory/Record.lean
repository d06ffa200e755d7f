import Gatehouse.Directory.Record
import Gatehouse.Proofs.Json.Canonical
import Gatehouse.Proofs.Json.Record
import Gatehouse.Proofs.Time.Timestamp
/-!
# Reading back records

The document of a record is read back as the record, and a text of the document is read back as the
document.
-/

namespace Gatehouse

open Draft (text_string boolean_bool optional_text optional_ofText?)
open Draft.Fields (Reads)

/-- A kind of record whose documents are read back, by themselves and as part of a text. -/
class LawfulRecord (α : Type) [Record α] : Prop where
  parse?_document (record : α) : Record.parse? (Record.document record) = some record
  exact_document (record : α) (room : Nat) : (Record.document record).Exact (room + 1)

theorem Json.exact_ofText? (value : Option String) (room : Nat) :
    (Json.ofText? value).Exact room := by
  cases value with
  | none => exact exact_null room
  | some text => exact exact_string room text

/-- A record is read back from the object of its members. -/
theorem Record.parse?_named {α : Type} [Record α] {members : List (String × Draft)} {record : α}
    (isWritten : Draft.ofJson (Record.document record) = .object (Draft.Fields.named members))
    (reads : Record.fields.Reads members record) (apart : (members.map Prod.fst).Nodup) :
    Record.parse? (Record.document record) = some record := by
  rw [Record.parse?, isWritten, reads.read_named apart]
  rfl

/-! ## Members of each kind -/

namespace Principal

/-- The members of the document of a principal. -/
def members (principal : Principal) : List (String × Draft) := [
  ("credential", .string (some principal.credential)),
  ("display_name", .string (some principal.displayName)),
  ("email", .string (some principal.email)), ("enabled", .bool principal.enabled),
  ("name", .string (some principal.name)),
  ("reset_deadline", Draft.ofJson (.ofText? (principal.resetDeadline.map Timestamp.text))),
  ("role", .string (some principal.role))]

theorem ofJson_document (principal : Principal) :
    Draft.ofJson (Record.document principal) = .object (Draft.Fields.named principal.members) :=
  rfl

instance : LawfulRecord Principal where
  parse?_document principal := by
    have reads : Record.fields.Reads _ principal :=
      Reads.map Principal.mk (.single (text_string _)) |>.seq (.single (text_string _))
        |>.seq (.single (text_string _)) |>.seq (.single (text_string _))
        |>.seq (.single (optional_ofText? Timestamp.parse?_text _))
        |>.seq (.single (boolean_bool _)) |>.seq (.single (text_string _))
    exact Record.parse?_named principal.ofJson_document
      (reads.congr fun _ => by simp [members, or_assoc, or_comm, or_left_comm]) (by simp [members])
  exact_document principal room := by
    refine Json.exact_object (Json.sorted_iff_names.2 ?_) ?_
    · simp only [List.map_cons, List.map_nil]
      decide
    · simp [Json.exact_string, Json.exact_bool, Json.exact_ofText?]

end Principal

namespace Role

/-- The members of the document of a role. -/
def members (role : Role) : List (String × Draft) := [
  ("admin", .bool role.admin), ("name", .string (some role.name)), ("system", .bool role.system)]

theorem ofJson_document (role : Role) :
    Draft.ofJson (Record.document role) = .object (Draft.Fields.named role.members) :=
  rfl

instance : LawfulRecord Role where
  parse?_document role := by
    have reads : Record.fields.Reads _ role :=
      Reads.map Role.mk (.single (text_string _)) |>.seq (.single (boolean_bool _))
        |>.seq (.single (boolean_bool _))
    exact Record.parse?_named role.ofJson_document
      (reads.congr fun _ => by simp [members, or_assoc, or_comm, or_left_comm]) (by simp [members])
  exact_document role room := by
    refine Json.exact_object (Json.sorted_iff_names.2 ?_) ?_
    · simp only [List.map_cons, List.map_nil]
      decide
    · simp [Json.exact_string, Json.exact_bool]

end Role

namespace Device

/-- The members of the document of a device. -/
def members (device : Device) : List (String × Draft) := [
  ("hostname", .string (some device.hostname)), ("mac", .string (some device.mac)),
  ("name", .string (some device.name)), ("owner", Draft.ofJson (.ofText? device.owner))]

theorem ofJson_document (device : Device) :
    Draft.ofJson (Record.document device) = .object (Draft.Fields.named device.members) :=
  rfl

instance : LawfulRecord Device where
  parse?_document device := by
    have reads : Record.fields.Reads _ device :=
      Reads.map Device.mk (.single (text_string _)) |>.seq (.single (text_string _))
        |>.seq (.single (text_string _)) |>.seq (.single (optional_text _))
    exact Record.parse?_named device.ofJson_document
      (reads.congr fun _ => by simp [members, or_comm, or_left_comm]) (by simp [members])
  exact_document device room := by
    refine Json.exact_object (Json.sorted_iff_names.2 ?_) ?_
    · simp only [List.map_cons, List.map_nil]
      decide
    · simp [Json.exact_string, Json.exact_ofText?]

end Device

end Gatehouse
