import Gatehouse.Json.Draft
/-!
# Reading values and records from JSON

A reader takes a draft to a value or says why there is none: because the text is no JSON up to the
place where the reader needs it, or because the document has another shape.  The fault that comes
first in the text is the one that is reported.

A record is read from an object, or from an array that holds its fields in order.  Members that the
record does not know are skipped, and a known member that comes twice is refused.
-/

namespace Gatehouse

namespace Draft

/-- Why a draft gives no value. -/
inductive Fault where
  /-- The text is no JSON. -/
  | text
  /-- The document is not of the shape that was asked for. -/
  | shape
deriving DecidableEq, Repr

/-- A reader of values of type `α`. -/
abbrev Reader (α : Type) := Draft → Except Fault α

/-- The deepest nesting of arrays and objects that a document may have. -/
def deepest : Nat := 127

mutual

/-- Whether a draft is well formed to its end, so that it can be skipped. -/
def isSound : Draft → Bool
  | .array items => areSound items
  | .object members => haveSound members
  | .fault => false
  | _ => true

/-- Whether all items are well formed. -/
def areSound : List Draft → Bool
  | [] => true
  | item :: rest => item.isSound && areSound rest

/-- Whether all members are well formed. -/
def haveSound : List (Option String × Draft) → Bool
  | [] => true
  | (_, value) :: rest => value.isSound && haveSound rest

end

mutual

/-- The document of a draft, if every part has its value and the nesting is at most `room`. -/
def toJson? (room : Nat) : Draft → Option Json
  | .null => some .null
  | .bool value => some (.bool value)
  | .number value => value.map .number
  | .string value => value.map .string
  | .array items =>
      match room with
      | 0 => none
      | room + 1 => (toItems? room items).map .array
  | .object members =>
      match room with
      | 0 => none
      | room + 1 => (toMembers? room members).map .ofMembers
  | .fault => none

/-- The documents of the items of an array. -/
def toItems? (room : Nat) : List Draft → Option (List Json)
  | [] => some []
  | item :: rest => do return (← item.toJson? room) :: (← toItems? room rest)

/-- The documents of the members of an object. -/
def toMembers? (room : Nat) : List (Option String × Draft) → Option (List (String × Json))
  | [] => some []
  | (name, value) :: rest => do
      return (← name, ← value.toJson? room) :: (← toMembers? room rest)

end

/-! ## Readers of single values -/

/-- Why a draft that is not of the wanted kind is refused. -/
def refusal : Draft → Fault
  | .fault => .text
  | .number none => .text
  | .string none => .text
  | _ => .shape

/-- Read a document that may be nested to the given depth. -/
def value (room : Nat) : Reader Json := fun draft =>
  match draft.toJson? room with
  | some json => .ok json
  | none => .error .text

/-- Read a string. -/
def text : Reader String
  | .string (some value) => .ok value
  | draft => .error draft.refusal

/-- Read a truth value. -/
def boolean : Reader Bool
  | .bool value => .ok value
  | draft => .error draft.refusal

/-- Read an integer within bounds. -/
def integer (least greatest : Int) : Reader Int
  | .number (some (.int n)) => if least ≤ n ∧ n ≤ greatest then .ok n else .error .shape
  | draft => .error draft.refusal

/-- Read a natural number up to a bound. -/
def natural (greatest : Nat) : Reader Nat := fun draft =>
  (integer 0 greatest draft).map Int.toNat

/-- Read `null` as no value. -/
def optional {α : Type} (read : Reader α) : Reader (Option α)
  | .null => .ok none
  | draft => (read draft).map some

/-- Read a string that spells a value. -/
def spelled {α : Type} (parse : String → Option α) : Reader α := fun draft =>
  match text draft with
  | .error reason => .error reason
  | .ok spelling =>
      match parse spelling with
      | some value => .ok value
      | none => .error .shape

/-- Read an array. -/
def list {α : Type} (read : Reader α) : Reader (List α)
  | .array items => items.mapM read
  | draft => .error draft.refusal

/-- Read one of a few names: as a string, or as an object with that one member, which is `null`. -/
def choice {α : Type} (parse : String → Option α) : Reader α
  | .object [(some name, .null)] =>
      match parse name with
      | some value => .ok value
      | none => .error .shape
  | draft => spelled parse draft

/-! ## Records -/

/-- How the fields of a record are read. -/
structure Fields (α : Type) where
  /-- The names of the fields, in order. -/
  names : List String
  /-- Whether the value of one field can be read. -/
  check : String → Draft → Except Fault Unit
  /-- The record for the values of its fields.  The first argument says whether the fields stand in
  an array, where an optional field may not be left out. -/
  build : Bool → (String → Option Draft) → Except Fault α

namespace Fields

variable {α β : Type}

/-- A field of its own with the given reading of an absent value. -/
def single (name : String) (read : Reader α) (absent : Bool → Except Fault α) : Fields α where
  names := [name]
  check other draft := if other = name then (read draft).map fun _ => () else .ok ()
  build inArray value? :=
    match value? name with
    | some draft => read draft
    | none => absent inArray

/-- A field that has to be there. -/
def required (name : String) (read : Reader α) : Fields α :=
  single name read fun _ => .error .shape

/-- A field that may be left out of an object. -/
def optional (name : String) (read : Reader α) : Fields (Option α) :=
  single name (Draft.optional read) fun inArray => if inArray then .error .shape else .ok none

/-- A field with a value for when it is left out. -/
def withDefault (name : String) (read : Reader α) (default : α) : Fields α :=
  single name read fun _ => .ok default

instance : Functor Fields where
  map f fields :=
    ⟨fields.names, fields.check, fun inArray value? => (fields.build inArray value?).map f⟩

instance : Seq Fields where
  seq f x :=
    { names := f.names ++ (x ()).names
      check := fun name draft => do
        f.check name draft
        (x ()).check name draft
      build := fun inArray value? => do
        let function ← f.build inArray value?
        let argument ← (x ()).build inArray value?
        return function argument }

/-- Pick out the members that the record knows. -/
def collect (fields : Fields α) (found : List (String × Draft)) :
    List (Option String × Draft) → Except Fault (List (String × Draft))
  | [] => .ok found
  | (none, _) :: _ => .error .text
  | (some name, value) :: rest =>
      if fields.names.contains name then
        if found.any fun entry => entry.1 = name then .error .shape
        else
          match fields.check name value with
          | .error reason => .error reason
          | .ok () => collect fields (found ++ [(name, value)]) rest
      else if value.isSound then collect fields found rest
      else .error .text

/-- Read a record. -/
def read (fields : Fields α) : Reader α
  | .object members => do
      let found ← fields.collect [] members
      fields.build false fun name => found.lookup name
  | .array items => do
      let record ← fields.build true fun name => items[fields.names.idxOf name]?
      if fields.names.length < items.length then .error .text else return record
  | draft => .error draft.refusal

end Fields

/-! ## Texts -/

/-- Read a whole text: one value, with nothing but blanks after it. -/
def readAll {α : Type} (read : Reader α) (text : List Symbol) : Except Fault α :=
  let (draft, rest) := scan text
  match read draft with
  | .error reason => .error reason
  | .ok value =>
      match rest with
      | some rest => if (skipGap rest).isEmpty then .ok value else .error .text
      | none => .error .text

/-- Read a whole text of characters. -/
def readText {α : Type} (read : Reader α) (text : String) : Except Fault α :=
  readAll read (text.toList.map some)

/-- Read a whole text given by its bytes. -/
def readBytes {α : Type} (read : Reader α) (bytes : Bytes) : Except Fault α :=
  readAll read (Utf8.decode bytes)

end Draft

/-- The document of a text. -/
def Json.parse? (text : String) : Option Json :=
  (Draft.readText (Draft.value Draft.deepest) text).toOption

/-- The document of a text given by its bytes. -/
def Json.parseBytes? (bytes : Bytes) : Option Json :=
  (Draft.readBytes (Draft.value Draft.deepest) bytes).toOption

end Gatehouse
