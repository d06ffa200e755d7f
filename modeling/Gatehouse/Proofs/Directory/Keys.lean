import Mathlib.Data.String.Basic
import Gatehouse.Directory.Operations
import Gatehouse.Proofs.Directory.Record
/-!
# Keys of records

A key puts a text for the kind of a record in front of its label.  These texts differ in their first
letters, so that no label ever makes the key of one kind one of another, and the keys of one kind
stand together, in the order of the labels.
-/

namespace Gatehouse

/-! ## Keys with a text in front -/

namespace Key

variable {start first second : String}

theorem append_lt_append_iff : start ++ first < start ++ second ↔ first < second := by
  have chars (front left right : List Char) : front ++ left < front ++ right ↔ left < right := by
    induction front with
    | nil => rfl
    | cons c front ih => simp [ih]
  simp only [String.lt_iff_toList_lt, String.toList_append, chars]

/-- The same text in front does not change the order. -/
theorem compare_append_eq_lt :
    compare (start ++ first) (start ++ second) = .lt ↔ compare first second = .lt := by
  rw [compare_lt_iff_lt, compare_lt_iff_lt, append_lt_append_iff]

/-- A key does not come before the text in front of it. -/
theorem compare_append_ne_lt (start rest : String) : compare (start ++ rest) start ≠ .lt := by
  intro below
  have shorter : start ++ rest < start ++ "" := by
    rw [String.append_empty]
    exact compare_lt_iff_lt.1 below
  exact List.not_lt_nil _ (String.lt_iff_toList_lt.1 (append_lt_append_iff.1 shorter))

theorem append_injective (same : start ++ first = start ++ second) : first = second := by
  have lists := congrArg String.toList same
  simp only [String.toList_append] at lists
  exact String.toList_inj.1 (List.append_cancel_left lists)

theorem begins_append (start rest : String) : Store.begins start (start ++ rest) = true := by
  rw [Store.begins, String.toList_append, List.isPrefixOf_iff_prefix]
  exact List.prefix_append _ _

/-! ### First letters -/

/-- The key has a first letter. -/
def StartsWith (c : Char) (key : String) : Prop := ∃ rest, key.toList = c :: rest

variable {c d : Char}

theorem StartsWith.append (starts : StartsWith c start) (rest : String) :
    StartsWith c (start ++ rest) := by
  obtain ⟨front, isStart⟩ := starts
  exact ⟨front ++ rest.toList, by rw [String.toList_append, isStart, List.cons_append]⟩

/-- Different first letters decide the order. -/
theorem compare_of_startsWith (isFirst : StartsWith c first) (isSecond : StartsWith d second)
    (below : c < d) : compare first second = .lt := by
  obtain ⟨_, first⟩ := isFirst
  obtain ⟨_, second⟩ := isSecond
  rw [compare_lt_iff_lt, String.lt_iff_toList_lt, first, second]
  exact List.cons_lt_cons_iff.2 (.inl below)

theorem compare_ne_lt_of_startsWith (isFirst : StartsWith c first) (isSecond : StartsWith d second)
    (above : d < c) : compare first second ≠ .lt := by
  have other := compare_lt_iff_lt.1 (compare_of_startsWith isSecond isFirst above)
  exact fun below => lt_asymm other (compare_lt_iff_lt.1 below)

theorem begins_of_startsWith (isFirst : StartsWith c first) (isSecond : StartsWith d second)
    (apart : c ≠ d) : Store.begins first second = false := by
  obtain ⟨_, first⟩ := isFirst
  obtain ⟨_, second⟩ := isSecond
  rw [Store.begins, first, second, List.isPrefixOf_cons_cons, beq_false_of_ne apart, Bool.false_and]

theorem ne_of_startsWith (isFirst : StartsWith c first) (isSecond : StartsWith d second)
    (apart : c ≠ d) : first ≠ second := by
  rintro rfl
  obtain ⟨_, first⟩ := isFirst
  obtain ⟨_, second⟩ := isSecond
  exact apart (List.cons.inj (first.symm.trans second)).1

end Key

namespace Directory

/-! ## Kinds and names of records -/

/-- The kinds of records, in the order of their keys. -/
inductive RecordKind where
  | device
  | role
  | principal
deriving DecidableEq

namespace RecordKind

/-- The records of a kind. -/
abbrev Content : RecordKind → Type
  | device => Device
  | role => Role
  | principal => Principal

/-- What tells a record from others of its kind. -/
def label : (kind : RecordKind) → kind.Content → String
  | device => Device.mac
  | role => Role.name
  | principal => Principal.name

/-- What the keys of a kind begin with. -/
def start : RecordKind → String
  | device => "device:"
  | role => "role:"
  | principal => "user:"

/-- The first letter of the keys of a kind. -/
def letter : RecordKind → Char
  | device => 'd'
  | role => 'r'
  | principal => 'u'

instance : (kind : RecordKind) → Record kind.Content
  | device => inferInstanceAs (Record Device)
  | role => inferInstanceAs (Record Role)
  | principal => inferInstanceAs (Record Principal)

instance : (kind : RecordKind) → LawfulRecord kind.Content
  | device => inferInstanceAs (LawfulRecord Device)
  | role => inferInstanceAs (LawfulRecord Role)
  | principal => inferInstanceAs (LawfulRecord Principal)

theorem startsWith_start (kind : RecordKind) : Key.StartsWith kind.letter kind.start := by
  cases kind <;> exact ⟨_, rfl⟩

theorem letter_injective {first second : RecordKind} (same : first.letter = second.letter) :
    first = second := by
  cases first <;> cases second <;> first | rfl | exact absurd same (by decide)

end RecordKind

/-- The name of a record: its kind, and its label among the records of that kind. -/
structure RecordName where
  kind : RecordKind
  label : String
deriving DecidableEq

/-- The key of a record. -/
def RecordName.key (name : RecordName) : String := name.kind.start ++ name.label

/-- Different records have different keys. -/
theorem RecordName.key_injective : Function.Injective RecordName.key := by
  rintro ⟨kind, label⟩ ⟨other, another⟩ same
  have sameLetter : kind.letter = other.letter := by
    by_contra apart
    exact Key.ne_of_startsWith (kind.startsWith_start.append label)
      (other.startsWith_start.append another) apart same
  obtain rfl := RecordKind.letter_injective sameLetter
  exact congrArg (RecordName.mk kind) (Key.append_injective same)

end Directory

end Gatehouse
