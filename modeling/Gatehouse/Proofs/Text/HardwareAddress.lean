import Mathlib.Data.String.Basic
import Gatehouse.Text.Label
import Gatehouse.Proofs.Data.Hex
import Gatehouse.Proofs.Text.Blank
/-!
# Spellings of hardware addresses

A hardware address is twelve hexadecimal digits.  It is spelled in letters of either case, with
colons and hyphens anywhere between the digits and with blanks around it.  Exactly the spellings
have a normal form, and it is the one of the digits that they spell; so two spellings have the same
normal form just when they spell the same digits.
-/

namespace Gatehouse

/-! ## Single digits -/

namespace Hex

theorem toNat_lt_of_value? {c : Char} {digit : Nat} (value : value? c = some digit) :
    c.toNat < 128 := by
  unfold value? at value
  dsimp only at value
  split at value
  · rename_i decimal
    simp only [Bool.and_eq_true, decide_eq_true_eq] at decimal
    omega
  split at value
  · rename_i lower
    simp only [Bool.and_eq_true, decide_eq_true_eq] at lower
    omega
  split at value
  · rename_i upper
    simp only [Bool.and_eq_true, decide_eq_true_eq] at upper
    omega
  · cases value

/-- Among the characters of the ASCII set, those with a value are the digits for it, or become so in
lower case. -/
theorem toLower_ofNat : ∀ n < 128, ∀ digit ∈ value? (Char.ofNat n),
    digit < 16 ∧ (Char.ofNat n).toLower = Hex.digit digit ∧
      Text.isBlank (Char.ofNat n) = false := by
  decide

variable {c : Char} {digit : Nat}

theorem toLower_of_value? (value : value? c = some digit) :
    digit < 16 ∧ c.toLower = Hex.digit digit ∧ Text.isBlank c = false := by
  have isChar : Char.ofNat c.toNat = c := Char.ofNat_toNat c
  have facts := toLower_ofNat c.toNat (toNat_lt_of_value? value)
  rw [isChar] at facts
  exact facts digit value

end Hex

namespace Text

/-! ## Spellings -/

/-- A row of characters spells digits: it holds a character for each of them, in their order, and
colons and hyphens besides. -/
inductive Spells : List Char → List Nat → Prop where
  | nil : Spells [] []
  | separator {c : Char} {row : List Char} {digits : List Nat} (separates : c = ':' ∨ c = '-')
      (others : Spells row digits) : Spells (c :: row) digits
  | digit {c : Char} {digit : Nat} {row : List Char} {digits : List Nat}
      (value : Hex.value? c = some digit) (others : Spells row digits) :
      Spells (c :: row) (digit :: digits)

/-- A text denotes the hardware address with some digits: it spells them between blanks, and they
are twelve. -/
structure Denotes (input : String) (digits : List Nat) : Prop where
  spelled : ∃ before row after, input.toList = before ++ row ++ after ∧
    (∀ c ∈ before, isBlank c = true) ∧ (∀ c ∈ after, isBlank c = true) ∧ Spells row digits
  length_eq : digits.length = 12

/-- Two texts denote one hardware address. -/
def SameAddress (first second : String) : Prop :=
  ∃ digits, Denotes first digits ∧ Denotes second digits

variable {row text : List Char} {digits : List Nat} {input : String}

/-- The characters of a row other than colons and hyphens. -/
def unseparated (row : List Char) : List Char := row.filter fun c => c ≠ ':' && c ≠ '-'

theorem unseparated_cons_of_separates {c : Char} (separates : c = ':' ∨ c = '-') :
    unseparated (c :: row) = unseparated row := by
  apply List.filter_cons_of_neg
  rcases separates with rfl | rfl <;> decide

theorem unseparated_cons {c : Char} (apart : ¬ (c = ':' ∨ c = '-')) :
    unseparated (c :: row) = c :: unseparated row := by
  apply List.filter_cons_of_pos
  simpa [not_or] using apart

/-- A row spells the values of its characters other than colons and hyphens. -/
theorem spells_iff : Spells row digits ↔ (unseparated row).map Hex.value? = digits.map some := by
  have noValue : Hex.value? ':' = none ∧ Hex.value? '-' = none := by decide
  induction row generalizing digits with
  | nil =>
      constructor
      · rintro ⟨⟩
        rfl
      · intro same
        rw [List.map_eq_nil_iff.1 same.symm]
        exact .nil
  | cons c row ih =>
      by_cases separates : c = ':' ∨ c = '-'
      · rw [unseparated_cons_of_separates separates]
        constructor
        · intro spells
          cases spells with
          | separator _ others => exact ih.1 others
          | digit value _ =>
              rcases separates with rfl | rfl
              · cases noValue.1.symm.trans value
              · cases noValue.2.symm.trans value
        · intro same
          exact .separator separates (ih.2 same)
      · rw [unseparated_cons separates, List.map_cons]
        constructor
        · intro spells
          cases spells with
          | separator isSeparator _ => exact absurd isSeparator separates
          | digit value others => rw [value, ih.1 others, List.map_cons]
        · intro same
          cases digits with
          | nil => cases same
          | cons digit digits =>
              obtain ⟨value, others⟩ := List.cons.inj same
              exact .digit value (ih.2 others)

theorem Spells.unique {others : List Nat} (first : Spells row digits)
    (second : Spells row others) : digits = others := by
  have same := (spells_iff.1 first).symm.trans (spells_iff.1 second)
  exact List.map_injective_iff.2 (fun _ _ => Option.some.inj) same

theorem Spells.small (spells : Spells row digits) : ∀ digit ∈ digits, digit < 16 := by
  induction spells with
  | nil => exact List.forall_mem_nil _
  | separator _ _ ih => exact ih
  | digit value _ ih => exact List.forall_mem_cons.2 ⟨(Hex.toLower_of_value? value).1, ih⟩

theorem Spells.solid (spells : Spells row digits) : ∀ c ∈ row, isBlank c = false := by
  induction spells with
  | nil => exact List.forall_mem_nil _
  | separator separates _ ih =>
      refine List.forall_mem_cons.2 ⟨?_, ih⟩
      rcases separates with rfl | rfl <;> decide
  | digit value _ ih => exact List.forall_mem_cons.2 ⟨(Hex.toLower_of_value? value).2.2, ih⟩

theorem denotes_iff :
    Denotes input digits ↔ Spells (trim input).toList digits ∧ digits.length = 12 := by
  constructor
  · rintro ⟨⟨before, row, after, split, blankBefore, blankAfter, spells⟩, whole⟩
    have trimmed : trim input = String.ofList row := by
      rw [← String.ofList_toList (s := input), split, List.append_assoc,
        trim_append_left blankBefore, trim_append_right spells.solid blankAfter]
    rw [trimmed, String.toList_ofList]
    exact ⟨spells, whole⟩
  · rintro ⟨spells, whole⟩
    obtain ⟨before, after, split, blankBefore, blankAfter⟩ := exists_blanks input
    exact ⟨⟨before, _, after, split, blankBefore, blankAfter, spells⟩, whole⟩

theorem Denotes.unique {others : List Nat} (first : Denotes input digits)
    (second : Denotes input others) : digits = others :=
  (denotes_iff.1 first).1.unique (denotes_iff.1 second).1

/-! ## Normal forms -/

/-- Digits in lower case, in groups of two. -/
def groups : List Nat → List String
  | high :: low :: rest => String.ofList [Hex.digit high, Hex.digit low] :: groups rest
  | _ => []

/-- The normal form of the hardware address with some digits. -/
def normalAddress (digits : List Nat) : String := ":".intercalate (groups digits)

/-- What is left over by groups of two. -/
theorem eq_of_short (short : ∀ high low rest, digits = high :: low :: rest → False) :
    digits = [] ∨ ∃ last, digits = [last] := by
  match digits with
  | [] => exact .inl rfl
  | [last] => exact .inr ⟨last, rfl⟩
  | high :: low :: rest => exact absurd rfl (short high low rest)

/-- The digits of an address, with colons behind every second one. -/
theorem toList_normalAddress (even : digits.length % 2 = 0) :
    (normalAddress digits).toList = colonPairs (digits.map Hex.digit) := by
  rw [normalAddress, String.toList_intercalate]
  induction digits using groups.induct with
  | case1 high low rest ih =>
      have evenRest : rest.length % 2 = 0 := by
        simp only [List.length_cons] at even
        omega
      specialize ih evenRest
      match rest with
      | [] => simp [groups, colonPairs]
      | [last] => cases evenRest
      | next :: last :: others =>
          simp only [groups, List.map_cons, colonPairs, String.toList_ofList] at ih ⊢
          rw [List.intercalate_cons_cons, ih]
          rfl
  | case2 digits short =>
      rcases eq_of_short short with rfl | ⟨last, rfl⟩
      · rfl
      · cases even

/-- Digits with colons among them are a spelling of the digits. -/
theorem spells_colonPairs (small : ∀ digit ∈ digits, digit < 16) :
    Spells (colonPairs (digits.map Hex.digit)) digits := by
  induction digits using groups.induct with
  | case1 high low rest ih =>
      obtain ⟨isHigh, smallRest⟩ := List.forall_mem_cons.1 small
      obtain ⟨isLow, smallOthers⟩ := List.forall_mem_cons.1 smallRest
      have readHigh := Hex.value?_digit high isHigh
      have readLow := Hex.value?_digit low isLow
      specialize ih smallOthers
      cases rest with
      | nil => exact .digit readHigh (.digit readLow .nil)
      | cons next others => exact .digit readHigh (.digit readLow (.separator (.inl rfl) ih))
  | case2 digits short =>
      rcases eq_of_short short with rfl | ⟨last, rfl⟩
      · exact .nil
      · exact .digit (Hex.value?_digit last (small last List.mem_cons_self)) .nil

/-- The normal form of an address denotes it. -/
theorem denotes_normalAddress (small : ∀ digit ∈ digits, digit < 16) (whole : digits.length = 12) :
    Denotes (normalAddress digits) digits where
  spelled := by
    have spells := spells_colonPairs small
    rw [← toList_normalAddress (by rw [whole])] at spells
    exact ⟨[], _, [], (List.append_nil _).symm, List.forall_mem_nil _, List.forall_mem_nil _,
      spells⟩
  length_eq := whole

/-! ## Spellings have normal forms -/

/-- Characters that all have values. -/
theorem exists_values (all : row.all Hex.isDigit = true) :
    ∃ digits : List Nat, row.map Hex.value? = digits.map some := by
  refine ⟨row.map fun c => (Hex.value? c).getD 0, ?_⟩
  rw [List.map_map]
  apply List.map_congr_left
  intro c isMember
  obtain ⟨digit, value⟩ := Option.isSome_iff_exists.1 (List.all_eq_true.1 all c isMember)
  rw [Function.comp_apply, value, Option.getD_some]

/-- Characters with values are the digits for them in lower case. -/
theorem map_toLower (values : row.map Hex.value? = digits.map some) :
    row.map Char.toLower = digits.map Hex.digit := by
  induction row generalizing digits with
  | nil => rw [List.map_eq_nil_iff.1 values.symm]; rfl
  | cons c row ih =>
      cases digits with
      | nil => cases values
      | cons digit digits =>
          obtain ⟨value, others⟩ := List.cons.inj values
          rw [List.map_cons, List.map_cons, ih others, (Hex.toLower_of_value? value).2.1]

theorem all_isDigit (values : row.map Hex.value? = digits.map some) :
    row.all Hex.isDigit = true := by
  rw [List.all_eq_true]
  intro c isMember
  have isValue : Hex.value? c ∈ digits.map some := values ▸ List.mem_map_of_mem isMember
  obtain ⟨digit, _, value⟩ := List.mem_map.1 isValue
  exact Option.isSome_of_eq_some value.symm

/-- Digits in lower case, in pairs with colons between them, are a normal form. -/
theorem ofList_colonPairs (values : row.map Hex.value? = digits.map some)
    (whole : digits.length = 12) :
    String.ofList (colonPairs (row.map Char.toLower)) = normalAddress digits := by
  rw [map_toLower values, ← toList_normalAddress (by rw [whole]), String.ofList_toList]

theorem hardwareAddress?_of_unseparated (isRow : unseparated (trim input).toList = row) :
    hardwareAddress? input =
      if row.length = 12 && row.all Hex.isDigit then
        some (String.ofList (colonPairs (row.map Char.toLower)))
      else none := by
  subst isRow
  rfl

/-- A text has a normal form when it denotes a hardware address, and it is the one of the digits
that it denotes. -/
theorem hardwareAddress?_eq_some_iff {address : String} :
    hardwareAddress? input = some address ↔
      ∃ digits, Denotes input digits ∧ address = normalAddress digits := by
  rw [hardwareAddress?_of_unseparated rfl]
  constructor
  · intro found
    split at found
    · rename_i accepted
      simp only [Bool.and_eq_true, decide_eq_true_eq] at accepted
      obtain ⟨digits, values⟩ := exists_values accepted.2
      have whole : digits.length = 12 := by
        have lengths := congrArg List.length values
        rwa [List.length_map, List.length_map, accepted.1, eq_comm] at lengths
      refine ⟨digits, denotes_iff.2 ⟨spells_iff.2 values, whole⟩, ?_⟩
      rw [← ofList_colonPairs values whole]
      exact (Option.some.inj found).symm
    · cases found
  · rintro ⟨digits, denotes, rfl⟩
    obtain ⟨spells, whole⟩ := denotes_iff.1 denotes
    have values := spells_iff.1 spells
    have lengths := congrArg List.length values
    rw [List.length_map, List.length_map, whole] at lengths
    rw [if_pos (by rw [lengths, all_isDigit values]; rfl), ofList_colonPairs values whole]

/-- A text that denotes an address has its normal form. -/
theorem hardwareAddress?_of_denotes (denotes : Denotes input digits) :
    hardwareAddress? input = some (normalAddress digits) :=
  hardwareAddress?_eq_some_iff.2 ⟨digits, denotes, rfl⟩

theorem Denotes.small (denotes : Denotes input digits) : ∀ digit ∈ digits, digit < 16 :=
  (denotes_iff.1 denotes).1.small

theorem Denotes.normal (denotes : Denotes input digits) : Denotes (normalAddress digits) digits :=
  denotes_normalAddress denotes.small denotes.length_eq

variable {first second address other : String}

/-- All texts that denote an address have its normal form. -/
theorem SameAddress.hardwareAddress? (same : SameAddress first second)
    (isFirst : hardwareAddress? first = some address) :
    hardwareAddress? second = some address := by
  obtain ⟨digits, denotes, alsoDenotes⟩ := same
  rw [hardwareAddress?_of_denotes denotes] at isFirst
  rw [hardwareAddress?_of_denotes alsoDenotes, isFirst]

/-- Normal forms are equal just when the texts denote one address. -/
theorem eq_iff_sameAddress (isFirst : hardwareAddress? first = some address)
    (isSecond : hardwareAddress? second = some other) :
    address = other ↔ SameAddress first second := by
  obtain ⟨digits, denotes, rfl⟩ := hardwareAddress?_eq_some_iff.1 isFirst
  obtain ⟨others, alsoDenotes, rfl⟩ := hardwareAddress?_eq_some_iff.1 isSecond
  constructor
  · intro same
    have again := alsoDenotes.normal
    rw [← same] at again
    obtain rfl := denotes.normal.unique again
    exact ⟨digits, denotes, alsoDenotes⟩
  · rintro ⟨shared, isShared, alsoShared⟩
    rw [denotes.unique isShared, alsoDenotes.unique alsoShared]

/-- A normal form is its own normal form. -/
theorem hardwareAddress?_of_normal (isNormal : hardwareAddress? input = some address) :
    hardwareAddress? address = some address := by
  obtain ⟨digits, denotes, rfl⟩ := hardwareAddress?_eq_some_iff.1 isNormal
  exact hardwareAddress?_of_denotes denotes.normal

/-! ### What a normal form looks like -/

/-- A digit in lower case. -/
def isLowerDigit (c : Char) : Bool := ('0' ≤ c && c ≤ '9') || ('a' ≤ c && c ≤ 'f')

/-- Six groups of two digits in lower case, with colons between them. -/
def IsNormalAddress (address : String) : Prop :=
  ∃ parts : List String, parts.length = 6 ∧
    (∀ part ∈ parts, part.length = 2 ∧ part.toList.all isLowerDigit = true) ∧
    address = ":".intercalate parts

theorem isLowerDigit_digit : ∀ n < 16, isLowerDigit (Hex.digit n) = true := by decide

theorem length_groups (digits : List Nat) : (groups digits).length = digits.length / 2 := by
  induction digits using groups.induct with
  | case1 high low rest ih =>
      rw [groups, List.length_cons, ih, List.length_cons, List.length_cons]
      omega
  | case2 digits short =>
      rcases eq_of_short short with rfl | ⟨last, rfl⟩
      · rfl
      · simp [groups]

theorem isLowerDigit_of_mem_groups (small : ∀ digit ∈ digits, digit < 16) :
    ∀ part ∈ groups digits, part.length = 2 ∧ part.toList.all isLowerDigit = true := by
  induction digits using groups.induct with
  | case1 high low rest ih =>
      obtain ⟨isHigh, smallRest⟩ := List.forall_mem_cons.1 small
      obtain ⟨isLow, smallOthers⟩ := List.forall_mem_cons.1 smallRest
      rw [groups, List.forall_mem_cons]
      refine ⟨?_, ih smallOthers⟩
      simp [isLowerDigit_digit high isHigh, isLowerDigit_digit low isLow]
  | case2 digits short =>
      rcases eq_of_short short with rfl | ⟨last, rfl⟩ <;> exact List.forall_mem_nil _

theorem isNormalAddress_of_normal (isNormal : hardwareAddress? input = some address) :
    IsNormalAddress address := by
  obtain ⟨digits, denotes, rfl⟩ := hardwareAddress?_eq_some_iff.1 isNormal
  refine ⟨groups digits, ?_, isLowerDigit_of_mem_groups denotes.small, rfl⟩
  rw [length_groups, denotes.length_eq]

/-! ## Labels -/

/-- A label: at most sixty-four characters, all of which may stand in one. -/
def IsLabel (text : String) : Prop :=
  text.length ≤ labelLength ∧ ∀ c ∈ text.toList, isLabelChar c = true

theorem isLabel_sanitizeLabel (input : String) : IsLabel (sanitizeLabel input) := by
  constructor
  · rw [sanitizeLabel, String.length_ofList]
    exact List.length_take_le _ _
  · rw [sanitizeLabel, String.toList_ofList]
    exact fun c isMember => (List.mem_filter.1 (List.mem_of_mem_take isMember)).2

/-- A label is kept as it is. -/
theorem IsLabel.sanitizeLabel_eq {text : String} (isLabel : IsLabel text) :
    sanitizeLabel text = text := by
  rw [sanitizeLabel, List.filter_eq_self.2 isLabel.2, List.take_of_length_le isLabel.1,
    String.ofList_toList]

end Text

end Gatehouse
