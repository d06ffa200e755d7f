import Gatehouse.Uuid
import Mathlib.Algebra.GroupWithZero.Nat
/-!
# Reading back hexadecimal digits and identifiers

The digits of some bytes are read back as these bytes, and those of a number as this number.  The
hyphens between the groups of an identifier are taken out where they were put in.
-/

namespace Gatehouse

namespace Hex

theorem value?_digit : ∀ n < 16, value? (digit n) = some n := by decide

theorem length_ofBytes (bytes : Bytes) : (ofBytes bytes).length = 2 * bytes.length := by
  induction bytes with
  | nil => rfl
  | cons b rest ih =>
      rw [ofBytes, List.flatMap_cons, List.length_append, ← ofBytes, ih, List.length_cons, ofByte]
      simp only [List.length_cons, List.length_nil]
      omega

theorem bytes?_ofBytes (bytes : Bytes) : bytes? (ofBytes bytes) = some bytes := by
  induction bytes with
  | nil => rfl
  | cons b rest ih =>
      have bound := b.toNat_lt
      have joined : UInt8.ofNat (b.toNat / 16 * 16 + b.toNat % 16) = b := by
        rw [Nat.div_add_mod', UInt8.ofNat_toNat]
      rw [ofBytes, List.flatMap_cons, ← ofBytes, ofByte, List.cons_append, List.cons_append,
        List.nil_append, bytes?, value?_digit _ (by omega), value?_digit _ (by omega), ih]
      simp only [Option.bind_eq_bind, Option.bind_some, joined]
      rfl

/-! ## Rows of digits -/

theorem number?_concat {row : List Char} {total n : Nat} (read : number? row = some total)
    (small : n < 16) : number? (row ++ [digit n]) = some (total * 16 + n) := by
  rw [number?] at read ⊢
  rw [List.foldl_append, read, List.foldl_cons, List.foldl_nil, value?_digit n small]
  rfl

/-- A number is read back from its digits. -/
theorem number?_toDigits (n : Nat) : number? (Nat.toDigits 16 n) = some n := by
  induction n using Nat.strongRecOn with
  | ind n ih =>
      by_cases small : n < 16
      · rw [Nat.toDigits_of_lt_base small]
        have read : number? ([] ++ [_]) = _ := number?_concat rfl small
        rwa [Nat.zero_mul, Nat.zero_add] at read
      · have before := ih (n / 16) (by omega)
        rw [Nat.toDigits_of_base_le (by decide) (by omega)]
        exact (number?_concat before (Nat.mod_lt n (by decide))).trans
          (congrArg some (Nat.div_add_mod' n 16))

theorem isDigit_of_mem_toDigits {n : Nat} {c : Char} (isMember : c ∈ Nat.toDigits 16 n) :
    isDigit c = true := by
  have isDigit_digit {m : Nat} (small : m < 16) : isDigit (digit m) = true := by
    rw [isDigit, value?_digit m small]
    rfl
  induction n using Nat.strongRecOn with
  | ind n ih =>
      by_cases small : n < 16
      · rw [Nat.toDigits_of_lt_base small, List.mem_singleton] at isMember
        exact isMember ▸ isDigit_digit small
      · rw [Nat.toDigits_of_base_le (by decide) (by omega), List.mem_append,
          List.mem_singleton] at isMember
        rcases isMember with isMember | rfl
        · exact ih (n / 16) (by omega) isMember
        · exact isDigit_digit (Nat.mod_lt n (by decide))

/-- A decimal digit is a hexadecimal one. -/
theorem isDigit_of_isDigit {c : Char} (decimal : c.isDigit = true) : isDigit c = true := by
  simp only [Char.isDigit, Bool.and_eq_true, decide_eq_true_eq, UInt32.le_iff_toNat_le] at decimal
  have low : 48 ≤ c.toNat := decimal.1
  have high : c.toNat ≤ 57 := decimal.2
  simp [isDigit, value?, low, high]

end Hex

namespace Uuid

/-- Digits put into groups are taken out of them again. -/
theorem ungroup?_hyphenate {lengths : List Nat} {digits : List Char} (nonempty : lengths ≠ [])
    (whole : digits.length = lengths.sum) :
    ungroup? lengths (hyphenate lengths digits) = some digits := by
  induction lengths generalizing digits with
  | nil => exact absurd rfl nonempty
  | cons length more ih =>
      cases more with
      | nil =>
          have all : digits.length = length := by simpa using whole
          rw [hyphenate, ungroup?, List.take_of_length_le (Nat.le_of_eq all), if_pos all]
      | cons next others =>
          rw [List.sum_cons] at whole
          have cut : (digits.take length).length = length := by
            rw [List.length_take]
            omega
          have rest : (digits.drop length).length = (next :: others).sum := by
            rw [List.length_drop]
            omega
          rw [hyphenate, ungroup?, List.drop_left' cut, List.take_left' cut]
          · simp only [ih (List.cons_ne_nil _ _) rest, Option.map_some, List.take_append_drop]
          · simp
          · simp

theorem length_hyphenate (digits : List Char) (whole : digits.length = 32) :
    (hyphenate groupLengths digits).length = 36 := by
  simp only [groupLengths, hyphenate, List.length_append, List.length_cons, List.length_take,
    List.length_drop, whole]
  omega

theorem ofDigits?_ofBytes (id : Uuid) : ofDigits? (Hex.ofBytes id.bytes) = some id := by
  rw [ofDigits?, Hex.bytes?_ofBytes, Option.bind_some, ofBytes?, dif_pos id.length_eq]

/-- An identifier is read back from its written form. -/
theorem parse?_text (id : Uuid) : parse? id.text = some id := by
  have digits : (Hex.ofBytes id.bytes).length = 32 := by
    rw [Hex.length_ofBytes, id.length_eq]
  have length := length_hyphenate _ digits
  simp only [parse?, text, String.toList_ofList, length]
  rw [if_neg (by decide), if_pos trivial, ofGroups?,
    ungroup?_hyphenate (by decide) (by rw [digits]; rfl), Option.bind_some, ofDigits?_ofBytes]

end Uuid

end Gatehouse
