import Gatehouse.Data.Base64Url
import Gatehouse.Proofs.Data.Utf8
/-!
# Reading back base64

Every row of bytes is read back from its written form, and no other text is read as these bytes: the
decoder takes no padding and no bits that the last digit does not need.  The written form holds
nothing but the sixty-four digits, so it contains neither a dot nor a blank.
-/

namespace Gatehouse.Base64Url

/-- A digit stands for the six bits that it was written for. -/
theorem value?_digit : ∀ n < 64, value? (digit n) = some n := by decide

/-- The high six bits of a byte, and what is left of it, make up the byte. -/
theorem byte_of_parts (b : UInt8) {high low : Nat} (parts : high + low = b.toNat) :
    UInt8.ofNat (high + low) = b := by
  rw [parts, UInt8.ofNat_toNat]

/-- Decoding undoes encoding.  The four cases are those of the encoder: no byte is left, one, two,
or a whole group. -/
theorem decode?_encode (bytes : Bytes) : decode? (encode bytes) = some bytes := by
  fun_induction encode bytes with
  | case1 => rfl
  | case2 a =>
      have bound := a.toNat_lt
      rw [decode?, value?_digit _ (by omega), value?_digit _ (by omega)]
      simp only [Option.bind_eq_bind, Option.bind_some]
      rw [if_pos (by omega), byte_of_parts a (by omega)]
      rfl
  | case3 a b =>
      have boundA := a.toNat_lt
      have boundB := b.toNat_lt
      rw [decode?, value?_digit _ (by omega), value?_digit _ (by omega), value?_digit _ (by omega)]
      simp only [Option.bind_eq_bind, Option.bind_some]
      rw [if_pos (by omega), byte_of_parts a (by omega), byte_of_parts b (by omega)]
      rfl
  | case4 a b c rest ih =>
      have boundA := a.toNat_lt
      have boundB := b.toNat_lt
      have boundC := c.toNat_lt
      rw [decode?.eq_def]
      simp only [value?_digit (a.toNat / 4) (by omega),
        value?_digit (a.toNat % 4 * 16 + b.toNat / 16) (by omega),
        value?_digit (b.toNat % 16 * 4 + c.toNat / 64) (by omega),
        value?_digit (c.toNat % 64) (by omega), Option.bind_eq_bind, Option.bind_some, ih]
      rw [byte_of_parts a (by omega), byte_of_parts b (by omega), byte_of_parts c (by omega)]
      rfl

/-! ## One written form -/

/-- A character that stands for six bits is the digit for them. -/
theorem digit_of_value? {c : Char} {n : Nat} (found : value? c = some n) :
    n < 64 ∧ digit n = c := by
  have isChar (m : Nat) (same : c.toNat = m) : Char.ofNat m = c := by
    rw [← same, Char.ofNat_toNat]
  unfold value? at found
  simp only [Bool.and_eq_true, decide_eq_true_eq] at found
  unfold digit
  split at found
  · cases found
    exact ⟨by omega, by rw [if_pos (by omega)]; exact isChar _ (by omega)⟩
  split at found
  · cases found
    exact ⟨by omega, by
      rw [if_neg (by omega), if_pos (by omega)]; exact isChar _ (by omega)⟩
  split at found
  · cases found
    exact ⟨by omega, by
      rw [if_neg (by omega), if_neg (by omega), if_pos (by omega)]; exact isChar _ (by omega)⟩
  split at found
  · rename_i isHyphen
    cases found
    exact ⟨by omega, isHyphen.symm⟩
  split at found
  · rename_i isLine
    cases found
    exact ⟨by omega, isLine.symm⟩
  · cases found

/-- Encoding undoes decoding. -/
theorem encode_of_decode? {text : List Char} {bytes : Bytes}
    (decoded : decode? text = some bytes) : encode bytes = text := by
  fun_induction decode? text generalizing bytes with
  | case1 => cases decoded; rfl
  | case2 => cases decoded
  | case3 p q =>
      simp only [Option.bind_eq_bind, Option.bind_eq_some_iff] at decoded
      obtain ⟨a, foundA, b, foundB, decoded⟩ := decoded
      obtain ⟨boundA, rfl⟩ := digit_of_value? foundA
      obtain ⟨boundB, rfl⟩ := digit_of_value? foundB
      split at decoded
      · cases decoded
        rw [encode, Utf8.toNat_byte (by omega)]
        have first : (a * 4 + b / 16) / 4 = a := by omega
        have second : (a * 4 + b / 16) % 4 * 16 = b := by omega
        rw [first, second]
      · cases decoded
  | case4 p q r =>
      simp only [Option.bind_eq_bind, Option.bind_eq_some_iff] at decoded
      obtain ⟨a, foundA, b, foundB, c, foundC, decoded⟩ := decoded
      obtain ⟨boundA, rfl⟩ := digit_of_value? foundA
      obtain ⟨boundB, rfl⟩ := digit_of_value? foundB
      obtain ⟨boundC, rfl⟩ := digit_of_value? foundC
      split at decoded
      · cases decoded
        rw [encode, Utf8.toNat_byte (by omega), Utf8.toNat_byte (by omega)]
        have first : (a * 4 + b / 16) / 4 = a := by omega
        have second : (a * 4 + b / 16) % 4 * 16 + (b % 16 * 16 + c / 4) / 16 = b := by omega
        have third : (b % 16 * 16 + c / 4) % 16 * 4 = c := by omega
        rw [first, second, third]
      · cases decoded
  | case5 p q r s rest ih =>
      simp only [Option.bind_eq_bind, Option.bind_eq_some_iff] at decoded
      obtain ⟨a, foundA, b, foundB, c, foundC, d, foundD, others, isRest, decoded⟩ := decoded
      obtain ⟨boundA, rfl⟩ := digit_of_value? foundA
      obtain ⟨boundB, rfl⟩ := digit_of_value? foundB
      obtain ⟨boundC, rfl⟩ := digit_of_value? foundC
      obtain ⟨boundD, rfl⟩ := digit_of_value? foundD
      cases decoded
      rw [encode, Utf8.toNat_byte (by omega), Utf8.toNat_byte (by omega),
        Utf8.toNat_byte (by omega), ih isRest]
      have first : (a * 4 + b / 16) / 4 = a := by omega
      have second : (a * 4 + b / 16) % 4 * 16 + (b % 16 * 16 + c / 4) / 16 = b := by omega
      have third : (b % 16 * 16 + c / 4) % 16 * 4 + (c % 4 * 64 + d) / 64 = c := by omega
      have fourth : (c % 4 * 64 + d) % 64 = d := by omega
      rw [first, second, third, fourth]

theorem decode?_eq_some_iff {text : List Char} {bytes : Bytes} :
    decode? text = some bytes ↔ text = encode bytes := by
  constructor
  · exact fun decoded => (encode_of_decode? decoded).symm
  · rintro rfl
    exact decode?_encode bytes

/-! ## The characters of a written form -/

theorem exists_digit_of_mem_encode {bytes : Bytes} {c : Char} (isMember : c ∈ encode bytes) :
    ∃ n < 64, digit n = c := by
  fun_induction encode bytes with
  | case1 => simp at isMember
  | case2 a =>
      have bound := a.toNat_lt
      simp only [List.mem_cons, List.not_mem_nil, or_false] at isMember
      rcases isMember with rfl | rfl <;> exact ⟨_, by omega, rfl⟩
  | case3 a b =>
      have boundA := a.toNat_lt
      have boundB := b.toNat_lt
      simp only [List.mem_cons, List.not_mem_nil, or_false] at isMember
      rcases isMember with rfl | rfl | rfl <;> exact ⟨_, by omega, rfl⟩
  | case4 a b c rest ih =>
      have boundA := a.toNat_lt
      have boundB := b.toNat_lt
      have boundC := c.toNat_lt
      simp only [List.mem_cons] at isMember
      rcases isMember with rfl | rfl | rfl | rfl | isMember
      · exact ⟨_, by omega, rfl⟩
      · exact ⟨_, by omega, rfl⟩
      · exact ⟨_, by omega, rfl⟩
      · exact ⟨_, by omega, rfl⟩
      · exact ih isMember

end Gatehouse.Base64Url
