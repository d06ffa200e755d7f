import Gatehouse.Proofs.Text.Blank
import Gatehouse.Text.Decimal
/-!
# Rows of digits

A number is written as a row of digits that is not empty and stands for it, and only zero is written
with a zero in front.  So a number within the limit is read back as itself.
-/

namespace Gatehouse.Text

theorem digits_ne_nil (n : Nat) : digits n ≠ [] := Nat.toDigits_ne_nil

theorem isDigit_of_mem_digits {n : Nat} {c : Char} (isMember : c ∈ digits n) : c.isDigit = true :=
  Nat.isDigit_of_mem_toDigits (by decide) (by decide) isMember

theorem ofDigitChars_digits (n : Nat) : Nat.ofDigitChars 10 (digits n) 0 = n :=
  Nat.ofDigitChars_ten_toDigits

theorem digits_zero : digits 0 = ['0'] := Nat.toDigits_zero 10

/-- Only zero is written with a zero in front. -/
theorem head?_digits_ne_zero {n : Nat} (positive : 0 < n) : (digits n).head? ≠ some '0' := by
  induction n using Nat.strongRecOn with
  | ind n ih =>
      unfold digits at ih ⊢
      by_cases small : n < 10
      · rw [Nat.toDigits_of_lt_base small, List.head?_cons]
        intro same
        have isZero : n.digitChar.toNat - 48 = n := Nat.toNat_digitChar_sub_48_of_lt_ten small
        rw [Option.some.inj same] at isZero
        exact absurd isZero (by simp; omega)
      · rw [Nat.toDigits_of_base_le (by decide) (by omega),
          List.head?_append]
        have before := ih (n / 10) (by omega) (by omega)
        cases first : (Nat.toDigits 10 (n / 10)).head? with
        | none => exact absurd (List.head?_eq_none_iff.1 first) Nat.toDigits_ne_nil
        | some c => simpa only [first, Option.some_or] using before

/-- A number is read back from its digits. -/
theorem readDigits?_digits (n : Nat) : readDigits? (digits n) = some n := by
  have allDigits : (digits n).all Char.isDigit = true :=
    List.all_eq_true.2 fun _ => isDigit_of_mem_digits
  simp [readDigits?, digits_ne_nil, allDigits, ofDigitChars_digits]

/-- A number within the limit is read back as itself. -/
theorem readNat?_digits {limit n : Nat} (bounded : n ≤ limit) :
    readNat? limit (digits n) = some n := by
  unfold readNat?
  split
  · rename_i rest sign
    have isDigit : '+'.isDigit = true := isDigit_of_mem_digits (sign ▸ List.mem_cons_self)
    exact absurd isDigit (by decide)
  · simp [readDigits?_digits, bounded]

/-- A number beyond the limit is not read. -/
theorem le_of_readNat? {limit n : Nat} {text : List Char} (read : readNat? limit text = some n) :
    n ≤ limit := by
  obtain ⟨_, bounded⟩ := Option.filter_eq_some_iff.1 read
  exact of_decide_eq_true bounded

theorem ofNat_injective {first second : Nat} (same : ofNat first = ofNat second) :
    first = second := by
  rw [← ofDigitChars_digits first, ← ofDigitChars_digits second, String.ofList_injective same]

/-- A number is written differently from a text that starts with something else than a digit. -/
theorem ofNat_ne {n : Nat} {text : String} {c : Char} (starts : text.toList.head? = some c)
    (noDigit : c.isDigit = false) : ofNat n ≠ text := by
  rintro rfl
  rw [ofNat, String.toList_ofList] at starts
  rw [isDigit_of_mem_digits (List.mem_of_head? starts)] at noDigit
  cases noDigit

theorem isBlank_of_isDigit {c : Char} (digit : c.isDigit = true) : isBlank c = false := by
  simp only [Char.isDigit, Bool.and_eq_true, decide_eq_true_eq, UInt32.le_iff_toNat_le] at digit
  have low : 48 ≤ c.toNat := digit.1
  have high : c.toNat ≤ 57 := digit.2
  simp only [isBlank, Bool.or_eq_false_iff, Bool.and_eq_false_iff, decide_eq_false_iff_not]
  omega

theorem isWord_ofNat (n : Nat) : IsWord (ofNat n) := by
  constructor
  · intro empty
    exact digits_ne_nil n (String.ofList_injective empty)
  · intro c isMember
    rw [ofNat, String.toList_ofList] at isMember
    exact isBlank_of_isDigit (isDigit_of_mem_digits isMember)

/-! ## Zeros in front -/

theorem isDigit_of_mem_paddedDigits {width n : Nat} {c : Char}
    (isMember : c ∈ paddedDigits width n) : c.isDigit = true := by
  rcases List.mem_append.1 isMember with isZero | isMember
  · rw [List.eq_of_mem_replicate isZero]
    rfl
  · exact isDigit_of_mem_digits isMember

theorem paddedDigits_ne_nil (width n : Nat) : paddedDigits width n ≠ [] :=
  List.append_ne_nil_of_right_ne_nil _ (digits_ne_nil n)

/-- Zeros in front do not count. -/
theorem ofDigitChars_paddedDigits (width n : Nat) :
    Nat.ofDigitChars 10 (paddedDigits width n) 0 = n := by
  rw [paddedDigits, Nat.ofDigitChars_append, Nat.ofDigitChars_replicate_zero, Nat.mul_zero,
    ofDigitChars_digits]

theorem length_paddedDigits {width n : Nat} (some : 0 < width) (fits : n < Nat.pow 10 width) :
    (paddedDigits width n).length = width := by
  have short : (digits n).length ≤ width :=
    (Nat.length_toDigits_le_iff (by decide) some).2 fits
  rw [paddedDigits, List.length_append, List.length_replicate]
  omega

end Gatehouse.Text
