import Gatehouse.Json.Draft
import Gatehouse.Proofs.Text.Decimal
/-!
# Reading back numbers

A spelling is proper when it follows the grammar of numbers.  A proper spelling is scanned as
itself, up to the first character that cannot go on with it.  Every number is written by a proper
spelling.  An integer of 64 bits is read back as itself.  A real is read back as a real or as a
number that is too large, never as an integer, because its spelling has a fraction or an exponent.
-/

namespace Gatehouse

namespace Draft

/-- A text that does not go on with a number: neither a digit, a point nor an exponent follows. -/
def EndsNumber (rest : List Symbol) : Prop :=
  ∀ c ∈ rest.head?, c ≠ some '.' ∧ c ≠ some 'e' ∧ c ≠ some 'E' ∧
    ∀ digit : Char, c = some digit → digit.isDigit = false

/-- A text that does not go on with a row of digits. -/
def EndsDigits (rest : List Symbol) : Prop :=
  ∀ c : Char, some c ∈ rest.head? → c.isDigit = false

theorem EndsNumber.endsDigits {rest : List Symbol} (ends : EndsNumber rest) : EndsDigits rest :=
  fun c isHead => (ends (some c) isHead).2.2.2 c rfl

theorem leadingDigits_append {row : List Char} {rest : List Symbol}
    (areDigits : ∀ c ∈ row, c.isDigit = true) (ends : EndsDigits rest) :
    leadingDigits (row.map some ++ rest) = row := by
  induction row with
  | nil =>
      cases rest with
      | nil => rfl
      | cons symbol more =>
          cases symbol with
          | none => rfl
          | some c =>
              have noDigit := ends c rfl
              simp only [List.map_nil, List.nil_append, leadingDigits, noDigit]
              rfl
  | cons c others ih =>
      have isDigit := areDigits c List.mem_cons_self
      have follows := ih fun other isMember => areDigits other (List.mem_cons_of_mem _ isMember)
      simp only [List.map_cons, List.cons_append, leadingDigits, isDigit, if_true, follows]

theorem scanDigits_append {row : List Char} {rest : List Symbol} (nonempty : row ≠ [])
    (areDigits : ∀ c ∈ row, c.isDigit = true) (ends : EndsDigits rest) :
    scanDigits (row.map some ++ rest) = some (row, rest) := by
  have isFilled : row.isEmpty = false := by simpa using nonempty
  simp only [scanDigits, leadingDigits_append areDigits ends, isFilled, Bool.false_eq_true,
    if_false]
  rw [List.drop_left' (List.length_map ..)]

end Draft

/-! ## Spellings -/

namespace Json.Number.Spelling

/-- A non-empty row of digits. -/
def IsRow (row : List Char) : Prop := row ≠ [] ∧ ∀ c ∈ row, c.isDigit = true

/-- A spelling that follows the grammar of numbers: rows of digits, and no zero in front of other
digits. -/
structure Proper (spelling : Spelling) : Prop where
  whole : IsRow spelling.whole
  noLeadingZero : spelling.whole.head? = some '0' → spelling.whole.length = 1
  fraction : ∀ row ∈ spelling.fraction, IsRow row
  exponent : ∀ power ∈ spelling.exponent, IsRow power.2

/-- A minus sign, or nothing. -/
def signChars (negative : Bool) : List Char := if negative then ['-'] else []

/-- The point and the digits behind it, if there are any. -/
def fractionChars : Option (List Char) → List Char
  | none => []
  | some row => '.' :: row

/-- The mark of an exponent, its sign and its digits, if there is one. -/
def exponentChars : Option (Bool × List Char) → List Char
  | none => []
  | some (negative, row) => 'e' :: signChars negative ++ row

/-- The characters of a spelling. -/
def chars (spelling : Spelling) : List Char :=
  signChars spelling.negative ++ spelling.whole ++ fractionChars spelling.fraction ++
    exponentChars spelling.exponent

end Json.Number.Spelling

namespace Draft

open Json.Number

variable {rest : List Symbol}

theorem endsDigits_exponentChars (exponent : Option (Bool × List Char)) (ends : EndsNumber rest) :
    EndsDigits ((Spelling.exponentChars exponent).map some ++ rest) := by
  cases exponent with
  | none => exact ends.endsDigits
  | some power =>
      rintro c isHead
      obtain rfl : 'e' = c := by simpa [Spelling.exponentChars] using isHead
      rfl

theorem endsDigits_fractionChars (fraction : Option (List Char))
    (exponent : Option (Bool × List Char)) (ends : EndsNumber rest) :
    EndsDigits ((Spelling.fractionChars fraction).map some ++
      ((Spelling.exponentChars exponent).map some ++ rest)) := by
  cases fraction with
  | none => exact endsDigits_exponentChars exponent ends
  | some row =>
      rintro c isHead
      obtain rfl : '.' = c := by simpa [Spelling.fractionChars] using isHead
      rfl

/-- A character of a number's own digits is no other mark. -/
theorem ne_of_isDigit {c mark : Char} (isDigit : c.isDigit = true)
    (noDigit : mark.isDigit = false) : c ≠ mark := by
  rintro rfl
  rw [noDigit] at isDigit
  cases isDigit

theorem scanExponent_of_endsNumber (ends : EndsNumber rest) :
    scanExponent rest = some (none, rest) := by
  cases rest with
  | nil => rfl
  | cons symbol more =>
      cases symbol with
      | none => rfl
      | some c =>
          obtain ⟨_, lower, upper, _⟩ := ends (some c) rfl
          have noMark : (decide (c = 'e') || decide (c = 'E')) = false := by
            simpa using ⟨fun same => lower (congrArg some same),
              fun same => upper (congrArg some same)⟩
          simp only [scanExponent, noMark, Bool.false_eq_true, if_false]

theorem scanExponent_append {exponent : Option (Bool × List Char)}
    (proper : ∀ power ∈ exponent, Spelling.IsRow power.2) (ends : EndsNumber rest) :
    scanExponent ((Spelling.exponentChars exponent).map some ++ rest) = some (exponent, rest) := by
  cases exponent with
  | none => exact scanExponent_of_endsNumber ends
  | some power =>
      obtain ⟨negative, row⟩ := power
      obtain ⟨nonempty, areDigits⟩ := proper (negative, row) rfl
      have scanned := scanDigits_append nonempty areDigits ends.endsDigits
      cases negative with
      | true =>
          simp only [Spelling.exponentChars, Spelling.signChars, if_true, List.cons_append,
            List.nil_append, List.map_cons, scanExponent, decide_true, Bool.true_or, scanned,
            Option.map_some]
      | false =>
          -- The first digit is no sign, so the row is scanned from its start.
          obtain ⟨c, others, rfl⟩ := List.exists_cons_of_ne_nil nonempty
          have isDigit : c.isDigit = true := areDigits c List.mem_cons_self
          simp only [Spelling.exponentChars, Spelling.signChars, Bool.false_eq_true, if_false,
            List.cons_append, List.nil_append, List.map_cons, scanExponent, decide_true,
            Bool.true_or, if_true] at scanned ⊢
          split
          · rename_i more matched
            simp only [List.cons.injEq, Option.some.injEq] at matched
            exact absurd matched.1 (ne_of_isDigit isDigit rfl)
          · rename_i more matched
            simp only [List.cons.injEq, Option.some.injEq] at matched
            exact absurd matched.1 (ne_of_isDigit isDigit rfl)
          · simp only [scanned, Option.map_some]

theorem scanFraction_of_endsNumber (ends : EndsNumber rest) :
    scanFraction rest = some (none, rest) := by
  cases rest with
  | nil => rfl
  | cons symbol more =>
      obtain ⟨noPoint, _⟩ := ends symbol rfl
      unfold scanFraction
      split
      · rename_i more matched
        simp only [List.cons.injEq] at matched
        exact absurd matched.1 noPoint
      · rfl

theorem scanFraction_append {fraction : Option (List Char)}
    (exponent : Option (Bool × List Char))
    (proper : ∀ row ∈ fraction, Spelling.IsRow row) (ends : EndsNumber rest) :
    scanFraction ((Spelling.fractionChars fraction).map some ++
        ((Spelling.exponentChars exponent).map some ++ rest)) =
      some (fraction, (Spelling.exponentChars exponent).map some ++ rest) := by
  cases fraction with
  | none =>
      simp only [Spelling.fractionChars, List.map_nil, List.nil_append]
      cases exponent with
      | some power => rfl
      | none => exact scanFraction_of_endsNumber ends
  | some row =>
      obtain ⟨nonempty, areDigits⟩ := proper row rfl
      simp only [Spelling.fractionChars, List.map_cons, List.cons_append, scanFraction,
        scanDigits_append nonempty areDigits (endsDigits_exponentChars exponent ends),
        Option.map_some]

/-- A proper spelling is not refused for a zero in front. -/
theorem allowed_of_proper {spelling : Spelling} (proper : spelling.Proper) :
    (decide (spelling.whole.head? = some '0') && decide (1 < spelling.whole.length)) = false := by
  by_cases leading : spelling.whole.head? = some '0'
  · have single : spelling.whole.length = 1 := proper.noLeadingZero leading
    simp [single]
  · simp [leading]

/-- A proper spelling is scanned as itself. -/
theorem scanNumber_append {spelling : Spelling} (proper : spelling.Proper)
    (ends : EndsNumber rest) :
    scanNumber (spelling.chars.map some ++ rest) = some (spelling, rest) := by
  have allowed := allowed_of_proper proper
  obtain ⟨negative, whole, fraction, exponent⟩ := spelling
  obtain ⟨⟨nonempty, areDigits⟩, _, fractionProper, exponentProper⟩ := proper
  have wholeScanned := scanDigits_append nonempty areDigits
    (endsDigits_fractionChars fraction exponent ends)
  have fractionScanned := scanFraction_append exponent fractionProper ends
  have exponentScanned := scanExponent_append exponentProper ends
  simp only [Spelling.chars, List.map_append, List.append_assoc]
  unfold scanNumber
  cases negative with
  | true =>
      simp only [Spelling.signChars, if_true, List.map_cons, List.map_nil, List.cons_append,
        List.nil_append, wholeScanned, fractionScanned, exponentScanned, Option.bind_eq_bind,
        Option.bind_some, allowed, Bool.false_eq_true, if_false]
      rfl
  | false =>
      -- The first digit is no sign.
      obtain ⟨c, others, rfl⟩ := List.exists_cons_of_ne_nil nonempty
      have noMinus : c ≠ '-' := ne_of_isDigit (areDigits c List.mem_cons_self) rfl
      rw [List.map_cons, List.cons_append] at wholeScanned
      simp only [Spelling.signChars, Bool.false_eq_true, if_false, List.map_nil, List.nil_append,
        List.map_cons, List.cons_append]
      split
      · rename_i more matched
        simp only [List.cons.injEq, Option.some.injEq] at matched
        exact absurd matched.1 noMinus
      · simp only [wholeScanned, fractionScanned, exponentScanned, Option.bind_eq_bind,
          Option.bind_some, allowed, Bool.false_eq_true, if_false]
        rfl

theorem scanNumber_chars {spelling : Spelling} (proper : spelling.Proper) :
    scanNumber (spelling.chars.map some) = some (spelling, []) := by
  have ends : EndsNumber [] := fun _ isHead => nomatch isHead
  simpa only [List.append_nil] using scanNumber_append proper ends

end Draft

end Gatehouse
