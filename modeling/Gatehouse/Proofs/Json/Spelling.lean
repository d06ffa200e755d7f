import Gatehouse.Proofs.Json.Number
/-!
# The spellings of numbers

Every number is written by a proper spelling.  An integer of 64 bits is read back as itself.  A
real is spelled with a fraction or an exponent, so it is read back as a real or as a number that is
too large, and never as an integer.
-/

namespace Gatehouse.Json.Number

/-! ## Integers -/

theorem le_ofDigitChars (row : List Char) (start : Nat) :
    start ≤ Nat.ofDigitChars 10 row start := by
  induction row generalizing start with
  | nil => simp
  | cons c rest ih =>
      rw [Nat.ofDigitChars_cons]
      have grows := ih (10 * start + (c.toNat - '0'.toNat))
      omega

/-- Digits that stand for a number of 64 bits are all taken up. -/
theorem appendDigits_eq {row : List Char} {start : Nat}
    (fits : Nat.ofDigitChars 10 row start ≤ Word.greatest64) :
    appendDigits start row = (Nat.ofDigitChars 10 row start, []) := by
  induction row generalizing start with
  | nil => simp [appendDigits]
  | cons c rest ih =>
      rw [Nat.ofDigitChars_cons, Nat.mul_comm 10] at fits ⊢
      have small : start * 10 + (c.toNat - 48) ≤ Word.greatest64 :=
        Nat.le_trans (le_ofDigitChars rest _) fits
      rw [appendDigits]
      simp only [small, if_true]
      exact ih fits

/-- How an integer is spelled. -/
def intSpelling (n : Int) : Spelling := ⟨n < 0, Text.digits n.natAbs, none, none⟩

theorem chars_intSpelling (n : Int) : (intSpelling n).chars = (Text.ofInt n).toList := by
  by_cases negative : n < 0 <;>
    simp [Spelling.chars, intSpelling, Spelling.signChars, Spelling.fractionChars,
      Spelling.exponentChars, Text.ofInt, Text.ofNat, negative]

/-- A row of digits of a number: zero is the only one with a zero in front. -/
theorem isRow_digits (n : Nat) : Spelling.IsRow (Text.digits n) :=
  ⟨Text.digits_ne_nil n, fun _ => Text.isDigit_of_mem_digits⟩

theorem proper_intSpelling (n : Int) : (intSpelling n).Proper where
  whole := isRow_digits _
  noLeadingZero := by
    intro leading
    rcases Nat.eq_zero_or_pos n.natAbs with zero | positive
    · simp only [intSpelling, zero, Text.digits_zero, List.length_singleton]
    · exact absurd leading (Text.head?_digits_ne_zero positive)
  fraction := fun _ isMember => nomatch isMember
  exponent := fun _ isMember => nomatch isMember

/-- An integer of 64 bits, with or without a sign, is read back as itself. -/
theorem value?_intSpelling {n : Int} (least : Word.leastSigned ≤ n)
    (greatest : n ≤ (Word.greatest64 : Int)) : (intSpelling n).value? = some (.int n) := by
  have fits : n.natAbs ≤ Word.greatest64 := by
    unfold Word.leastSigned Word.greatest64 at *
    omega
  have read : appendDigits 0 (Text.digits n.natAbs) = (n.natAbs, []) := by
    rw [appendDigits_eq (by rwa [Text.ofDigitChars_digits]), Text.ofDigitChars_digits]
  simp only [intSpelling, Spelling.value?, read]
  by_cases negative : n < 0
  · have inRange : 0 < n.natAbs ∧ n.natAbs ≤ Word.leastSigned.natAbs := by
      unfold Word.leastSigned at *
      omega
    have same : -(n.natAbs : Int) = n := by omega
    simp only [negative, decide_true, Bool.not_true, Bool.false_eq_true, if_false, inRange,
      Bool.and_self, if_true, same]
  · have same : (n.natAbs : Int) = n := by omega
    simp only [negative, decide_false, Bool.not_false, if_true, same]

theorem appendDigits_le {row : List Char} {start : Nat} (fits : start ≤ Word.greatest64) :
    (appendDigits start row).1 ≤ Word.greatest64 := by
  induction row generalizing start with
  | nil => exact fits
  | cons c rest ih =>
      rw [appendDigits]
      split
      · rename_i small
        exact ih small
      · exact fits

/-! ## Reals -/

/-- Whether a spelling has a fraction or an exponent. -/
def Spelling.IsBroken (spelling : Spelling) : Prop :=
  spelling.fraction.isSome ∨ spelling.exponent.isSome

theorem real_of_scale? {negative : Bool} {significand : Nat} {exponent : Int} {n : Number}
    (scaled : scale? negative significand exponent = some n) : ∃ bits, n = .real bits := by
  unfold scale? at scaled
  dsimp only at scaled
  split at scaled
  · exact ⟨_, (Option.some.inj scaled).symm⟩
  · split at scaled
    · split at scaled
      · cases scaled
      · exact ⟨_, (Option.some.inj scaled).symm⟩
    · split at scaled
      · exact ⟨_, (Option.some.inj scaled).symm⟩
      · cases scaled

/-- An integer that a spelling stands for fits into 64 bits. -/
theorem Spelling.bounds_of_value? {spelling : Spelling} {n : Int}
    (value : spelling.value? = some (.int n)) :
    Word.leastSigned ≤ n ∧ n ≤ (Word.greatest64 : Int) := by
  have noReal {negative : Bool} {significand : Nat} {exponent : Int}
      (scaled : scale? negative significand exponent = some (.int n)) : False := by
    obtain ⟨_, real⟩ := real_of_scale? scaled
    cases real
  have fits : (appendDigits 0 spelling.whole).1 ≤ Word.greatest64 := appendDigits_le (by decide)
  unfold Spelling.value? at value
  dsimp only at value
  split at value
  · split at value
    · cases value
      unfold Word.leastSigned
      omega
    · split at value
      · rename_i inRange
        simp only [Bool.and_eq_true, decide_eq_true_eq] at inRange
        cases value
        unfold Word.leastSigned Word.greatest64 at *
        omega
      · exact (noReal value).elim
  · split at value
    · exact (noReal value).elim
    · split at value
      · exact (noReal value).elim
      · split at value
        · exact (noReal value).elim
        · cases value

/-- A spelling with a fraction or an exponent stands for no integer. -/
theorem Spelling.real_of_value? {spelling : Spelling} (broken : spelling.IsBroken) {n : Number}
    (value : spelling.value? = some n) : ∃ bits, n = .real bits := by
  unfold Spelling.value? at value
  dsimp only at value
  split at value
  · rename_i noFraction noExponent _
    simp [IsBroken, noFraction, noExponent] at broken
  · split at value
    · exact real_of_scale? value
    · split at value
      · exact real_of_scale? value
      · split at value
        · exact real_of_scale? value
        · cases value

/-- Nothing is smaller than zero, so zero rounds to no number with an interval above it. -/
theorem holds_zero {area : Neighbourhood} (positive : 0 < area.low) (s : Int) :
    area.holds 0 s = false := by
  have below : compareScaled 0 s area.low area.scale = .lt := by
    rw [compareScaled, Nat.zero_mul, Nat.zero_mul, Nat.compare_eq_lt]
    exact Nat.mul_pos (Nat.mul_pos positive (Nat.pow_pos (by decide))) (Nat.pow_pos (by decide))
  simp only [Neighbourhood.holds, below]
  simp

theorem stripZeros_ne_zero (fuel : Nat) {c : Nat} (s : Int) (nonzero : c ≠ 0) :
    (stripZeros fuel c s).1 ≠ 0 := by
  induction fuel generalizing c s with
  | zero => exact nonzero
  | succ fuel ih =>
      rw [stripZeros]
      by_cases isRound : c % 10 = 0
      · have less : c / 10 ≠ 0 := by omega
        simpa [nonzero, isRound] using ih (s + 1) less
      · simpa [isRound] using nonzero

/-- The digits found for a number other than zero are not zero, unless none are found. -/
theorem shortest_ne_zero {area : Neighbourhood} (positive : 0 < area.low) :
    (shortest area).1 ≠ 0 ∨ shortest area = (0, 0) := by
  unfold shortest
  dsimp only
  generalize found : (List.filterMap _ (List.range 17)).head? = candidate
  cases candidate with
  | none => exact .inr rfl
  | some candidate =>
      obtain ⟨c, s⟩ := candidate
      refine .inl (stripZeros_ne_zero 17 s ?_)
      have isMember := List.mem_of_head? found
      obtain ⟨n, _, chosen⟩ := List.mem_filterMap.1 isMember
      obtain ⟨d, held, same⟩ := Option.map_eq_some_iff.1 chosen
      cases same
      have holds := List.find?_some held
      rintro rfl
      rw [holds_zero positive] at holds
      cases holds

/-- The bits of a number other than zero, its sign apart, have an interval above zero. -/
theorem low_pos {bits : UInt64} (nonzero : bits <<< 1 ≠ 0) : 0 < (neighbourhood bits).low := by
  have notZero : (bits <<< 1).toNat ≠ 0 := fun zero => nonzero (UInt64.toNat_inj.1 zero)
  rw [UInt64.toNat_shiftLeft] at notZero
  simp only [UInt64.toNat_one, Nat.one_mod, Nat.shiftLeft_eq, Nat.pow_one] at notZero
  have significant : (if bits.toNat >>> 52 % 2048 = 0 then bits.toNat % hiddenBit
      else bits.toNat % hiddenBit + hiddenBit) ≠ 0 := by
    rw [Nat.shiftRight_eq_div_pow]
    unfold hiddenBit
    split <;> omega
  have enough (m : Nat) (choice : Prop) [Decidable choice] (positive : m ≠ 0) :
      0 < 4 * m - (if choice then 1 else 2) := by
    split <;> omega
  exact enough _ _ significant

/-- Digits with zeros on one side are a row of digits. -/
theorem isRow_append {first second : List Char} (nonempty : first ++ second ≠ [])
    (firstDigits : ∀ c ∈ first, c.isDigit = true) (secondDigits : ∀ c ∈ second, c.isDigit = true) :
    Spelling.IsRow (first ++ second) :=
  ⟨nonempty, fun c isMember =>
    (List.mem_append.1 isMember).elim (firstDigits c) (secondDigits c)⟩

theorem isDigit_of_mem_zeros {count : Nat} {c : Char} (isMember : c ∈ List.replicate count '0') :
    c.isDigit = true := by
  rw [List.eq_of_mem_replicate isMember]
  rfl

theorem isRow_zero : Spelling.IsRow ['0'] := ⟨List.cons_ne_nil _ _, by simp⟩

/-- Digits on both sides of a point are a proper spelling. -/
theorem exists_positional (negative : Bool) {whole row : List Char}
    (wholeRow : Spelling.IsRow whole) (noLeadingZero : whole.head? = some '0' → whole.length = 1)
    (isRow : Spelling.IsRow row) :
    ∃ spelling : Spelling, spelling.Proper ∧ spelling.IsBroken ∧
      spelling.chars = Spelling.signChars negative ++ (whole ++ '.' :: row) := by
  refine ⟨⟨negative, whole, some row, none⟩, ⟨wholeRow, noLeadingZero, ?_, ?_⟩, .inl rfl, ?_⟩
  · rintro digits isMember
    cases isMember
    exact isRow
  · exact fun _ isMember => nomatch isMember
  · simp [Spelling.chars, Spelling.fractionChars, Spelling.exponentChars]

/-- A first digit, the others behind a point and a power of ten are a proper spelling. -/
theorem exists_scientific (negative : Bool) {first : Char} {others : List Char} (power : Int)
    (areDigits : ∀ d ∈ first :: others, d.isDigit = true) :
    ∃ spelling : Spelling, spelling.Proper ∧ spelling.IsBroken ∧
      spelling.chars = Spelling.signChars negative ++
        ([first] ++ Spelling.fractionChars (if others.isEmpty then none else some others) ++
          'e' :: (Text.ofInt power).toList) := by
  refine ⟨⟨negative, [first], if others.isEmpty then none else some others,
      some (power < 0, Text.digits power.natAbs)⟩,
    ⟨⟨List.cons_ne_nil _ _, ?_⟩, fun _ => rfl, ?_, ?_⟩, .inr rfl, ?_⟩
  · rintro d isMember
    exact areDigits d (List.mem_cons.2 (.inl (List.mem_singleton.1 isMember)))
  · rintro digits isMember
    cases others with
    | nil => cases isMember
    | cons second more =>
        cases isMember
        exact ⟨List.cons_ne_nil _ _, fun d isMember =>
          areDigits d (List.mem_cons_of_mem _ isMember)⟩
  · rintro exponent isMember
    cases isMember
    exact isRow_digits power.natAbs
  · have powerChars := chars_intSpelling power
    simp only [Spelling.chars, intSpelling, Spelling.fractionChars, Spelling.exponentChars,
      List.append_nil] at powerChars
    simp [Spelling.chars, Spelling.exponentChars, ← powerChars]

/-- Digits with a point between them are a proper spelling, unless they start with a zero. -/
theorem exists_cut (negative : Bool) {row : List Char} (areDigits : ∀ d ∈ row, d.isDigit = true)
    {point : Nat} (positive : 0 < point) (inside : point < row.length)
    (noLeadingZero : row.head? ≠ some '0') :
    ∃ spelling : Spelling, spelling.Proper ∧ spelling.IsBroken ∧
      spelling.chars =
        Spelling.signChars negative ++ (row.take point ++ '.' :: row.drop point) := by
  refine exists_positional negative
    ⟨?_, fun d isMember => areDigits d (List.mem_of_mem_take isMember)⟩ ?_
    ⟨?_, fun d isMember => areDigits d (List.mem_of_mem_drop isMember)⟩
  · rw [← List.length_pos_iff, List.length_take]
    omega
  · intro isZero
    rw [List.head?_take, if_neg (by omega)] at isZero
    exact absurd isZero noLeadingZero
  · rw [← List.length_pos_iff, List.length_drop]
    omega

/-- The four layouts of digits `c` and a power `k` of ten are proper spellings. -/
theorem exists_layout (negative : Bool) {c : Nat} {k : Int} (nonzero : c ≠ 0 ∨ (c, k) = (0, 0)) :
    let row := Text.digits c
    let point : Int := row.length + k
    ∃ spelling : Spelling, spelling.Proper ∧ spelling.IsBroken ∧
      spelling.chars = Spelling.signChars negative ++
        (if 0 ≤ k && point ≤ 16 then row ++ List.replicate k.toNat '0' ++ ['.', '0']
        else if 0 < point && point ≤ 16 then
          row.take point.toNat ++ '.' :: row.drop point.toNat
        else if -5 < point && point ≤ 0 then
          '0' :: '.' :: List.replicate (-point).toNat '0' ++ row
        else
          let tail := match row.tail with
            | [] => []
            | more => '.' :: more
          row.take 1 ++ tail ++ 'e' :: (Text.ofInt (point - 1)).toList) := by
  intro row point
  have rowDigits : ∀ d ∈ row, d.isDigit = true := fun d => Text.isDigit_of_mem_digits
  have rowFilled : row ≠ [] := Text.digits_ne_nil c
  obtain ⟨first, others, same⟩ := List.exists_cons_of_ne_nil rowFilled
  -- A zero in front means that the number is zero, which has one digit and no power.
  have leading : row.head? = some '0' → c = 0 ∧ k = 0 := by
    intro isZero
    rcases Nat.eq_zero_or_pos c with zero | positive
    · rcases nonzero with nonzero | both
      · exact absurd zero nonzero
      · exact ⟨zero, congrArg Prod.snd both⟩
    · exact absurd isZero (Text.head?_digits_ne_zero positive)
  by_cases atEnd : (decide (0 ≤ k) && decide (point ≤ 16)) = true
  · rw [if_pos atEnd]
    refine exists_positional negative
      (isRow_append (by simp [rowFilled]) rowDigits fun _ => isDigit_of_mem_zeros) ?_
      isRow_zero
    intro isZero
    obtain ⟨rfl, rfl⟩ := leading (by simpa [same] using isZero)
    simp [row, Text.digits_zero]
  rw [if_neg atEnd]
  by_cases between : (decide (0 < point) && decide (point ≤ 16)) = true
  · rw [if_pos between]
    simp only [Bool.and_eq_true, decide_eq_true_eq, not_and] at atEnd between
    refine exists_cut negative rowDigits (show 0 < point.toNat by omega) (by omega) ?_
    intro isZero
    obtain ⟨_, zero⟩ := leading isZero
    omega
  rw [if_neg between]
  by_cases before : (decide (-5 < point) && decide (point ≤ 0)) = true
  · rw [if_pos before]
    exact exists_positional negative isRow_zero (fun _ => rfl)
      (isRow_append (by simp [rowFilled]) (fun _ => isDigit_of_mem_zeros) rowDigits)
  · rw [if_neg before]
    simp only [same, List.tail_cons, List.take_succ_cons, List.take_zero]
    have spelled := exists_scientific negative (point - 1) (same ▸ rowDigits)
    cases others with
    | nil => exact spelled
    | cons second more => exact spelled

/-- A real is written by a proper spelling with a fraction or an exponent. -/
theorem exists_realSpelling (bits : UInt64) :
    ∃ spelling : Spelling, spelling.Proper ∧ spelling.IsBroken ∧
      spelling.chars = realText bits := by
  have sign : (if bits.toNat >>> 63 = 1 then ['-'] else []) =
      Spelling.signChars (decide (bits.toNat >>> 63 = 1)) := by
    simp [Spelling.signChars]
  unfold realText
  dsimp only
  rw [sign]
  by_cases zero : bits <<< 1 = 0
  · rw [if_pos zero]
    exact exists_positional _ isRow_zero (fun _ => rfl) isRow_zero
  · rw [if_neg zero]
    exact exists_layout _ (shortest_ne_zero (low_pos zero))

/-! ## Reading a number back -/

theorem exists_spelling (n : Number) :
    ∃ spelling : Spelling, spelling.Proper ∧ spelling.chars = n.text := by
  cases n with
  | int value => exact ⟨_, proper_intSpelling value, chars_intSpelling value⟩
  | real bits =>
      obtain ⟨spelling, proper, _, chars⟩ := exists_realSpelling bits
      exact ⟨spelling, proper, chars⟩

/-- A number starts with a minus sign or a digit. -/
theorem exists_cons_text (n : Number) :
    ∃ c more, n.text = c :: more ∧ (c = '-' ∨ c.isDigit = true) := by
  obtain ⟨spelling, ⟨⟨nonempty, areDigits⟩, _⟩, chars⟩ := n.exists_spelling
  obtain ⟨first, others, same⟩ := List.exists_cons_of_ne_nil nonempty
  have isDigit : first.isDigit = true := areDigits first (by rw [same]; exact List.mem_cons_self)
  rw [← chars, Spelling.chars, same]
  cases spelling.negative with
  | true => exact ⟨_, _, rfl, .inl rfl⟩
  | false => exact ⟨_, _, rfl, .inr isDigit⟩

/-- What is read where a number is written. -/
def reread (n : Number) : Option Number :=
  (Draft.scanNumber (n.text.map some)).bind fun found => found.1.value?

/-- A number is scanned up to its end, whatever follows that does not go on with it. -/
theorem exists_scanNumber_text (n : Number) {rest : List Symbol} (ends : Draft.EndsNumber rest) :
    ∃ spelling : Spelling, Draft.scanNumber (n.text.map some ++ rest) = some (spelling, rest) ∧
      spelling.value? = n.reread := by
  obtain ⟨spelling, proper, chars⟩ := n.exists_spelling
  have alone := Draft.scanNumber_chars proper
  rw [chars] at alone
  refine ⟨spelling, ?_, ?_⟩
  · rw [← chars]
    exact Draft.scanNumber_append proper ends
  · simp only [reread, alone, Option.bind_some]

theorem reread_int {n : Int} (least : Word.leastSigned ≤ n)
    (greatest : n ≤ (Word.greatest64 : Int)) : (int n).reread = some (int n) := by
  have alone := Draft.scanNumber_chars (proper_intSpelling n)
  rw [chars_intSpelling] at alone
  simp only [reread, text, alone, Option.bind_some, value?_intSpelling least greatest]

theorem bounds_of_reread {n : Number} {m : Int} (read : n.reread = some (.int m)) :
    Word.leastSigned ≤ m ∧ m ≤ (Word.greatest64 : Int) := by
  obtain ⟨_, _, value⟩ := Option.bind_eq_some_iff.1 read
  exact Spelling.bounds_of_value? value

theorem reread_real {bits : UInt64} {n : Number} (read : (real bits).reread = some n) :
    ∃ others, n = real others := by
  obtain ⟨spelling, proper, broken, chars⟩ := exists_realSpelling bits
  have alone := Draft.scanNumber_chars proper
  rw [chars] at alone
  simp only [reread, text, alone, Option.bind_some] at read
  exact spelling.real_of_value? broken read

end Gatehouse.Json.Number
