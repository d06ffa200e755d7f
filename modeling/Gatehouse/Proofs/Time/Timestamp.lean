import Gatehouse.Time.Timestamp
import Gatehouse.Proofs.Text.Decimal
import Gatehouse.Proofs.Time.Calendar
/-!
# Reading back instants

The text of an instant is read as the instant, for every year of the calendar, every part of a second
and every leap second.
-/

namespace Gatehouse.Timestamp

open Text

variable {row rest : List Char} {width n : Nat}

/-! ## Numbers -/

/-- A text that does not go on with a row of digits. -/
def EndsRow (rest : List Char) : Prop := ∀ c ∈ rest.head?, c.isDigit = false

/-- A row of digits is read up to its end, or up to as many digits as there may be. -/
theorem number?_append (nonempty : row ≠ []) (areDigits : ∀ c ∈ row, c.isDigit = true)
    (fits : row.length ≤ width) (ends : row.length = width ∨ EndsRow rest) :
    number? width (row ++ rest) = some (Nat.ofDigitChars 10 row 0, rest) := by
  have stops : EndsRow (rest.take (width - row.length)) := by
    rcases ends with full | ends
    · rw [full, Nat.sub_self, List.take_zero]
      exact fun _ isHead => nomatch isHead
    · intro c isHead
      rw [List.head?_take] at isHead
      split at isHead
      · cases isHead
      · exact ends c isHead
  have taken : ((row ++ rest).take width).takeWhile Char.isDigit = row := by
    rw [List.take_append, List.take_of_length_le fits, takeWhile_row areDigits stops]
  have filled : row.isEmpty = false := by simpa using nonempty
  simp only [number?, taken, filled, Bool.false_eq_true, if_false, List.drop_left]

theorem trimLeft_cons {c : Char} (solid : isBlank c = false) (rest : List Char) :
    trimLeft (c :: rest) = c :: rest := by
  rw [trimLeft, List.dropWhile_cons, solid, if_neg Bool.false_ne_true]

/-- A row of digits has no blank in front. -/
theorem trimLeft_row (nonempty : row ≠ []) (areDigits : ∀ c ∈ row, c.isDigit = true)
    (rest : List Char) : trimLeft (row ++ rest) = row ++ rest := by
  obtain ⟨c, more, rfl⟩ := List.exists_cons_of_ne_nil nonempty
  exact trimLeft_cons (isBlank_of_isDigit (areDigits c List.mem_cons_self)) _

/-- Two digits are read as their number, whatever follows. -/
theorem field?_two (small : n < 100) (rest : List Char) :
    field? 2 (two n ++ rest) = some (n, rest) := by
  have length : (two n).length = 2 := length_paddedDigits (by decide) small
  have areDigits : ∀ c ∈ two n, c.isDigit = true := fun _ => isDigit_of_mem_paddedDigits
  have nonempty : two n ≠ [] := paddedDigits_ne_nil 2 n
  rw [field?, trimLeft_row nonempty areDigits,
    number?_append nonempty areDigits (Nat.le_of_eq length) (.inl length), two,
    ofDigitChars_paddedDigits]

/-- A separator that is no blank is found where it stands. -/
theorem after?_cons {c : Char} (solid : isBlank c = false) (rest : List Char) :
    after? c (c :: rest) = some rest := by
  rw [after?, trimLeft_cons solid]
  exact if_pos rfl

/-! ## Years -/

/-- A row of digits behind a sign. -/
theorem number?_signed {n : Nat} {c : Char} (noDigit : c.isDigit = false) (rest : List Char) :
    number? (paddedDigits 4 n ++ c :: rest).length (paddedDigits 4 n ++ c :: rest) =
      some (n, c :: rest) := by
  have ends : EndsRow (c :: rest) := by
    rintro _ ⟨⟩
    exact noDigit
  rw [number?_append (paddedDigits_ne_nil 4 n) (fun _ => isDigit_of_mem_paddedDigits)
    (by rw [List.length_append]; omega) (.inr ends), ofDigitChars_paddedDigits]

/-- A year is read up to the sign that separates it from the month. -/
theorem year?_yearChars (year : Int) {c : Char} (noDigit : c.isDigit = false) (rest : List Char) :
    year? (yearChars year ++ c :: rest) = some (year, c :: rest) := by
  unfold yearChars
  by_cases plain : 0 ≤ year ∧ year ≤ 9999
  · have areDigits : ∀ c ∈ paddedDigits 4 year.toNat, c.isDigit = true :=
      fun _ => isDigit_of_mem_paddedDigits
    have nonempty := paddedDigits_ne_nil 4 year.toNat
    have length : (paddedDigits 4 year.toNat).length = 4 :=
      length_paddedDigits (by decide) (show year.toNat < 10000 by omega)
    have starts {sign : Char} {more : List Char} (noSign : sign.isDigit = false) :
        paddedDigits 4 year.toNat ++ c :: rest ≠ sign :: more := by
      obtain ⟨first, others, same⟩ := List.exists_cons_of_ne_nil nonempty
      rw [same]
      rintro ⟨⟩
      rw [areDigits sign (same ▸ List.mem_cons_self)] at noSign
      cases noSign
    rw [if_pos plain, year?, trimLeft_row nonempty areDigits]
    split
    · rename_i same
      exact absurd same (starts rfl)
    · rename_i same
      exact absurd same (starts rfl)
    · rw [number?_append nonempty areDigits (Nat.le_of_eq length) (.inl length),
        ofDigitChars_paddedDigits, Option.map_some, Int.toNat_of_nonneg plain.1]
  · rw [if_neg plain]
    by_cases negative : year < 0
    · have value : -(year.natAbs : Int) = year := by omega
      rw [if_pos negative, List.cons_append, year?, trimLeft_cons (by decide)]
      simp only [number?_signed noDigit, Option.map_some, value]
    · have value : (year.natAbs : Int) = year := by omega
      rw [if_neg negative, List.cons_append, year?, trimLeft_cons (by decide)]
      simp only [number?_signed noDigit, Option.map_some, value]

/-! ## Parts of a second -/

/-- A fraction of a second is read as its nanoseconds. -/
theorem nanos?_row {count : Nat} {c : Char} (some : 0 < width) (width_le : width ≤ 9)
    (fits : count < 10 ^ width) (noDigit : c.isDigit = false) (rest : List Char) :
    nanos? ('.' :: paddedDigits width count ++ c :: rest) =
      .some (count * 10 ^ (9 - width), c :: rest) := by
  have length := length_paddedDigits some fits
  have ends : EndsRow (c :: rest) := by
    rintro _ ⟨⟩
    exact noDigit
  have row : (paddedDigits width count ++ c :: rest).takeWhile Char.isDigit =
      paddedDigits width count :=
    takeWhile_row (fun _ => isDigit_of_mem_paddedDigits) ends
  have filled : (paddedDigits width count).isEmpty = false := by
    simpa using paddedDigits_ne_nil width count
  have kept : (paddedDigits width count).take 9 = paddedDigits width count :=
    List.take_of_length_le (Nat.le_trans (Nat.le_of_eq length) width_le)
  have dropped : (paddedDigits width count ++ c :: rest).drop width = c :: rest :=
    List.drop_left' length
  simp only [List.cons_append, nanos?, row, filled, Bool.false_eq_true, if_false, kept, length,
    dropped, ofDigitChars_paddedDigits]
  rfl

/-- The nanoseconds of a second are read from the fewest groups of three digits that hold them. -/
theorem nanos?_fractionChars {nanos : Nat} (small : nanos < nanosPerSecond) {c : Char}
    (noDigit : c.isDigit = false) (noPoint : c ≠ '.') (rest : List Char) :
    nanos? (fractionChars nanos ++ c :: rest) = some (nanos, c :: rest) := by
  unfold fractionChars
  unfold nanosPerSecond at small
  split
  · rename_i none
    rw [none, List.nil_append, nanos?]
    rintro _ ⟨⟩
    exact noPoint rfl
  · split
    · rw [nanos?_row (by decide) (by decide) (by omega) noDigit]
      congr 2
      omega
    · split
      · rw [nanos?_row (by decide) (by decide) (by omega) noDigit]
        congr 2
        omega
      · rw [nanos?_row (by decide) (by decide) small noDigit]
        congr 2
        omega

/-! ## Whole instants -/

/-- A second of the calendar is put together from its day and its time of day. -/
theorem assemble?_ofDays {seconds : Int} {nanos : Nat} (valid : Instant.Valid seconds nanos)
    {second parts : Nat}
    (inMinute : (if second = 60 then 59 else second) = (seconds % 86400).toNat % 60)
    (same : (if second = 60 then parts + nanosPerSecond else parts) = nanos)
    (second_le : second ≤ 60) :
    assemble? (Calendar.ofDays (seconds / 86400)) ((seconds % 86400).toNat / 3600)
      ((seconds % 86400).toNat / 60 % 60) second parts 0 = some ⟨seconds, nanos, valid⟩ := by
  have first := valid.1
  have last := valid.2.1
  have clock : (seconds % 86400).toNat / 3600 * 3600 + (seconds % 86400).toNat / 60 % 60 * 60 +
      (seconds % 86400).toNat % 60 = (seconds % 86400).toNat := by omega
  have there : seconds / 86400 * 86400 + ((seconds % 86400).toNat : Int) = seconds := by omega
  have hour : (seconds % 86400).toNat / 3600 < 24 := by omega
  have minute : (seconds % 86400).toNat / 60 % 60 < 60 := by omega
  simp only [assemble?, Calendar.exists_ofDays, hour, minute, second_le, decide_true,
    Bool.and_self, if_true, inMinute, same, clock, Calendar.toDays_ofDays, there, first, last,
    and_self, Int.sub_zero]
  exact dif_pos valid

/-- The second that the text of an instant shows in its minute. -/
def shownSecond (instant : Instant) : Nat :=
  if nanosPerSecond ≤ instant.nanos then (instant.seconds % 86400).toNat % 60 + 1
  else (instant.seconds % 86400).toNat % 60

/-- The parts of the text of an instant are put together to that instant. -/
theorem assemble?_shownSecond (instant : Instant) :
    assemble? (Calendar.ofDays (instant.seconds / 86400))
      ((instant.seconds % 86400).toNat / 3600) ((instant.seconds % 86400).toNat / 60 % 60)
      (shownSecond instant) (instant.nanos % nanosPerSecond) 0 = some instant := by
  obtain ⟨seconds, nanos, valid⟩ := instant
  have part := valid.2.2
  have inMinute : (seconds % 86400).toNat % 60 < 60 := Nat.mod_lt _ (by decide)
  dsimp only [shownSecond]
  by_cases leap : nanosPerSecond ≤ nanos
  · -- Only the last second of a minute is followed by a leap second.
    have atEnd : (seconds % 86400).toNat % 60 = 59 := by
      unfold nanosPerSecond at leap
      omega
    rw [if_pos leap, atEnd]
    refine assemble?_ofDays valid (by rw [atEnd, if_pos rfl]) ?_ (Nat.le_refl 60)
    rw [if_pos rfl]
    unfold nanosPerSecond at *
    omega
  · rw [if_neg leap]
    refine assemble?_ofDays valid (if_neg (by omega)) ?_ (Nat.le_of_lt inMinute)
    rw [if_neg (by omega), Nat.mod_eq_of_lt (Nat.lt_of_not_le leap)]

/-- A text of numbers that are all in their places is put together from them. -/
theorem parse?_of_toList {text : String} {year : Int} {month day hour minute second nanos : Nat}
    (spelled : text.toList = yearChars year ++ '-' :: (two month ++ '-' :: (two day ++ 'T' ::
      (two hour ++ ':' :: (two minute ++ ':' :: (two second ++ (fractionChars nanos ++ ['Z'])))))))
    (date : month < 100 ∧ day < 100) (clock : hour < 100 ∧ minute < 100 ∧ second < 100)
    (part : nanos < nanosPerSecond) :
    parse? text = assemble? ⟨year, month, day⟩ hour minute second nanos 0 := by
  have dash (rest : List Char) : after? '-' ('-' :: rest) = some rest := after?_cons rfl rest
  have colon (rest : List Char) : after? ':' (':' :: rest) = some rest := after?_cons rfl rest
  have years (rest : List Char) : year? (yearChars year ++ '-' :: rest) = some (year, '-' :: rest) :=
    year?_yearChars year rfl rest
  have parts : nanos? (fractionChars nanos ++ ['Z']) = some (nanos, ['Z']) :=
    nanos?_fractionChars part rfl (by decide) []
  have goes {α β : Type} {first : Option α} {value : α} (rest : α → Option β)
      (found : first = some value) : first >>= rest = rest value := by rw [found]; rfl
  rw [parse?, spelled]
  refine (goes _ (years _)).trans ?_
  refine (goes _ (dash _)).trans ((goes _ (field?_two date.1 _)).trans ?_)
  refine (goes _ (dash _)).trans ((goes _ (field?_two date.2 _)).trans ?_)
  refine (goes _ rfl).trans ((goes _ (field?_two clock.1 _)).trans ?_)
  refine (goes _ (colon _)).trans ((goes _ (field?_two clock.2.1 _)).trans ?_)
  refine (goes _ (colon _)).trans ((goes _ (field?_two clock.2.2 _)).trans ?_)
  exact (goes _ parts).trans (goes _ rfl)

theorem toList_text (instant : Instant) :
    (text instant).toList =
      yearChars (Calendar.ofDays (instant.seconds / 86400)).year ++ '-' ::
        (two (Calendar.ofDays (instant.seconds / 86400)).month ++ '-' ::
          (two (Calendar.ofDays (instant.seconds / 86400)).day ++ 'T' ::
            (two ((instant.seconds % 86400).toNat / 3600) ++ ':' ::
              (two ((instant.seconds % 86400).toNat / 60 % 60) ++ ':' ::
                (two (shownSecond instant) ++
                  (fractionChars (instant.nanos % nanosPerSecond) ++ ['Z'])))))) := by
  rw [text, String.toList_ofList, dateChars, timeChars, clockChars, shownSecond]
  simp only [List.append_assoc, List.cons_append]

theorem shownSecond_lt (instant : Instant) : shownSecond instant < 100 := by
  unfold shownSecond
  split <;> omega

theorem lt_of_exists {date : Calendar.Date} (isDate : date.exists = true) :
    date.month < 100 ∧ date.day < 100 := by
  obtain ⟨_, month, _, day⟩ := Calendar.Date.exists_iff.1 isDate
  have length : Calendar.daysInMonth date.year date.month ≤ 31 := by
    unfold Calendar.daysInMonth
    grind
  omega

/-- The text of an instant spells that instant. -/
theorem parse?_text (instant : Instant) : parse? (text instant) = some instant := by
  have date := lt_of_exists (Calendar.exists_ofDays (instant.seconds / 86400))
  have hour : (instant.seconds % 86400).toNat / 3600 < 100 := by omega
  have minute : (instant.seconds % 86400).toNat / 60 % 60 < 100 := by omega
  rw [parse?_of_toList (toList_text instant) date ⟨hour, minute, shownSecond_lt instant⟩
    (Nat.mod_lt _ (by decide))]
  exact assemble?_shownSecond instant

end Gatehouse.Timestamp
