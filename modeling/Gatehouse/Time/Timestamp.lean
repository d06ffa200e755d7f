import Gatehouse.Time.Instant
import Gatehouse.Time.Calendar
import Gatehouse.Text.Blank
/-!
# Instants in texts

An instant is written as date, `T`, time of day and `Z`, with the fewest of no, three, six or nine
digits for the part of a second.  A leap second is second sixty.  The reader takes more: blanks in
front and before each number but the part of a second, a blank in place of `T`, shorter numbers,
more digits, and another offset than `Z`.
-/

namespace Gatehouse.Timestamp

/-! ## Writing -/

/-- Two digits. -/
def two (n : Nat) : List Char := Text.paddedDigits 2 n

/-- A year: four digits, and a sign when four digits without one do not do. -/
def yearChars (year : Int) : List Char :=
  if 0 ≤ year ∧ year ≤ 9999 then Text.paddedDigits 4 year.toNat
  else (if year < 0 then '-' else '+') :: Text.paddedDigits 4 year.natAbs

/-- The part of a second. -/
def fractionChars (nanos : Nat) : List Char :=
  if nanos = 0 then []
  else if nanos % 1000000 = 0 then '.' :: Text.paddedDigits 3 (nanos / 1000000)
  else if nanos % 1000 = 0 then '.' :: Text.paddedDigits 6 (nanos / 1000)
  else '.' :: Text.paddedDigits 9 nanos

/-- The date of an instant. -/
def dateChars (instant : Instant) : List Char :=
  let date := Calendar.ofDays (instant.seconds / 86400)
  yearChars date.year ++ '-' :: two date.month ++ '-' :: two date.day

/-- The time of day of an instant, up to the second. -/
def clockChars (instant : Instant) : List Char :=
  let second := (instant.seconds % 86400).toNat
  let leap := nanosPerSecond ≤ instant.nanos
  two (second / 3600) ++ ':' :: two (second / 60 % 60) ++
    ':' :: two (if leap then second % 60 + 1 else second % 60)

/-- The time of day of an instant. -/
def timeChars (instant : Instant) : List Char :=
  clockChars instant ++ fractionChars (instant.nanos % nanosPerSecond)

/-- The text of an instant in records. -/
def text (instant : Instant) : String :=
  String.ofList (dateChars instant ++ 'T' :: timeChars instant ++ ['Z'])

/-- The text of an instant in messages. -/
def plainText (instant : Instant) : String :=
  String.ofList (dateChars instant ++ ' ' :: timeChars instant) ++ " UTC"

/-! ## Reading -/

/-- A number of one to `width` digits at the start of a text, and the text after it. -/
def number? (width : Nat) (text : List Char) : Option (Nat × List Char) :=
  let row := (text.take width).takeWhile Char.isDigit
  if row.isEmpty then none else some (Nat.ofDigitChars 10 row 0, text.drop row.length)

/-- A number after blanks. -/
def field? (width : Nat) (text : List Char) : Option (Nat × List Char) :=
  number? width (Text.trimLeft text)

/-- A year after blanks: up to four digits, or any number of them after a sign. -/
def year? (text : List Char) : Option (Int × List Char) :=
  match Text.trimLeft text with
  | '-' :: rest => (number? rest.length rest).map fun found => (-(found.1 : Int), found.2)
  | '+' :: rest => (number? rest.length rest).map fun found => ((found.1 : Int), found.2)
  | text => (number? 4 text).map fun found => ((found.1 : Int), found.2)

/-- The text after a separator, which may follow blanks. -/
def after? (separator : Char) (text : List Char) : Option (List Char) :=
  match Text.trimLeft text with
  | c :: rest => if c = separator then some rest else none
  | [] => none

/-- The nanoseconds of a fraction, if the text starts with one; digits after the ninth are
dropped. -/
def nanos? : List Char → Option (Nat × List Char)
  | '.' :: rest =>
      let row := rest.takeWhile Char.isDigit
      if row.isEmpty then none
      else
        let kept := row.take 9
        some (Nat.ofDigitChars 10 kept 0 * Nat.pow 10 (9 - kept.length), rest.drop row.length)
  | text => some (0, text)

/-- The value of a digit. -/
def digit? (c : Char) : Option Nat := if c.isDigit then some (c.toNat - 48) else none

/-- An offset from the world's time, in seconds, and the text after it. -/
def offset? (text : List Char) : Option (Int × List Char) :=
  match text with
  | 'Z' :: rest => some (0, rest)
  | 'z' :: rest => some (0, rest)
  | sign :: a :: b :: rest => do
      let negative ←
        if sign = '+' then some false
        else if sign = '-' || sign = '−' then some true
        else none
      let hours := (← digit? a) * 10 + (← digit? b)
      match rest.dropWhile fun c => c = ':' || Text.isBlank c with
      | c :: d :: rest =>
          let tens ← (digit? c).filter (· < 6)
          let seconds : Int := (hours * 3600 + (tens * 10 + (← digit? d)) * 60 : Nat)
          if seconds < 86400 then return (if negative then -seconds else seconds, rest) else none
      | _ => none
  | _ => none

/-- An offset after blanks, which may also be `UTC` in any letter case. -/
def zone? (text : List Char) : Option (Int × List Char) :=
  let text := Text.trimLeft text
  if (text.take 3).map Char.toUpper = ['U', 'T', 'C'] then some (0, text.drop 3) else offset? text

/-- The instant of a date, a time of day and an offset. -/
def assemble? (date : Calendar.Date) (hour minute second nanos : Nat) (offset : Int) :
    Option Instant :=
  if date.exists && hour < 24 && minute < 60 && second ≤ 60 then
    let inMinute := if second = 60 then 59 else second
    let there : Int := Calendar.toDays date * 86400 + (hour * 3600 + minute * 60 + inMinute : Nat)
    if Instant.firstSecond ≤ there ∧ there ≤ Instant.lastSecond then
      Instant.ofParts? (there - offset) (if second = 60 then nanos + nanosPerSecond else nanos)
    else none
  else none

/-- The instant that a text spells. -/
def parse? (text : String) : Option Instant := do
  let (year, rest) ← year? text.toList
  let rest ← after? '-' rest
  let (month, rest) ← field? 2 rest
  let rest ← after? '-' rest
  let (day, rest) ← field? 2 rest
  let rest ← match rest with
    | 'T' :: rest => some rest
    | 't' :: rest => some rest
    | ' ' :: rest => some rest
    | _ => none
  let (hour, rest) ← field? 2 rest
  let rest ← after? ':' rest
  let (minute, rest) ← field? 2 rest
  let rest ← after? ':' rest
  let (second, rest) ← field? 2 rest
  let (nanos, rest) ← nanos? rest
  let (offset, rest) ← zone? rest
  if (Text.trimLeft rest).isEmpty then
    assemble? ⟨year, month, day⟩ hour minute second nanos offset
  else none

end Gatehouse.Timestamp
