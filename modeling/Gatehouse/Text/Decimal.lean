/-!
# Decimal numbers in texts

Writing natural numbers and integers in base ten, and reading them back.  A reader takes an
optional sign and at least one digit, leading zeros included, and refuses what is out of bounds.
-/

namespace Gatehouse.Text

/-- The decimal digits of a number. -/
def digits (n : Nat) : List Char := Nat.toDigits 10 n

/-- The decimal text of a number. -/
def ofNat (n : Nat) : String := String.ofList (digits n)

/-- The decimal text of an integer, with a minus sign when it is negative. -/
def ofInt (n : Int) : String :=
  if n < 0 then String.ofList ('-' :: digits n.natAbs) else ofNat n.natAbs

/-- The digits of a number with zeros in front, at least `width` of them in all. -/
def paddedDigits (width n : Nat) : List Char :=
  List.replicate (width - (digits n).length) '0' ++ digits n

/-- The number that a non-empty row of digits stands for. -/
def readDigits? (text : List Char) : Option Nat :=
  if !text.isEmpty && text.all Char.isDigit then some (Nat.ofDigitChars 10 text 0) else none

/-- Read a natural number up to `limit`; a plus sign in front is allowed. -/
def readNat? (limit : Nat) (text : List Char) : Option Nat :=
  let row := match text with
    | '+' :: rest => rest
    | _ => text
  (readDigits? row).filter (· ≤ limit)

/-- Read an integer between `least` and `greatest`; a sign in front is allowed. -/
def readInt? (least greatest : Int) (text : List Char) : Option Int :=
  let value := match text with
    | '-' :: rest => (readDigits? rest).map fun n => -(n : Int)
    | '+' :: rest => (readDigits? rest).map Int.ofNat
    | _ => (readDigits? text).map Int.ofNat
  value.filter fun n => least ≤ n && n ≤ greatest

end Gatehouse.Text
