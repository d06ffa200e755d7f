import Gatehouse.Data.Utf8
/-!
# Hexadecimal digits
-/

namespace Gatehouse.Hex

/-- The value of a hexadecimal digit, of either letter case. -/
def value? (c : Char) : Option Nat :=
  let n := c.toNat
  if 48 ≤ n && n ≤ 57 then some (n - 48)
  else if 97 ≤ n && n ≤ 102 then some (n - 87)
  else if 65 ≤ n && n ≤ 70 then some (n - 55)
  else none

/-- Whether a character is a hexadecimal digit. -/
def isDigit (c : Char) : Bool := (value? c).isSome

/-- The hexadecimal digit for a value below sixteen, in lower case. -/
def digit (n : Nat) : Char := Nat.digitChar n

/-- The two digits of a byte. -/
def ofByte (b : UInt8) : List Char := [digit (b.toNat / 16), digit (b.toNat % 16)]

/-- The digits of some bytes, two for each. -/
def ofBytes (bytes : Bytes) : List Char := bytes.flatMap ofByte

/-- The bytes whose digits a text holds, two for each. -/
def bytes? : List Char → Option Bytes
  | [] => some []
  | [_] => none
  | high :: low :: rest => do
      let h ← value? high
      let l ← value? low
      return UInt8.ofNat (h * 16 + l) :: (← bytes? rest)

/-- The number that a row of hexadecimal digits stands for. -/
def number? (text : List Char) : Option Nat :=
  text.foldl (fun total c => do return (← total) * 16 + (← value? c)) (some 0)

end Gatehouse.Hex
