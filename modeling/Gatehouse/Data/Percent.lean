import Gatehouse.Data.Hex
/-!
# Percent encoding

In texts of the web a percent sign and two hexadecimal digits stand for a byte.  A percent sign
without them stands for itself.
-/

namespace Gatehouse.Percent

/-- The value of a byte that is a hexadecimal digit. -/
def digit? (b : UInt8) : Option Nat := Hex.value? (Char.ofNat b.toNat)

/-- The bytes that an encoded text stands for. -/
def decode : Bytes → Bytes
  | 37 :: high :: low :: rest =>
      match digit? high, digit? low with
      | some h, some l => UInt8.ofNat (16 * h + l) :: decode rest
      | _, _ => 37 :: decode (high :: low :: rest)
  | b :: rest => b :: decode rest
  | [] => []

/-- The text that an encoded text stands for, if it is one. -/
def decodeText? (text : String) : Option String := Utf8.text? (decode (Utf8.encode text))

end Gatehouse.Percent
