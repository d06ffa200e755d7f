import Gatehouse.Data.Word
import Gatehouse.Text.Decimal
import Gatehouse.Data.Hex
/-!
# Network addresses

Addresses of both versions of the internet protocol, and endpoints, which are an address with a
port.  An address of version six is written with its longest row of zero groups left out, the first
of several as long; a row of one group stays.
-/

namespace Gatehouse

/-- An internet address. -/
inductive Address where
  | v4 (bits : BitVec 32)
  | v6 (bits : BitVec 128)
deriving DecidableEq, Repr

namespace Address

/-- The address of version four with the given octets. -/
def ofOctets (a b c d : Nat) : BitVec 32 := BitVec.ofNat 32 (((a * 256 + b) * 256 + c) * 256 + d)

/-- The address that stands for an unknown client. -/
def unspecified : Address := .v4 0

instance : Inhabited Address := ⟨unspecified⟩

/-! ## An order, to keep tables by address -/

/-- The version and the bits of an address as one number. -/
def code : Address → Nat
  | .v4 bits => bits.toNat
  | .v6 bits => Word.greatest32 + 1 + bits.toNat

theorem code_injective {first second : Address} (same : first.code = second.code) :
    first = second := by
  cases first <;> cases second <;> simp only [code, Word.greatest32] at same <;>
    first
      | (congr 1; apply BitVec.eq_of_toNat_eq; omega)
      | (rename_i a b; have := a.isLt; have := b.isLt; omega)

instance : Ord Address := ⟨fun first second => compare first.code second.code⟩

theorem compare_eq (first second : Address) :
    compare first second = compare first.code second.code := rfl

instance : Std.TransOrd Address where
  eq_swap := by
    intro a b
    simpa only [compare_eq] using Std.OrientedCmp.eq_swap
  isLE_trans := by
    intro a b c
    simpa only [compare_eq] using Std.TransCmp.isLE_trans

instance : Std.LawfulEqOrd Address where
  compare_self := by intro a; exact Std.ReflCmp.compare_self
  eq_of_compare := by
    intro a b h
    exact code_injective (Std.LawfulEqCmp.eq_of_compare (by simpa only [compare_eq] using h))

/-! ## Writing -/

/-- The four octets of an address of version four. -/
def octets (bits : BitVec 32) : List Nat :=
  [bits.toNat / 16777216, bits.toNat / 65536 % 256, bits.toNat / 256 % 256, bits.toNat % 256]

/-- Texts with a separator between each two of them. -/
def joined (separator : List Char) : List (List Char) → List Char
  | [] => []
  | [text] => text
  | text :: rest => text ++ separator ++ joined separator rest

/-- The dotted form of an address of version four. -/
def dotted (bits : BitVec 32) : List Char := joined ['.'] ((octets bits).map Text.digits)

/-- The eight groups of an address of version six. -/
def groups (bits : BitVec 128) : List Nat :=
  (List.range 8).map fun i => bits.toNat >>> (16 * (7 - i)) % 65536

/-- The length of the row of zeros that a list starts with. -/
def leadingZeros (row : List Nat) : Nat := (row.takeWhile (· = 0)).length

/-- Where the longest row of zeros starts, and its length; the first of several as long. -/
def longestZeros (row : List Nat) : Nat × Nat :=
  (List.range row.length).foldl
    (fun best i =>
      let length := leadingZeros (row.drop i)
      if best.2 < length then (i, length) else best)
    (0, 0)

/-- Groups with colons between them. -/
def colons (row : List Nat) : List Char := joined [':'] (row.map (Nat.toDigits 16))

/-- The text of an address of version six. -/
def text6 (bits : BitVec 128) : List Char :=
  if bits.toNat >>> 32 = 0xFFFF then
    "::ffff:".toList ++ dotted (BitVec.ofNat 32 bits.toNat)
  else
    let row := groups bits
    let (start, length) := longestZeros row
    if 1 < length then colons (row.take start) ++ ':' :: ':' :: colons (row.drop (start + length))
    else colons row

/-- The text of an address. -/
def chars : Address → List Char
  | .v4 bits => dotted bits
  | .v6 bits => text6 bits

/-- The text of an address. -/
def text (address : Address) : String := String.ofList address.chars

/-! ## Reading -/

/-- A decimal octet without needless zeros in front, and the text after it. -/
def octet? (text : List Char) : Option (Nat × List Char) :=
  let row := text.takeWhile Char.isDigit
  let value := Nat.ofDigitChars 10 row 0
  if row.isEmpty || 3 < row.length || 255 < value || (1 < row.length && row.head? = some '0') then
    none
  else some (value, text.drop row.length)

/-- The text after a character that it has to start with. -/
def after? (c : Char) : List Char → Option (List Char)
  | d :: rest => if d = c then some rest else none
  | [] => none

/-- An address of version four, and the text after it. -/
def scan4? (text : List Char) : Option (BitVec 32 × List Char) := do
  let (a, text) ← octet? text
  let (b, text) ← octet? (← after? '.' text)
  let (c, text) ← octet? (← after? '.' text)
  let (d, text) ← octet? (← after? '.' text)
  return (ofOctets a b c d, text)

/-- A group of up to four hexadecimal digits, and the text after it. -/
def group? (text : List Char) : Option (Nat × List Char) :=
  let row := text.takeWhile Hex.isDigit
  if row.isEmpty || 4 < row.length then none
  else (Hex.number? row).map fun value => (value, text.drop row.length)

/-- Up to a number of groups with colons between them, the last two of which may be spelled as an
address of version four; whether they are, and the text after them. -/
def scanGroups : Nat → Bool → List Char → List Nat × Bool × List Char
  | 0, _, text => ([], false, text)
  | room + 1, atStart, text =>
      let rest? := if atStart then some text else after? ':' text
      match if 0 < room then rest?.bind scan4? else none with
      | some (bits, rest) => ([bits.toNat / 65536, bits.toNat % 65536], true, rest)
      | none =>
          match rest?.bind group? with
          | some (value, rest) =>
              let (row, embedded, rest) := scanGroups room false rest
              (value :: row, embedded, rest)
          | none => ([], false, text)

/-- The address with the given groups. -/
def ofGroups (row : List Nat) : BitVec 128 :=
  BitVec.ofNat 128 (row.foldl (fun total value => total * 65536 + value) 0)

/-- An address of version six, and the text after it. -/
def scan6? (text : List Char) : Option (BitVec 128 × List Char) :=
  let (head, embedded, rest) := scanGroups 8 true text
  if head.length = 8 then some (ofGroups head, rest)
  else if embedded then none
  else
    match rest with
    | ':' :: ':' :: rest =>
        let (tail, _, rest) := scanGroups (7 - head.length) true rest
        some (ofGroups (head ++ List.replicate (8 - head.length - tail.length) 0 ++ tail), rest)
    | _ => none

/-- What a reader found, if it took the whole text. -/
def whole {α : Type} : Option (α × List Char) → Option α
  | some (value, []) => some value
  | _ => none

/-- The address of version four that a text spells. -/
def parse4? (text : List Char) : Option (BitVec 32) := whole (scan4? text)

/-- The address of version six that a text spells. -/
def parse6? (text : List Char) : Option (BitVec 128) := whole (scan6? text)

/-- The address that a text spells. -/
def parse? (text : List Char) : Option Address :=
  match parse4? text with
  | some bits => some (.v4 bits)
  | none => (parse6? text).map .v6

end Address

/-- An address with a port.  An address of version six may name the interface that it is meant
for. -/
inductive Endpoint where
  | v4 (bits : BitVec 32) (port : UInt16)
  | v6 (bits : BitVec 128) (scope : UInt32) (port : UInt16)
deriving DecidableEq, Repr

namespace Endpoint

instance : Inhabited Endpoint := ⟨.v4 0 0⟩

/-- The text of an endpoint. -/
def text : Endpoint → String
  | .v4 bits port => String.ofList (Address.dotted bits ++ ':' :: Text.digits port.toNat)
  | .v6 bits scope port =>
      let zone := if scope = 0 then [] else '%' :: Text.digits scope.toNat
      String.ofList
        ('[' :: Address.text6 bits ++ zone ++ ']' :: ':' :: Text.digits port.toNat)

/-- A decimal number up to a limit, and the text after it. -/
def number? (limit : Nat) (text : List Char) : Option (Nat × List Char) :=
  let row := text.takeWhile Char.isDigit
  (Text.readDigits? row).bind fun value =>
    if value ≤ limit then some (value, text.drop row.length) else none

/-- A port after a colon, with nothing after it. -/
def port? (text : List Char) : Option UInt16 := do
  let port ← Address.whole (number? 65535 (← Address.after? ':' text))
  return UInt16.ofNat port

/-- The endpoint that a text spells. -/
def parse? (text : String) : Option Endpoint :=
  match text.toList with
  | '[' :: rest => do
      let (bits, rest) ← Address.scan6? rest
      let (scope, rest) ← match rest with
        | '%' :: rest => number? Word.greatest32 rest
        | _ => some (0, rest)
      let rest ← Address.after? ']' rest
      return .v6 bits (UInt32.ofNat scope) (← port? rest)
  | chars => do
      let (bits, rest) ← Address.scan4? chars
      return .v4 bits (← port? rest)

end Endpoint

end Gatehouse
