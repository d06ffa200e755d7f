import Gatehouse.Net.Address
import Gatehouse.Text.Blank
/-!
# Networks

A network is an address and the number of leading bits that its members share with it.  The address
is kept as it was given, host bits included.
-/

namespace Gatehouse

/-- A network of either version. -/
inductive Network where
  | v4 (bits : BitVec 32) (length : Nat) (length_le : length ≤ 32)
  | v6 (bits : BitVec 128) (length : Nat) (length_le : length ≤ 128)
deriving DecidableEq

namespace Network

/-- Whether an address belongs to a network. -/
def contains : Network → Address → Bool
  | .v4 bits length _, .v4 other => bits >>> (32 - length) = other >>> (32 - length)
  | .v6 bits length _, .v6 other => bits >>> (128 - length) = other >>> (128 - length)
  | _, _ => false

/-- The text of a network: its address and the number of bits. -/
def text : Network → String
  | .v4 bits length _ => String.ofList (Address.dotted bits ++ '/' :: Text.digits length)
  | .v6 bits length _ => String.ofList (Address.text6 bits ++ '/' :: Text.digits length)

/-- The number of leading ones of a mask whose other bits are zeros. -/
def maskLength? (mask : BitVec 32) : Option Nat :=
  (List.range 33).find? fun length => mask = BitVec.allOnes 32 <<< (32 - length)

/-- The number of bits of a network of version four, given as a number or as a mask. -/
def length4? : Option (List Char) → Option Nat
  | none => some 32
  | some text =>
      match Address.parse4? text with
      | some mask => maskLength? mask
      | none => Text.readNat? 255 text

/-- The number of bits of a network of version six. -/
def length6? : Option (List Char) → Option Nat
  | none => some 128
  | some text => Text.readNat? 255 text

/-- The network that a text spells. -/
def parse? (text : String) : Option Network :=
  let (address, length) := match Text.cut? '/' text.toList with
    | some (address, length) => (address, some length)
    | none => (text.toList, none)
  match Address.parse4? address with
  | some bits => do
      let n ← length4? length
      if length_le : n ≤ 32 then some (.v4 bits n length_le) else none
  | none => do
      let bits ← Address.parse6? address
      let n ← length6? length
      if length_le : n ≤ 128 then some (.v6 bits n length_le) else none

end Network

end Gatehouse
