import Gatehouse.Data.Hex
/-!
# Universally unique identifiers

An identifier is sixteen bytes, written as groups of hexadecimal digits with hyphens between them.
It can also be read without hyphens, in braces, or as a name in the `urn` scheme, whose letter case
does not matter.
-/

namespace Gatehouse

/-- An identifier of sixteen bytes. -/
structure Uuid where
  bytes : Bytes
  length_eq : bytes.length = 16
deriving DecidableEq

namespace Uuid

/-- The identifier with the given bytes. -/
def ofBytes? (bytes : Bytes) : Option Uuid :=
  if h : bytes.length = 16 then some ⟨bytes, h⟩ else none

/-- The identifier of the fourth version whose free bits are those of a number. -/
def random (seed : Nat) : Uuid where
  bytes := (List.range 16).map fun i =>
    let b := seed >>> (8 * i) % 256
    UInt8.ofNat (if i = 6 then 0x40 + b % 16 else if i = 8 then 0x80 + b % 64 else b)
  length_eq := by simp

/-- The version of an identifier. -/
def version (id : Uuid) : Nat := (id.bytes.getD 6 0).toNat / 16

/-- The lengths of the groups, in digits. -/
def groupLengths : List Nat := [8, 4, 4, 4, 12]

/-- Digits in groups of the given lengths, with hyphens between them. -/
def hyphenate : List Nat → List Char → List Char
  | [], _ => []
  | [length], digits => digits.take length
  | length :: more, digits =>
      digits.take length ++ '-' :: hyphenate more (digits.drop length)

/-- The digits of groups of the given lengths. -/
def ungroup? : List Nat → List Char → Option (List Char)
  | [], text => if text.isEmpty then some [] else none
  | [length], text => if text.length = length then some text else none
  | length :: more, text =>
      match text.drop length with
      | '-' :: rest => (ungroup? more rest).map (text.take length ++ ·)
      | _ => none

/-- The written form, in lower case. -/
def text (id : Uuid) : String :=
  String.ofList (hyphenate groupLengths (Hex.ofBytes id.bytes))

/-- The identifier of some digits. -/
def ofDigits? (digits : List Char) : Option Uuid := (Hex.bytes? digits).bind ofBytes?

/-- The identifier of a text with hyphens. -/
def ofGroups? (text : List Char) : Option Uuid := (ungroup? groupLengths text).bind ofDigits?

/-- The text between a start and an end. -/
def between? (start finish text : List Char) : Option (List Char) :=
  if start.isPrefixOf text && finish.isSuffixOf text &&
      start.length + finish.length ≤ text.length then
    some ((text.drop start.length).take (text.length - start.length - finish.length))
  else none

/-- The identifier that a text spells. -/
def parse? (text : String) : Option Uuid :=
  let chars := text.toList
  if chars.length = 32 then ofDigits? chars
  else if chars.length = 36 then ofGroups? chars
  else if chars.length = 38 then (between? ['{'] ['}'] chars).bind ofGroups?
  else if chars.length = 45 then
    (between? "urn:uuid:".toList [] (chars.map Char.toLower)).bind ofGroups?
  else none

end Uuid

end Gatehouse
