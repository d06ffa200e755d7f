import Gatehouse.Text.Blank
import Gatehouse.Data.Hex
/-!
# Names that users give

Checks and normal forms for what users enter: the names of accounts and roles, free labels, and
hardware addresses.
-/

namespace Gatehouse.Text

/-- A letter or digit of the ASCII set. -/
def isPlain (c : Char) : Bool := c.isAlphanum

/-- What a label may hold. -/
def isLabelChar (c : Char) : Bool :=
  isPlain c || c = ' ' || c = '-' || c = '_' || c = '.' || c = ':' || c = '@'

/-- The largest number of characters in a label. -/
def labelLength : Nat := 64

/-- A free label without the characters that do not belong into one, cut to length. -/
def sanitizeLabel (input : String) : String :=
  String.ofList ((input.toList.filter isLabelChar).take labelLength)

/-! ## Account names -/

/-- What an account name may hold. -/
def isNameChar (c : Char) : Bool := isPlain c || c = '.' || c = '-' || c = '_'

/-- Why a text is no account name. -/
inductive NameError where
  | missing
  | tooLong
  | badStart
  | badCharacter
deriving DecidableEq, Repr

/-- The text of such a reason. -/
def NameError.message : NameError → String
  | .missing => "Username is required"
  | .tooLong => "Username too long (max 32 characters)"
  | .badStart => "Username must start with a letter or digit"
  | .badCharacter => "Username contains invalid characters"

/-- The largest number of bytes in an account name. -/
def nameLength : Nat := 32

/-- The account name that a user entered, without the blanks around it. -/
def accountName (input : String) : Except NameError String :=
  let name := trim input
  if name.isEmpty then .error .missing
  else if nameLength < name.utf8ByteSize then .error .tooLong
  else if !(name.toList.head?.any isPlain) then .error .badStart
  else if !(name.toList.all isNameChar) then .error .badCharacter
  else .ok name

/-! ## Hardware addresses -/

/-- Pairs of characters with colons between them. -/
def colonPairs : List Char → List Char
  | a :: b :: c :: rest => a :: b :: ':' :: colonPairs (c :: rest)
  | rest => rest

/-- The normal form of a hardware address: six lower-case pairs with colons.  Colons and hyphens may
stand anywhere in the input. -/
def hardwareAddress? (input : String) : Option String :=
  let row := (trim input).toList.filter fun c => c ≠ ':' && c ≠ '-'
  if row.length = 12 && row.all Hex.isDigit then
    some (String.ofList (colonPairs (row.map Char.toLower)))
  else none

/-- What is said about an input that is no hardware address. -/
def badHardwareAddress (input : String) : String := "Invalid MAC address '" ++ input ++ "'"

end Gatehouse.Text
