import Gatehouse.Data.Utf8
import Gatehouse.Text.Lower
/-!
# Header fields

The fields at the head of a request, in order.  Names are compared without regard to case.  A value
is a row of bytes, and only values of visible characters, blanks and tabs can be read as texts.
-/

namespace Gatehouse.Http

/-- The header fields of a message: their names and values. -/
abbrev Headers := List (String × Bytes)

namespace Headers

/-- Whether two names are those of the same field. -/
def sameName (first second : String) : Bool := Text.toLowerAscii first = Text.toLowerAscii second

/-- The values of all fields with a name. -/
def all (headers : Headers) (name : String) : List Bytes :=
  (headers.filter fun field => sameName field.1 name).map Prod.snd

/-- The value of the first field with a name. -/
def get? (headers : Headers) (name : String) : Option Bytes := (headers.all name).head?

/-- Whether there is a field with a name. -/
def contains (headers : Headers) (name : String) : Bool := (headers.get? name).isSome

/-- Whether a byte may stand in a readable value. -/
def isReadable (b : UInt8) : Bool := (32 ≤ b && b < 127) || b = 9

/-- The text of a readable value. -/
def readable? (value : Bytes) : Option String :=
  if value.all isReadable then some (String.ofList (value.map fun b => Char.ofNat b.toNat))
  else none

/-- The text of the first field with a name, if it is readable. -/
def text? (headers : Headers) (name : String) : Option String :=
  (headers.get? name).bind readable?

end Headers

end Gatehouse.Http
