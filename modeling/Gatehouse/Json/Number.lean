import Gatehouse.Data.Word
import Gatehouse.Text.Decimal
/-!
# Numbers of JSON texts

A number without fraction and exponent that fits into 64 bits is an integer.  Every other number
is a real: the binary number of 64 bits that its digits and its power of ten give, kept by its bit
pattern.  A real is written by the fewest digits that lie closer to it than to its neighbours.
-/

namespace Gatehouse.Json

/-- A JSON number. -/
inductive Number where
  /-- A number from -2^63 up to 2^64 - 1 written as an integer. -/
  | int (value : Int)
  /-- Any other number, by the bits of its binary64 form. -/
  | real (bits : UInt64)
deriving DecidableEq, Repr, Inhabited

namespace Number

/-- The parts of a number as it is spelled. -/
structure Spelling where
  negative : Bool
  /-- The digits in front of the point. -/
  whole : List Char
  /-- The digits behind the point, if there is one. -/
  fraction : Option (List Char)
  /-- Whether the exponent is negative, and its digits. -/
  exponent : Option (Bool × List Char)

/-- Append digits to a significand as long as it stays an integer; the digits left over. -/
def appendDigits (significand : Nat) : List Char → Nat × List Char
  | [] => (significand, [])
  | c :: rest =>
      let next := significand * 10 + (c.toNat - 48)
      if next ≤ Word.greatest64 then appendDigits next rest else (significand, c :: rest)

/-- A power of ten as a binary number. -/
def power (n : Nat) : Float := Float.ofScientific 1 false n

/-- Scale by a power of ten below the range of powers, in steps that are in range. -/
def scaleDown : Nat → Float → Nat → Float
  | 0, value, _ => value
  | fuel + 1, value, n =>
      if n ≤ 308 then value / power n
      else if value == 0.0 then value
      else scaleDown fuel (value / power 308) (n - 308)

/-- The real for a significand and a power of ten; `none` when it is too large. -/
def scale? (negative : Bool) (significand : Nat) (exponent : Int) : Option Number :=
  let value := significand.toUInt64.toFloat
  let signed (x : Float) : Number := .real (if negative then -x else x).toBits
  if exponent < 0 then some (signed (scaleDown 8 value exponent.natAbs))
  else if exponent ≤ 308 then
    let scaled := value * power exponent.toNat
    if scaled.isInf then none else some (signed scaled)
  else if significand = 0 then some (signed value)
  else none

/-- The number for a spelling; `none` when it is too large to be a real. -/
def Spelling.value? (spelling : Spelling) : Option Number :=
  let (significand, left) := appendDigits 0 spelling.whole
  match spelling.fraction, spelling.exponent, left with
  | none, none, [] =>
      if !spelling.negative then some (.int significand)
      else if 0 < significand && significand ≤ Word.leastSigned.natAbs then some (.int (-(significand : Int)))
      else scale? true significand 0
  | fraction, exponent, _ =>
      let digits := fraction.getD []
      let (significand, rest) := appendDigits significand digits
      let position : Int := left.length - (digits.length - rest.length : Nat)
      match exponent with
      | none => scale? spelling.negative significand position
      | some (negativeExponent, row) =>
          let n := Nat.ofDigitChars 10 row 0
          if n ≤ 2147483647 then
            scale? spelling.negative significand
              (if negativeExponent then position - n else position + n)
          else if significand = 0 || negativeExponent then scale? spelling.negative 0 0
          else none

/-! ## The text of a real -/

/-- Compare `c · 10^s` with `x · 2^t`. -/
def compareScaled (c : Nat) (s : Int) (x : Nat) (t : Int) : Ordering :=
  compare (c * Nat.pow 10 s.toNat * Nat.pow 2 (-t).toNat)
    (x * Nat.pow 2 t.toNat * Nat.pow 10 (-s).toNat)

/-- The largest `c` with `c · 10^s ≤ x · 2^t`. -/
def floorScaled (s : Int) (x : Nat) (t : Int) : Nat :=
  (x * Nat.pow 2 t.toNat * Nat.pow 10 (-s).toNat) / (Nat.pow 10 s.toNat * Nat.pow 2 (-t).toNat)

/-- A positive binary number `m · 2^q` with the interval of the reals that round to it, in quarters
of `2^q`. -/
structure Neighbourhood where
  low : Nat
  middle : Nat
  high : Nat
  /-- Whether the ends of the interval round to the number too. -/
  closed : Bool
  scale : Int

/-- The leading bit of a significand, which is not written down. -/
def hiddenBit : Nat := 4503599627370496

/-- The neighbourhood of the number with the given bits, its sign apart. -/
def neighbourhood (bits : UInt64) : Neighbourhood :=
  let exponent := bits.toNat >>> 52 % 2048
  let fraction := bits.toNat % hiddenBit
  let m := if exponent = 0 then fraction else fraction + hiddenBit
  let q : Int := (if exponent = 0 then 1 else exponent : Nat) - 1075
  { low := 4 * m - (if fraction = 0 && 1 < exponent then 1 else 2)
    middle := 4 * m
    high := 4 * m + 2
    closed := m % 2 = 0
    scale := q - 2 }

/-- Whether `c · 10^s` rounds to the number. -/
def Neighbourhood.holds (area : Neighbourhood) (c : Nat) (s : Int) : Bool :=
  let below := compareScaled c s area.low area.scale
  let above := compareScaled c s area.high area.scale
  (below = .gt || (below = .eq && area.closed)) && (above = .lt || (above = .eq && area.closed))

/-- The number of digits in front of the point, at most zero for a number below one. -/
def magnitude (area : Neighbourhood) : Int :=
  let whole := floorScaled 0 area.middle area.scale
  if 0 < whole then (Nat.toDigits 10 whole).length
  else
    let reaches (k : Nat) : Bool := 0 < floorScaled (-(k : Int)) area.middle area.scale
    match (List.range 330).find? reaches with
    | some k => 1 - (k : Int)
    | none => 0

/-- The digits of `c` and a power of ten without zeros at their end. -/
def stripZeros : Nat → Nat → Int → Nat × Int
  | 0, c, s => (c, s)
  | fuel + 1, c, s => if c ≠ 0 && c % 10 = 0 then stripZeros fuel (c / 10) (s + 1) else (c, s)

/-- The shortest digits and power of ten that round to the number, and of several the nearest. -/
def shortest (area : Neighbourhood) : Nat × Int :=
  let p := magnitude area
  let candidates := (List.range 17).filterMap fun n =>
    let s := p - (n + 1 : Nat)
    let c := floorScaled s area.middle area.scale
    let near := compareScaled (2 * c + 1) s (2 * area.middle) area.scale
    let order := if near = .lt then [c + 1, c] else [c, c + 1]
    (order.find? fun d => area.holds d s).map fun d => (d, s)
  let (c, s) := candidates.head?.getD (0, 0)
  stripZeros 17 c s

/-- The text of a real: positional from 10^-5 up to 10^16, and with an exponent outside. -/
def realText (bits : UInt64) : List Char :=
  let sign := if bits.toNat >>> 63 = 1 then ['-'] else []
  if bits <<< 1 = 0 then sign ++ ['0', '.', '0']
  else
    let (c, k) := shortest (neighbourhood bits)
    let row := Text.digits c
    let point : Int := row.length + k
    sign ++
      (if 0 ≤ k && point ≤ 16 then row ++ List.replicate k.toNat '0' ++ ['.', '0']
      else if 0 < point && point ≤ 16 then
        row.take point.toNat ++ '.' :: row.drop point.toNat
      else if -5 < point && point ≤ 0 then
        '0' :: '.' :: List.replicate (-point).toNat '0' ++ row
      else
        let tail := match row.tail with
          | [] => []
          | more => '.' :: more
        row.take 1 ++ tail ++ 'e' :: (Text.ofInt (point - 1)).toList)

/-- The text of a number. -/
def text : Number → List Char
  | .int n => (Text.ofInt n).toList
  | .real bits => realText bits

end Number

end Gatehouse.Json
