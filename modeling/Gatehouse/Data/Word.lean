/-!
# Numbers that fit into words

The bounds of the numbers that 32 and 64 bits can hold.
-/

namespace Gatehouse.Word

/-- The greatest number of 32 bits. -/
def greatest32 : Nat := 4294967295

/-- The greatest number of 64 bits. -/
def greatest64 : Nat := 18446744073709551615

/-- The greatest number of 64 bits with a sign. -/
def greatestSigned : Int := 9223372036854775807

/-- The least number of 64 bits with a sign. -/
def leastSigned : Int := -9223372036854775808

theorem greatest32_succ : greatest32 + 1 = UInt32.size := rfl

theorem greatest64_succ : greatest64 + 1 = UInt64.size := rfl

theorem greatestSigned_eq : greatestSigned = Int64.maxValue.toInt := by decide

theorem leastSigned_eq : leastSigned = Int64.minValue.toInt := by decide

end Gatehouse.Word
