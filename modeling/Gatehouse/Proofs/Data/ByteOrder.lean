import Gatehouse.Proofs.Data.Utf8
import Mathlib.Data.String.Basic
/-!
# The order of bytes

Texts are ordered by their characters, and rows of bytes by their bytes.  The bytes of texts are
ordered as the texts are, and they begin with the bytes of a text exactly if the texts begin with
it.  A character is spelled by a byte that leads it, from which its length can be told, and by six
bits of its number in each byte after that.  A longer spelling has the greater lead, and among
spellings of one length the first byte that differs decides.
-/

namespace Gatehouse.Utf8

/-! ## Spellings of characters -/

/-- How many bytes of a character follow its lead. -/
def more (n : Nat) : Nat :=
  if n < 0x80 then 0 else if n < 0x800 then 1 else if n < 0x10000 then 2 else 3

/-- What the lead of a character carries, besides the high bits of its number, to tell how many
bytes follow. -/
def mark (n : Nat) : Nat :=
  if n < 0x80 then 0 else if n < 0x800 then 0xC0 else if n < 0x10000 then 0xE0 else 0xF0

/-- The lead of a character. -/
def lead (n : Nat) : Nat := n / 64 ^ more n + mark n

/-- The last bytes of a spelling, six bits of the number in each. -/
def trail : Nat → Nat → Bytes
  | 0, _ => []
  | count + 1, n => UInt8.ofNat (n / 64 ^ count % 64 + 0x80) :: trail count n

/-- There are no characters beyond the last one. -/
theorem toNat_lt (c : Char) : c.toNat < 0x110000 := by
  rcases c.valid with low | ⟨_, high⟩
  · exact Nat.lt_trans low (by decide)
  · exact high

/-- A character is spelled by its lead and its trail. -/
theorem utf8EncodeChar_eq_lead (c : Char) :
    String.utf8EncodeChar c = UInt8.ofNat (lead c.toNat) :: trail (more c.toNat) c.toNat := by
  have bound := toNat_lt c
  rw [utf8EncodeChar_eq]
  by_cases one : c.toNat < 0x80
  · simp [lead, more, mark, trail, one, Nat.le_of_lt_succ one]
  · by_cases two : c.toNat < 0x800
    · rw [if_neg (by omega), if_pos (Nat.le_of_lt_succ two), Nat.mod_eq_of_lt (by omega)]
      simp [lead, more, mark, trail, one, two]
    · by_cases three : c.toNat < 0x10000
      · rw [if_neg (by omega), if_neg (by omega), if_pos (Nat.le_of_lt_succ three),
          Nat.mod_eq_of_lt (a := c.toNat / 4096) (by omega)]
        simp [lead, more, mark, trail, one, two, three]
      · rw [if_neg (by omega), if_neg (by omega), if_neg (by omega),
          Nat.mod_eq_of_lt (a := c.toNat / 262144) (by omega)]
        simp [lead, more, mark, trail, one, two, three]

theorem lead_lt {n : Nat} (bound : n < 0x110000) : lead n < 256 := by
  unfold lead more mark
  split
  · omega
  · split
    · omega
    · split <;> omega

/-- The lead of a greater character is greater, or it is the same, and then as many bytes follow and
the bits in them decide. -/
theorem lead_lt_lead {n m : Nat} (below : n < m) (bound : m < 0x110000) :
    lead n < lead m ∨
      lead n = lead m ∧ more n = more m ∧ n % 64 ^ more m < m % 64 ^ more m := by
  unfold lead more mark
  split_ifs <;> omega

/-- Bytes are ordered as the numbers that they are made from. -/
theorem byte_lt_byte {n m : Nat} (below : n < m) (bound : m < 256) :
    UInt8.ofNat n < UInt8.ofNat m := by
  rw [UInt8.lt_iff_toNat_lt, toNat_byte (Nat.lt_trans below bound), toNat_byte bound]
  exact below

/-- Trails of one length are ordered by the bits that they carry, whatever follows. -/
theorem trail_append_lt {count n m : Nat} (below : n % 64 ^ count < m % 64 ^ count)
    (rest others : Bytes) : trail count n ++ rest < trail count m ++ others := by
  induction count with
  | zero => simp [Nat.mod_one] at below
  | succ count ih =>
      rw [Nat.pow_succ, Nat.mod_mul, Nat.mod_mul] at below
      rw [trail, trail, List.cons_append, List.cons_append, List.cons_lt_cons_iff]
      have high := Nat.mod_lt (m / 64 ^ count) (show 0 < 64 by decide)
      have compared := Nat.lt_trichotomy (n / 64 ^ count % 64) (m / 64 ^ count % 64)
      rcases compared with less | same | greater
      · exact .inl (byte_lt_byte (Nat.add_lt_add_right less _) (by omega))
      · rw [same] at below ⊢
        exact .inr ⟨rfl, ih (Nat.lt_of_add_lt_add_right below)⟩
      · -- The low bits of `m` are not enough to make up for a high digit.
        have low := Nat.mod_lt m (Nat.pow_pos (n := count) (show 0 < 64 by decide))
        have step := Nat.mul_le_mul_left (64 ^ count) greater
        rw [Nat.succ_eq_add_one, Nat.mul_add] at step
        omega

/-- The bytes of a greater character are greater, whatever follows. -/
theorem utf8EncodeChar_append_lt {c d : Char} (below : c < d) (rest others : Bytes) :
    String.utf8EncodeChar c ++ rest < String.utf8EncodeChar d ++ others := by
  have bound := toNat_lt d
  rw [utf8EncodeChar_eq_lead, utf8EncodeChar_eq_lead, List.cons_append, List.cons_append,
    List.cons_lt_cons_iff]
  have numbers : c.toNat < d.toNat := UInt32.lt_iff_toNat_lt.1 below
  rcases lead_lt_lead numbers bound with less | ⟨same, count, less⟩
  · exact .inl (byte_lt_byte less (lead_lt bound))
  · refine .inr ⟨congrArg UInt8.ofNat same, ?_⟩
    rw [count]
    exact trail_append_lt less rest others

/-! ## Texts -/

variable {first second start text : String}

theorem encode_lt_encode (below : first < second) : encode first < encode second := by
  have chars (left right : List Char) (below : left < right) :
      left.flatMap String.utf8EncodeChar < right.flatMap String.utf8EncodeChar := by
    induction below with
    | @nil c rest =>
        rw [List.flatMap_nil, List.flatMap_cons, utf8EncodeChar_eq_lead]
        exact List.nil_lt_cons _ _
    | rel less => exact utf8EncodeChar_append_lt less _ _
    | cons _ ih => exact List.append_left_lt ih
  exact chars _ _ (String.lt_iff_toList_lt.1 below)

/-- The bytes of texts are ordered as the texts are. -/
theorem encode_lt_encode_iff : encode first < encode second ↔ first < second := by
  constructor
  · intro below
    rcases lt_trichotomy first second with less | rfl | greater
    · exact less
    · exact absurd below (List.lt_irrefl _)
    · exact absurd below (List.lt_asymm (encode_lt_encode greater))
  · exact encode_lt_encode

/-- The bytes of a text begin with those of another one exactly if the text begins with it. -/
theorem encode_isPrefix_iff : encode start <+: encode text ↔ start.toList <+: text.toList := by
  constructor
  · rintro ⟨rest, same⟩
    have begins : start.toList.map some <+: text.toList.map some := by
      rw [← decode_encode text, ← same, decode_encode_append]
      exact List.prefix_append _ _
    exact (List.prefix_map_iff_of_injective fun _ _ => Option.some.inj).1 begins
  · rintro ⟨rest, same⟩
    rw [encode, encode, ← same, List.flatMap_append]
    exact List.prefix_append _ _

end Gatehouse.Utf8
