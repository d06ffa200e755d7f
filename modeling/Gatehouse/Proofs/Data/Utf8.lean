import Gatehouse.Data.Utf8
/-!
# Reading back UTF-8

Decoding the bytes of a text gives its characters, whatever text it is.  The four lengths of a
character are four lemmas about the bytes that spell it; the exceptional ranges of a second byte
keep apart overlong spellings and surrogates, which no character has.
-/

namespace Gatehouse.Utf8

/-- The value of a byte made from a small number. -/
theorem toNat_byte {n : Nat} (small : n < 256) : (UInt8.ofNat n).toNat = n :=
  UInt8.toNat_ofNat_of_lt' small

theorem byte_eq_iff {n : Nat} (small : n < 256) (b : UInt8) : UInt8.ofNat n = b ↔ n = b.toNat := by
  rw [← UInt8.toNat_inj, toNat_byte small]

/-- Whether a byte lies in a range is a matter of its value. -/
theorem within_byte {low high n : Nat} (small : n < 256) :
    within low high (UInt8.ofNat n) = (decide (low ≤ n) && decide (n ≤ high)) := by
  rw [within, toNat_byte small]

/-- A byte with the mark of a continuation carries its six low bits. -/
theorem tail_byte {n : Nat} (small : n < 64) :
    isTail (UInt8.ofNat (n + 0x80)) = true ∧ tail (UInt8.ofNat (n + 0x80)) = n := by
  constructor
  · rw [isTail, within_byte (by omega)]
    simp only [Bool.and_eq_true, decide_eq_true_eq]
    omega
  · have value := toNat_byte (n := n + 0x80) (by omega)
    unfold tail
    omega

/-! ## The four lengths -/

theorem first_one {n : Nat} (small : n < 0x80) (rest : Bytes) :
    first (UInt8.ofNat n) rest = (some (Char.ofNat n), 0) := by
  have below : UInt8.ofNat n < 0x80 := by
    rw [UInt8.lt_iff_toNat_lt, toNat_byte (by omega)]
    exact small
  rw [first.eq_def, if_pos below, toNat_byte (by omega)]

theorem not_lt_0x80 {n : Nat} (small : n < 256) (large : 0x80 ≤ n) :
    ¬ UInt8.ofNat n < 0x80 := by
  rw [UInt8.lt_iff_toNat_lt, toNat_byte small]
  exact Nat.not_lt.mpr large

theorem first_two {n : Nat} (large : 0x80 ≤ n) (small : n < 0x800) (rest : Bytes) :
    first (UInt8.ofNat (n / 64 + 0xC0)) (UInt8.ofNat (n % 64 + 0x80) :: rest) =
      (some (Char.ofNat n), 1) := by
  obtain ⟨isTail, value⟩ := tail_byte (n := n % 64) (by omega)
  have inRange : within 0xC2 0xDF (UInt8.ofNat (n / 64 + 0xC0)) = true := by
    rw [within_byte (by omega)]
    simp only [Bool.and_eq_true, decide_eq_true_eq]
    omega
  rw [first.eq_def, if_neg (not_lt_0x80 (by omega) (by omega)), if_pos inRange]
  simp only [isTail, if_true, value, toNat_byte (n := n / 64 + 0xC0) (by omega)]
  rw [show (n / 64 + 0xC0 - 0xC0) * 64 + n % 64 = n by omega]

/-- The second byte of a character of three bytes lies in its range, because the character is
neither below `0x800` nor a surrogate. -/
theorem within_second3 {n : Nat} (large : 0x800 ≤ n) (small : n < 0x10000)
    (scalar : n < 0xD800 ∨ 0xDFFF < n) :
    within (second3 (UInt8.ofNat (n / 4096 + 0xE0))).1 (second3 (UInt8.ofNat (n / 4096 + 0xE0))).2
      (UInt8.ofNat (n / 64 % 64 + 0x80)) = true := by
  have lead := byte_eq_iff (n := n / 4096 + 0xE0) (by omega)
  unfold second3
  by_cases atE0 : n / 4096 + 0xE0 = 0xE0
  · rw [if_pos ((lead 0xE0).mpr atE0), within_byte (by omega)]
    simp only [Bool.and_eq_true, decide_eq_true_eq]
    omega
  · rw [if_neg (mt (lead 0xE0).mp atE0)]
    by_cases atED : n / 4096 + 0xE0 = 0xED
    · rw [if_pos ((lead 0xED).mpr atED), within_byte (by omega)]
      simp only [Bool.and_eq_true, decide_eq_true_eq]
      omega
    · rw [if_neg (mt (lead 0xED).mp atED), within_byte (by omega)]
      simp only [Bool.and_eq_true, decide_eq_true_eq]
      omega

theorem first_three {n : Nat} (large : 0x800 ≤ n) (small : n < 0x10000)
    (scalar : n < 0xD800 ∨ 0xDFFF < n) (rest : Bytes) :
    first (UInt8.ofNat (n / 4096 + 0xE0))
        (UInt8.ofNat (n / 64 % 64 + 0x80) :: UInt8.ofNat (n % 64 + 0x80) :: rest) =
      (some (Char.ofNat n), 2) := by
  obtain ⟨_, middle⟩ := tail_byte (n := n / 64 % 64) (by omega)
  obtain ⟨isTail, low⟩ := tail_byte (n := n % 64) (by omega)
  have notTwo : ¬ within 0xC2 0xDF (UInt8.ofNat (n / 4096 + 0xE0)) = true := by
    rw [within_byte (by omega)]
    simp only [Bool.and_eq_true, decide_eq_true_eq]
    omega
  have inRange : within 0xE0 0xEF (UInt8.ofNat (n / 4096 + 0xE0)) = true := by
    rw [within_byte (by omega)]
    simp only [Bool.and_eq_true, decide_eq_true_eq]
    omega
  rw [first.eq_def, if_neg (not_lt_0x80 (by omega) (by omega)), if_neg notTwo, if_pos inRange]
  simp only [within_second3 large small scalar, isTail, if_true, middle, low,
    toNat_byte (n := n / 4096 + 0xE0) (by omega)]
  rw [show (n / 4096 + 0xE0 - 0xE0) * 4096 + n / 64 % 64 * 64 + n % 64 = n by omega]

/-- The second byte of a character of four bytes lies in its range, because characters run from
`0x10000` to `0x10FFFF` there. -/
theorem within_second4 {n : Nat} (large : 0x10000 ≤ n) (small : n < 0x110000) :
    within (second4 (UInt8.ofNat (n / 262144 + 0xF0))).1
      (second4 (UInt8.ofNat (n / 262144 + 0xF0))).2
      (UInt8.ofNat (n / 4096 % 64 + 0x80)) = true := by
  have lead := byte_eq_iff (n := n / 262144 + 0xF0) (by omega)
  unfold second4
  by_cases atF0 : n / 262144 + 0xF0 = 0xF0
  · rw [if_pos ((lead 0xF0).mpr atF0), within_byte (by omega)]
    simp only [Bool.and_eq_true, decide_eq_true_eq]
    omega
  · rw [if_neg (mt (lead 0xF0).mp atF0)]
    by_cases atF4 : n / 262144 + 0xF0 = 0xF4
    · rw [if_pos ((lead 0xF4).mpr atF4), within_byte (by omega)]
      simp only [Bool.and_eq_true, decide_eq_true_eq]
      omega
    · rw [if_neg (mt (lead 0xF4).mp atF4), within_byte (by omega)]
      simp only [Bool.and_eq_true, decide_eq_true_eq]
      omega

theorem first_four {n : Nat} (large : 0x10000 ≤ n) (small : n < 0x110000) (rest : Bytes) :
    first (UInt8.ofNat (n / 262144 + 0xF0))
        (UInt8.ofNat (n / 4096 % 64 + 0x80) :: UInt8.ofNat (n / 64 % 64 + 0x80) ::
          UInt8.ofNat (n % 64 + 0x80) :: rest) =
      (some (Char.ofNat n), 3) := by
  obtain ⟨_, high⟩ := tail_byte (n := n / 4096 % 64) (by omega)
  obtain ⟨middleTail, middle⟩ := tail_byte (n := n / 64 % 64) (by omega)
  obtain ⟨lowTail, low⟩ := tail_byte (n := n % 64) (by omega)
  have apart (lowest highest : Nat) (below : highest < 0xF0) :
      ¬ within lowest highest (UInt8.ofNat (n / 262144 + 0xF0)) = true := by
    rw [within_byte (by omega)]
    simp only [Bool.and_eq_true, decide_eq_true_eq]
    omega
  have inRange : within 0xF0 0xF4 (UInt8.ofNat (n / 262144 + 0xF0)) = true := by
    rw [within_byte (by omega)]
    simp only [Bool.and_eq_true, decide_eq_true_eq]
    omega
  rw [first.eq_def, if_neg (not_lt_0x80 (by omega) (by omega)), if_neg (apart _ _ (by omega)),
    if_neg (apart _ _ (by omega)), if_pos inRange]
  simp only [within_second4 large small, middleTail, lowTail, if_true, high, middle, low,
    toNat_byte (n := n / 262144 + 0xF0) (by omega)]
  rw [show (n / 262144 + 0xF0 - 0xF0) * 262144 + n / 4096 % 64 * 4096 + n / 64 % 64 * 64 +
    n % 64 = n by omega]

/-! ## Texts -/

/-- The bytes of a character, spelled out over its number. -/
theorem utf8EncodeChar_eq (c : Char) :
    String.utf8EncodeChar c =
      if c.toNat ≤ 0x7F then [UInt8.ofNat c.toNat]
      else if c.toNat ≤ 0x7FF then
        [UInt8.ofNat (c.toNat / 64 % 32 + 0xC0), UInt8.ofNat (c.toNat % 64 + 0x80)]
      else if c.toNat ≤ 0xFFFF then
        [UInt8.ofNat (c.toNat / 4096 % 16 + 0xE0), UInt8.ofNat (c.toNat / 64 % 64 + 0x80),
          UInt8.ofNat (c.toNat % 64 + 0x80)]
      else
        [UInt8.ofNat (c.toNat / 262144 % 8 + 0xF0), UInt8.ofNat (c.toNat / 4096 % 64 + 0x80),
          UInt8.ofNat (c.toNat / 64 % 64 + 0x80), UInt8.ofNat (c.toNat % 64 + 0x80)] :=
  rfl

/-- The bytes of a character are read as that character, whatever follows. -/
theorem decode_utf8EncodeChar_append (c : Char) (rest : Bytes) :
    decode (String.utf8EncodeChar c ++ rest) = some c :: decode rest := by
  have scalar : c.toNat < 0xD800 ∨ (0xDFFF < c.toNat ∧ c.toNat < 0x110000) := c.valid
  have same : Char.ofNat c.toNat = c := Char.ofNat_toNat c
  rw [utf8EncodeChar_eq]
  by_cases one : c.toNat ≤ 0x7F
  · rw [if_pos one, List.singleton_append, decode, first_one (by omega)]
    simp only [same, List.drop_zero]
  · rw [if_neg one]
    by_cases two : c.toNat ≤ 0x7FF
    · rw [if_pos two, Nat.mod_eq_of_lt (a := c.toNat / 64) (by omega)]
      simp only [List.cons_append, List.nil_append]
      rw [decode, first_two (by omega) (by omega)]
      simp only [same, List.drop_succ_cons, List.drop_zero]
    · rw [if_neg two]
      by_cases three : c.toNat ≤ 0xFFFF
      · rw [if_pos three, Nat.mod_eq_of_lt (a := c.toNat / 4096) (by omega)]
        simp only [List.cons_append, List.nil_append]
        rw [decode, first_three (by omega) (by omega) (by omega)]
        simp only [same, List.drop_succ_cons, List.drop_zero]
      · rw [if_neg three, Nat.mod_eq_of_lt (a := c.toNat / 262144) (by omega)]
        simp only [List.cons_append, List.nil_append]
        rw [decode, first_four (by omega) (by omega)]
        simp only [same, List.drop_succ_cons, List.drop_zero]

/-- The bytes of a text are read as its characters, whatever follows. -/
theorem decode_encode_append (text : String) (rest : Bytes) :
    decode (encode text ++ rest) = text.toList.map some ++ decode rest := by
  unfold encode
  induction text.toList with
  | nil => rfl
  | cons c more ih =>
      rw [List.flatMap_cons, List.append_assoc, decode_utf8EncodeChar_append, ih, List.map_cons,
        List.cons_append]

/-- Decoding undoes encoding. -/
theorem decode_encode (text : String) : decode (encode text) = text.toList.map some := by
  rw [← List.append_nil (encode text), decode_encode_append, decode, List.append_nil]

theorem encode_append (first second : String) :
    encode (first ++ second) = encode first ++ encode second := by
  simp only [encode, String.toList_append, List.flatMap_append]

/-- What has been encoded can be read. -/
theorem text?_encode (text : String) : text? (encode text) = some text := by
  have all (characters : List Char) : (characters.map some).mapM id = some characters := by
    induction characters with
    | nil => rfl
    | cons c rest ih => simp [List.mapM_cons, ih]
  rw [text?, decode_encode, all, Option.map_some, String.ofList_toList]

/-- Each ASCII character is one byte. -/
theorem encode_of_ascii {text : String} (ascii : ∀ c ∈ text.toList, c.toNat ≤ 0x7F) :
    encode text = text.toList.map fun c => UInt8.ofNat c.toNat := by
  have single : ∀ c ∈ text.toList, String.utf8EncodeChar c = [UInt8.ofNat c.toNat] :=
    fun c isMember => by rw [utf8EncodeChar_eq, if_pos (ascii c isMember)]
  rw [encode, List.flatMap_def, List.map_congr_left single, ← List.flatMap_def]
  exact List.map_eq_flatMap.symm

/-- What has been encoded is read back, though stretches that are no UTF-8 would be replaced. -/
theorem lossyText_encode (text : String) : lossyText (encode text) = text := by
  simp [lossyText, decode_encode, Function.comp_def]

end Gatehouse.Utf8
