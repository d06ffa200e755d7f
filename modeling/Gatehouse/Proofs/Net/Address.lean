import Gatehouse.Net.Address
import Gatehouse.Proofs.Data.Hex
import Gatehouse.Proofs.Text.Decimal
/-!
# Reading back addresses

Every address is read back from its text.  An address of version four is four octets with dots.  An
address of version six is up to eight groups with colons, where a row of zero groups is left out: the
groups before the gap and those behind it tell how long the gap is.  The readers take as much of a
text as they can, so each law says what may follow.
-/

namespace Gatehouse.Address

open Text

variable {rest : List Char}

/-! ## Version four -/

/-- A text that does not go on with a decimal digit. -/
def EndsOctet (rest : List Char) : Prop := ∀ c ∈ rest.head?, c.isDigit = false

theorem endsOctet_nil : EndsOctet [] := fun _ isHead => nomatch isHead

theorem after?_cons (c : Char) (rest : List Char) : after? c (c :: rest) = some rest := if_pos rfl

/-- An octet is read up to its end. -/
theorem octet?_digits {n : Nat} (small : n < 256) (ends : EndsOctet rest) :
    octet? (digits n ++ rest) = some (n, rest) := by
  have row : (digits n ++ rest).takeWhile Char.isDigit = digits n :=
    takeWhile_row (fun _ => isDigit_of_mem_digits) ends
  have filled : (digits n).isEmpty = false := by simpa using digits_ne_nil n
  have short : (digits n).length ≤ 3 :=
    (Nat.length_toDigits_le_iff (by decide) (by decide)).2 (by omega)
  have noZeros : (1 < (digits n).length && (digits n).head? = some '0') = false := by
    rw [Bool.and_eq_false_iff, decide_eq_false_iff_not, decide_eq_false_iff_not]
    by_cases isZero : n = 0
    · exact .inl (by rw [isZero, digits_zero]; decide)
    · exact .inr (head?_digits_ne_zero (Nat.pos_of_ne_zero isZero))
  simp [octet?, row, filled, ofDigitChars_digits, noZeros, Nat.not_lt.2 short,
    Nat.not_lt.2 (Nat.le_of_lt_succ small)]

/-- An address is made of its octets. -/
theorem ofOctets_octets (bits : BitVec 32) :
    ofOctets (bits.toNat / 16777216) (bits.toNat / 65536 % 256) (bits.toNat / 256 % 256)
      (bits.toNat % 256) = bits := by
  have sum : ((bits.toNat / 16777216 * 256 + bits.toNat / 65536 % 256) * 256 +
      bits.toNat / 256 % 256) * 256 + bits.toNat % 256 = bits.toNat := by omega
  rw [ofOctets, sum, BitVec.ofNat_toNat, BitVec.setWidth_eq]

/-- An address of version four is read up to its end. -/
theorem scan4?_dotted (bits : BitVec 32) (ends : EndsOctet rest) :
    scan4? (dotted bits ++ rest) = some (bits, rest) := by
  have endsDot (more : List Char) : EndsOctet ('.' :: more) := by
    rintro _ ⟨⟩
    rfl
  have bound := bits.isLt
  simp only [dotted, octets, List.map_cons, List.map_nil, joined, List.append_assoc,
    List.cons_append, List.nil_append]
  simp only [scan4?, octet?_digits (show bits.toNat / 16777216 < 256 by omega) (endsDot _),
    octet?_digits (show bits.toNat / 65536 % 256 < 256 by omega) (endsDot _),
    octet?_digits (show bits.toNat / 256 % 256 < 256 by omega) (endsDot _),
    octet?_digits (show bits.toNat % 256 < 256 by omega) ends, after?_cons,
    Option.bind_eq_bind, Option.bind_some, ofOctets_octets]
  rfl

/-- Every address of version four is read back. -/
theorem parse4?_dotted (bits : BitVec 32) : parse4? (dotted bits) = some bits := by
  have scanned := scan4?_dotted bits endsOctet_nil
  rw [List.append_nil] at scanned
  rw [parse4?, scanned]
  rfl

/-! ## Groups -/

/-- The digits of a group. -/
abbrev hex (group : Nat) : List Char := Nat.toDigits 16 group

/-- A text that does not go on with a hexadecimal digit, or with a dot. -/
def EndsGroup (rest : List Char) : Prop := ∀ c ∈ rest.head?, Hex.isDigit c = false ∧ c ≠ '.'

theorem endsGroup_nil : EndsGroup [] := fun _ isHead => nomatch isHead

theorem endsGroup_cons {c : Char} (noDigit : Hex.isDigit c = false) (noDot : c ≠ '.')
    (rest : List Char) : EndsGroup (c :: rest) := by
  rintro _ ⟨⟩
  exact ⟨noDigit, noDot⟩

/-- A group is read up to its end. -/
theorem group?_hex {group : Nat} (small : group < 65536) (ends : EndsGroup rest) :
    group? (hex group ++ rest) = some (group, rest) := by
  have row : (hex group ++ rest).takeWhile Hex.isDigit = hex group :=
    takeWhile_row (fun _ => Hex.isDigit_of_mem_toDigits) fun c isHead => (ends c isHead).1
  have filled : (hex group).isEmpty = false := by simp
  have short : (hex group).length ≤ 4 :=
    (Nat.length_toDigits_le_iff (by decide) (by decide)).2 (by omega)
  simp [group?, row, filled, Nat.not_lt.2 short, Hex.number?_toDigits]

/-- A text of hexadecimal digits has no dot behind the decimal digits in front. -/
theorem ne_dot_of_mem_head? {row : List Char} (areDigits : ∀ c ∈ row, Hex.isDigit c = true)
    (ends : EndsGroup rest) : ∀ c ∈ ((row ++ rest).dropWhile Char.isDigit).head?, c ≠ '.' := by
  induction row with
  | nil =>
      cases rest with
      | nil => exact fun _ isHead => nomatch isHead
      | cons d more =>
          have noDigit : d.isDigit = false :=
            Bool.eq_false_iff.2 fun isDigit =>
              Bool.eq_false_iff.1 (ends d rfl).1 (Hex.isDigit_of_isDigit isDigit)
          rw [List.nil_append, List.dropWhile_cons, noDigit]
          rintro _ ⟨⟩
          exact (ends d rfl).2
  | cons d more ih =>
      rw [List.cons_append, List.dropWhile_cons]
      cases d.isDigit with
      | true => exact ih fun c isMember => areDigits c (List.mem_cons_of_mem _ isMember)
      | false =>
          rintro _ ⟨⟩ rfl
          exact absurd (areDigits '.' List.mem_cons_self) (by decide)

/-- A text of hexadecimal digits is no address of version four. -/
theorem scan4?_row {row : List Char} (areDigits : ∀ c ∈ row, Hex.isDigit c = true)
    (ends : EndsGroup rest) : scan4? (row ++ rest) = none := by
  have noDot := ne_dot_of_mem_head? areDigits ends
  generalize row ++ rest = text at noDot
  have behind : text.drop (text.takeWhile Char.isDigit).length = text.dropWhile Char.isDigit := by
    have whole := List.takeWhile_append_dropWhile (p := Char.isDigit) (l := text)
    calc text.drop (text.takeWhile Char.isDigit).length
        = (text.takeWhile Char.isDigit ++ text.dropWhile Char.isDigit).drop
            (text.takeWhile Char.isDigit).length := by rw [whole]
      _ = text.dropWhile Char.isDigit := List.drop_left
  have stops : after? '.' (text.dropWhile Char.isDigit) = none := by
    cases left : text.dropWhile Char.isDigit with
    | nil => rfl
    | cons d more => exact if_neg (noDot d (by rw [left]; rfl))
  simp only [scan4?, octet?, behind]
  split
  · rfl
  · simp only [Option.bind_eq_bind, Option.bind_some, stops, Option.bind_none]

theorem scan4?_of_endsGroup (ends : EndsGroup rest) : scan4? rest = none := by
  have none := scan4?_row (List.forall_mem_nil _) ends
  exact none

/-- Where no group starts, none is read. -/
theorem scanGroups_nil {room : Nat} (ends : EndsGroup rest) :
    scanGroups room true rest = ([], false, rest) := by
  have noGroup : group? rest = none := by
    have row : ([] ++ rest).takeWhile Hex.isDigit = [] :=
      takeWhile_row (List.forall_mem_nil _) fun c isHead => (ends c isHead).1
    rw [List.nil_append] at row
    simp [group?, row]
  have noAddress := scan4?_of_endsGroup ends
  cases room with
  | zero => rfl
  | succ room => simp [scanGroups, noGroup, noAddress]

/-- The text after a row of groups: no colon follows, or two of them. -/
structure EndsGroups (rest : List Char) : Prop where
  ends : EndsGroup rest
  noColon : ∀ more, rest = ':' :: more → ∃ others, more = ':' :: others

theorem EndsGroups.scanGroups_nil {room : Nat} (ends : EndsGroups rest) :
    scanGroups room false rest = ([], false, rest) := by
  cases room with
  | zero => rfl
  | succ room =>
      cases rest with
      | nil => simp [scanGroups, after?]
      | cons c more =>
          by_cases isColon : c = ':'
          · subst isColon
            obtain ⟨others, rfl⟩ := ends.noColon more rfl
            have colon : EndsGroup (':' :: others) :=
              endsGroup_cons (by decide) (by decide) others
            have noAddress : scan4? (':' :: others) = none :=
              scan4?_of_endsGroup colon
            have noGroup : group? (':' :: others) = none := rfl
            simp [scanGroups, after?_cons, noAddress, noGroup]
          · simp [scanGroups, after?, isColon]

/-- A group ends where the next one follows a colon, or where the row ends. -/
theorem endsGroup_flatMap (row : List Nat) (ends : EndsGroup rest) :
    EndsGroup (row.flatMap (fun group => ':' :: hex group) ++ rest) := by
  cases row with
  | nil => exact ends
  | cons group more => exact endsGroup_cons (by decide) (by decide) _

/-- Groups after colons are read up to their end. -/
theorem scanGroups_behind {row : List Nat} {room : Nat} (small : ∀ group ∈ row, group < 65536)
    (fits : row.length ≤ room) (ends : EndsGroups rest) :
    scanGroups room false (row.flatMap (fun group => ':' :: hex group) ++ rest) =
      (row, false, rest) := by
  induction row generalizing room with
  | nil => exact ends.scanGroups_nil
  | cons group more ih =>
      cases room with
      | zero => cases fits
      | succ room =>
          have follows := ih (fun other isMember => small other (List.mem_cons_of_mem _ isMember))
            (Nat.le_of_succ_le_succ fits)
          have endsHere := endsGroup_flatMap more ends.ends
          rw [List.flatMap_cons, List.cons_append, List.cons_append, List.append_assoc]
          simp only [scanGroups, after?_cons, Option.bind_some, Bool.false_eq_true, if_false,
            scan4?_row (fun _ => Hex.isDigit_of_mem_toDigits) endsHere, ite_self,
            group?_hex (small group List.mem_cons_self) endsHere, follows]

theorem colons_cons (group : Nat) (row : List Nat) :
    colons (group :: row) = hex group ++ row.flatMap fun other => ':' :: hex other := by
  induction row generalizing group with
  | nil => simp [colons, joined]
  | cons second others ih =>
      rw [colons, List.map_cons, List.map_cons, joined, ← List.map_cons, ← colons, ih,
        List.flatMap_cons]
      · simp
      · simp

/-- A row of groups is read up to its end. -/
theorem scanGroups_colons (row : List Nat) (room : Nat) (small : ∀ group ∈ row, group < 65536)
    (fits : row.length ≤ room) (ends : EndsGroups rest) :
    scanGroups room true (colons row ++ rest) = (row, false, rest) := by
  cases row with
  | nil => exact scanGroups_nil ends.ends
  | cons group more =>
      cases room with
      | zero => cases fits
      | succ room =>
          have follows := scanGroups_behind
            (fun other isMember => small other (List.mem_cons_of_mem _ isMember))
            (Nat.le_of_succ_le_succ fits) ends
          have endsHere := endsGroup_flatMap more ends.ends
          rw [colons_cons, List.append_assoc]
          simp only [scanGroups, Option.bind_some, if_true,
            scan4?_row (fun _ => Hex.isDigit_of_mem_toDigits) endsHere, ite_self,
            group?_hex (small group List.mem_cons_self) endsHere, follows]

/-! ## Version six -/

theorem groups_eq (bits : BitVec 128) : groups bits = [
    bits.toNat / 2 ^ 112 % 65536, bits.toNat / 2 ^ 96 % 65536, bits.toNat / 2 ^ 80 % 65536,
    bits.toNat / 2 ^ 64 % 65536, bits.toNat / 2 ^ 48 % 65536, bits.toNat / 2 ^ 32 % 65536,
    bits.toNat / 2 ^ 16 % 65536, bits.toNat % 65536] := by
  simp [groups, List.range_succ, Nat.shiftRight_eq_div_pow]

theorem lt_of_mem_groups {bits : BitVec 128} {group : Nat} (isGroup : group ∈ groups bits) :
    group < 65536 := by
  obtain ⟨_, _, rfl⟩ := List.mem_map.1 isGroup
  exact Nat.mod_lt _ (by decide)

/-- An address is made of its groups. -/
theorem ofGroups_groups (bits : BitVec 128) : ofGroups (groups bits) = bits := by
  have bound := bits.isLt
  refine BitVec.eq_of_toNat_eq ?_
  rw [groups_eq, ofGroups, BitVec.toNat_ofNat]
  simp only [List.foldl_cons, List.foldl_nil]
  omega

/-- What is found as the longest row of zeros is a row of zeros. -/
theorem longestZeros_spec (row : List Nat) :
    (longestZeros row).2 ≤ leadingZeros (row.drop (longestZeros row).1) := by
  have keeps (places : List Nat) (best : Nat × Nat)
      (zeros : best.2 ≤ leadingZeros (row.drop best.1)) :
      let found := places.foldl (fun best i =>
        let length := leadingZeros (row.drop i)
        if best.2 < length then (i, length) else best) best
      found.2 ≤ leadingZeros (row.drop found.1) := by
    induction places generalizing best with
    | nil => exact zeros
    | cons i more ih =>
        rw [List.foldl_cons]
        refine ih _ ?_
        dsimp only
        split
        · exact Nat.le_refl _
        · exact zeros
  exact keeps _ (0, 0) (Nat.zero_le _)

theorem take_eq_replicate {row : List Nat} {length : Nat} (zeros : length ≤ leadingZeros row) :
    row.take length = List.replicate length 0 := by
  rw [leadingZeros] at zeros
  have front : row.take length = (row.takeWhile (· = 0)).take length := by
    have cut : (row.takeWhile (· = 0) ++ row.dropWhile (· = 0)).take length = _ :=
      List.take_append_of_le_length zeros
    rwa [List.takeWhile_append_dropWhile] at cut
  rw [front, List.eq_replicate_iff]
  constructor
  · rw [List.length_take, Nat.min_eq_left zeros]
  · intro group isMember
    have areZeros := List.all_eq_true.1 (List.all_takeWhile (p := (· = 0)) (l := row))
    exact of_decide_eq_true (areZeros group (List.mem_of_mem_take isMember))

/-- The groups before a row of zeros, the zeros, and the groups behind them make up the row. -/
theorem take_append_zeros_append_drop {row : List Nat} {start length : Nat}
    (zeros : length ≤ leadingZeros (row.drop start)) :
    row.take start ++ List.replicate length 0 ++ row.drop (start + length) = row := by
  rw [← take_eq_replicate zeros, ← List.drop_drop, List.append_assoc, List.take_append_drop,
    List.take_append_drop]

/-- An address that embeds one of version four is made of it. -/
theorem ofGroups_embedded {bits : BitVec 128} (mapped : bits.toNat >>> 32 = 0xFFFF) :
    ofGroups (List.replicate 5 0 ++ [0xFFFF, (BitVec.ofNat 32 bits.toNat).toNat / 65536,
      (BitVec.ofNat 32 bits.toNat).toNat % 65536]) = bits := by
  have bound := bits.isLt
  rw [Nat.shiftRight_eq_div_pow] at mapped
  refine BitVec.eq_of_toNat_eq ?_
  simp only [ofGroups, BitVec.toNat_ofNat, List.replicate, List.cons_append, List.nil_append,
    List.foldl_cons, List.foldl_nil]
  omega

theorem scanGroups_embedded (bits : BitVec 32) (ends : EndsOctet rest) :
    scanGroups 7 true ("ffff:".toList ++ dotted bits ++ rest) =
      ([0xFFFF, bits.toNat / 65536, bits.toNat % 65536], true, rest) := by
  have colon : EndsGroup (':' :: (dotted bits ++ rest)) :=
    endsGroup_cons (by decide) (by decide) _
  have group : hex 0xFFFF = ['f', 'f', 'f', 'f'] := by decide
  have text : "ffff:".toList ++ dotted bits ++ rest = hex 0xFFFF ++ ':' :: (dotted bits ++ rest) := by
    rw [group]
    rfl
  rw [text]
  simp only [scanGroups, Option.bind_some, if_true,
    scan4?_row (fun _ => Hex.isDigit_of_mem_toDigits) colon, ite_self,
    group?_hex (show 0xFFFF < 65536 by decide) colon, after?_cons, scan4?_dotted bits ends,
    Bool.false_eq_true, if_false]
  rfl

/-- An address of version six is read up to its end. -/
theorem scan6?_text6 (bits : BitVec 128) (ends : EndsGroups rest) :
    scan6? (text6 bits ++ rest) = some (bits, rest) := by
  have colon (more : List Char) : EndsGroup (':' :: more) :=
    endsGroup_cons (by decide) (by decide) more
  unfold text6
  split
  · rename_i mapped
    have endsOctet : EndsOctet rest := fun c isHead =>
      Bool.eq_false_iff.2 fun isDigit =>
        Bool.eq_false_iff.1 (ends.ends c isHead).1 (Hex.isDigit_of_isDigit isDigit)
    have start : scanGroups 8 true _ = _ := scanGroups_nil
      (colon (':' :: ("ffff:".toList ++ dotted (BitVec.ofNat 32 bits.toNat) ++ rest)))
    have embedded := scanGroups_embedded (BitVec.ofNat 32 bits.toNat) endsOctet
    rw [show "::ffff:".toList ++ dotted (BitVec.ofNat 32 bits.toNat) ++ rest =
      ':' :: ':' :: ("ffff:".toList ++ dotted (BitVec.ofNat 32 bits.toNat) ++ rest) from rfl]
    simp only [scan6?, start, List.length_nil, Bool.false_eq_true, if_false, Nat.sub_zero, embedded,
      List.length_cons, List.nil_append]
    exact congrArg (fun found => some (found, rest)) (ofGroups_embedded mapped)
  · dsimp only
    have small {group : Nat} (isGroup : group ∈ groups bits) : group < 65536 :=
      lt_of_mem_groups isGroup
    have whole : (groups bits).length = 8 := by simp [groups]
    split
    · rename_i long
      -- The gap has a place for itself, so the groups around it are fewer than eight.
      have row := take_append_zeros_append_drop (longestZeros_spec (groups bits))
      generalize longestZeros (groups bits) = gap at long row ⊢
      have lengths := congrArg List.length row
      rw [whole, List.length_append, List.length_append, List.length_replicate] at lengths
      have before := scanGroups_colons ((groups bits).take gap.1) 8
        (fun group isMember => small (List.mem_of_mem_take isMember)) (by omega)
        ⟨colon (':' :: (colons ((groups bits).drop (gap.1 + gap.2)) ++ rest)),
          fun more same => ⟨_, (List.cons.inj same).2.symm⟩⟩
      have behind := scanGroups_colons ((groups bits).drop (gap.1 + gap.2))
        (7 - ((groups bits).take gap.1).length)
        (fun group isMember => small (List.mem_of_mem_drop isMember)) (by omega) ends
      have gapLength : 8 - ((groups bits).take gap.1).length -
          ((groups bits).drop (gap.1 + gap.2)).length = gap.2 := by omega
      have notWhole : ((groups bits).take gap.1).length ≠ 8 := by omega
      rw [List.append_assoc, List.cons_append, List.cons_append]
      simp only [scan6?, before, notWhole, if_false, Bool.false_eq_true, behind, gapLength, row,
        ofGroups_groups]
    · have scanned := scanGroups_colons (groups bits) 8 (fun group => small) (Nat.le_of_eq whole) ends
      simp only [scan6?, scanned, whole, if_true, ofGroups_groups]

theorem scan4?_colons (row : List Nat) (ends : EndsGroup rest) :
    scan4? (colons row ++ rest) = none := by
  cases row with
  | nil => exact scan4?_of_endsGroup ends
  | cons group more =>
      rw [colons_cons, List.append_assoc]
      exact scan4?_row (fun _ => Hex.isDigit_of_mem_toDigits) (endsGroup_flatMap more ends)

/-- The text of an address of version six is none of version four. -/
theorem parse4?_text6 (bits : BitVec 128) : parse4? (text6 bits) = none := by
  have colon (more : List Char) : EndsGroup (':' :: more) :=
    endsGroup_cons (by decide) (by decide) more
  have none : scan4? (text6 bits) = none := by
    unfold text6
    split
    · exact scan4?_of_endsGroup (colon _)
    · dsimp only
      split
      · exact scan4?_colons _ (colon _)
      · have scanned := scan4?_colons (groups bits) endsGroup_nil
        rwa [List.append_nil] at scanned
  rw [parse4?, none]
  rfl

/-- Every address of version six is read back. -/
theorem parse6?_text6 (bits : BitVec 128) : parse6? (text6 bits) = some bits := by
  have scanned := scan6?_text6 bits ⟨endsGroup_nil, fun _ same => nomatch same⟩
  rw [List.append_nil] at scanned
  rw [parse6?, scanned]
  rfl

/-! ## The characters of addresses -/

theorem mem_joined {separator : List Char} {texts : List (List Char)} {c : Char}
    (isMember : c ∈ joined separator texts) : c ∈ separator ∨ ∃ text ∈ texts, c ∈ text := by
  fun_induction joined separator texts with
  | case1 => cases isMember
  | case2 text => exact .inr ⟨text, List.mem_cons_self, isMember⟩
  | case3 text rest _ ih =>
      rw [List.append_assoc, List.mem_append, List.mem_append] at isMember
      rcases isMember with isMember | isMember | isMember
      · exact .inr ⟨text, List.mem_cons_self, isMember⟩
      · exact .inl isMember
      · rcases ih isMember with isMember | ⟨other, isText, isMember⟩
        · exact .inl isMember
        · exact .inr ⟨other, List.mem_cons_of_mem _ isText, isMember⟩

/-- A character in an address: a hexadecimal digit, a dot or a colon. -/
def IsMark (c : Char) : Prop := Hex.isDigit c = true ∨ c = '.' ∨ c = ':'

theorem isMark_of_mem_dotted {bits : BitVec 32} {c : Char} (isMember : c ∈ dotted bits) :
    IsMark c := by
  rcases mem_joined isMember with isDot | ⟨text, isText, isMember⟩
  · exact .inr (.inl (List.mem_singleton.1 isDot))
  · obtain ⟨_, _, rfl⟩ := List.mem_map.1 isText
    exact .inl (Hex.isDigit_of_isDigit (isDigit_of_mem_digits isMember))

theorem isMark_of_mem_colons {row : List Nat} {c : Char} (isMember : c ∈ colons row) :
    IsMark c := by
  rcases mem_joined isMember with isColon | ⟨text, isText, isMember⟩
  · exact .inr (.inr (List.mem_singleton.1 isColon))
  · obtain ⟨_, _, rfl⟩ := List.mem_map.1 isText
    exact .inl (Hex.isDigit_of_mem_toDigits isMember)

theorem isMark_of_mem_text6 {bits : BitVec 128} {c : Char} (isMember : c ∈ text6 bits) :
    IsMark c := by
  unfold text6 at isMember
  split at isMember
  · rcases List.mem_append.1 isMember with isMember | isMember
    · have marks : "::ffff:".toList.all (fun d => d = 'f' || d = ':') = true := rfl
      have isEither : c = 'f' ∨ c = ':' := by simpa using List.all_eq_true.1 marks c isMember
      rcases isEither with rfl | rfl
      · exact .inl rfl
      · exact .inr (.inr rfl)
    · exact isMark_of_mem_dotted isMember
  · dsimp only at isMember
    split at isMember
    · simp only [List.mem_append, List.mem_cons] at isMember
      rcases isMember with isMember | isColon | isColon | isMember
      · exact isMark_of_mem_colons isMember
      · exact .inr (.inr isColon)
      · exact .inr (.inr isColon)
      · exact isMark_of_mem_colons isMember
    · exact isMark_of_mem_colons isMember

end Gatehouse.Address
