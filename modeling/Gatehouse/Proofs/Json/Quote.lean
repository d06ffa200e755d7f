import Gatehouse.Json.Draft
import Gatehouse.Proofs.Data.Hex
/-!
# Reading back strings

A text in quotes is read back as itself, whatever characters it has.  A character that is written
as itself is no quote, no backslash and no control character; every other one is spelled by an
escape that stands for it.
-/

namespace Gatehouse.Draft

theorem hex4?_small {n : Nat} (small : n < 256) :
    hex4? (some '0') (some '0') (some (Hex.digit (n / 16))) (some (Hex.digit (n % 16))) =
      some n := by
  have zero : Hex.value? '0' = some 0 := by decide
  simp only [hex4?, Option.bind_eq_bind, Option.bind_some, Hex.number?, List.foldl_cons,
    List.foldl_nil, zero, Hex.value?_digit _ (show n / 16 < 16 by omega),
    Hex.value?_digit _ (show n % 16 < 16 by omega), pure]
  congr 1
  omega

/-- A character that is written as itself. -/
theorem nextChar?_plain {c : Char} (noQuote : c ≠ '"') (noSlash : c ≠ '\\')
    (printable : 0x20 ≤ c.toNat) (tail : List Symbol) :
    nextChar? (some c) tail = some (some c, 0) := by
  have refused : (decide (c = '"') || decide (c = '\\') || decide (c.toNat < 0x20)) = false := by
    simp only [noQuote, noSlash, Nat.not_lt.2 printable, decide_false, Bool.or_self]
  unfold nextChar?
  split
  · rename_i same
    cases same
  · rename_i same
    exact absurd (Option.some.inj same) noSlash
  · rename_i same
    exact absurd (Option.some.inj same) noSlash
  · rename_i same _ _
    cases same
    simp only [refused, Bool.false_eq_true, if_false]

/-- A control character that is written by its number. -/
theorem nextChar?_numbered {c : Char} (control : c.toNat < 0x20) (tail : List Symbol) :
    nextChar? (some '\\') (some 'u' :: some '0' :: some '0' ::
      some (Hex.digit (c.toNat / 16)) :: some (Hex.digit (c.toNat % 16)) :: tail) =
      some (some c, 5) := by
  have value := hex4?_small (n := c.toNat) (by omega)
  have noHigh : isHigh c.toNat = false := by
    unfold isHigh
    simp only [Bool.and_eq_false_iff, decide_eq_false_iff_not]
    omega
  have noLow : isLow c.toNat = false := by
    unfold isLow
    simp only [Bool.and_eq_false_iff, decide_eq_false_iff_not]
    omega
  simp only [nextChar?, value, Option.bind_eq_bind, Option.bind_some, noHigh, noLow,
    Bool.false_eq_true, if_false, Char.ofNat_toNat]

/-- Every character is written by a spelling that is read as it. -/
theorem exists_escapeChar (c : Char) :
    ∃ first more, Json.escapeChar c = first :: more ∧ first ≠ '"' ∧
      ∀ tail, nextChar? (some first) (more.map some ++ tail) = some (some c, more.length) := by
  have ofNumber {d : Char} (same : c.toNat = d.toNat) : c = d := Char.toNat_inj.1 same
  unfold Json.escapeChar
  by_cases quote : c = '"'
  · exact ⟨'\\', ['"'], if_pos quote, by decide, fun tail => by rw [quote]; rfl⟩
  rw [if_neg quote]
  by_cases slash : c = '\\'
  · exact ⟨'\\', ['\\'], if_pos slash, by decide, fun tail => by rw [slash]; rfl⟩
  rw [if_neg slash]
  by_cases printable : 0x20 ≤ c.toNat
  · exact ⟨c, [], if_pos printable, quote, fun tail => nextChar?_plain quote slash printable _⟩
  rw [if_neg printable]
  by_cases feed : c = '\n'
  · exact ⟨'\\', ['n'], if_pos feed, by decide, fun tail => by rw [feed]; rfl⟩
  rw [if_neg feed]
  by_cases carriage : c = '\r'
  · exact ⟨'\\', ['r'], if_pos carriage, by decide, fun tail => by rw [carriage]; rfl⟩
  rw [if_neg carriage]
  by_cases tabulator : c = '\t'
  · exact ⟨'\\', ['t'], if_pos tabulator, by decide, fun tail => by rw [tabulator]; rfl⟩
  rw [if_neg tabulator]
  by_cases backspace : c.toNat = 8
  · exact ⟨'\\', ['b'], if_pos backspace, by decide, fun tail => by
      rw [ofNumber (d := '\x08') backspace]; rfl⟩
  rw [if_neg backspace]
  by_cases formFeed : c.toNat = 12
  · exact ⟨'\\', ['f'], if_pos formFeed, by decide, fun tail => by
      rw [ofNumber (d := '\x0c') formFeed]; rfl⟩
  · exact ⟨'\\', _, if_neg formFeed, by decide, fun tail =>
      nextChar?_numbered (Nat.lt_of_not_le printable) tail⟩

/-- The characters of a text in quotes are read back, and the text after the quote is left. -/
theorem scanString_escaped (text : List Char) (rest : List Symbol) :
    scanString ((text.flatMap Json.escapeChar).map some ++ some '"' :: rest) =
      some (text.map some, rest) := by
  induction text with
  | nil =>
      rw [List.flatMap_nil, List.map_nil, List.nil_append, scanString, if_pos rfl]
  | cons c more ih =>
      obtain ⟨first, others, spelled, noQuote, next⟩ := exists_escapeChar c
      have apart : some first ≠ some '"' := fun same => noQuote (Option.some.inj same)
      simp only [List.flatMap_cons, spelled, List.map_append, List.map_cons, List.cons_append,
        List.append_assoc]
      rw [scanString, if_neg apart, next]
      simp only [List.drop_left' (List.length_map _), ih, Option.map_some]

theorem textOf?_map (text : List Char) : textOf? (text.map some) = some (String.ofList text) := by
  have all : (text.map some).mapM id = some text := by
    induction text with
    | nil => rfl
    | cons c more ih =>
        simp only [List.map_cons, List.mapM_cons, id, ih, Option.bind_eq_bind, Option.bind_some]
        rfl
  rw [textOf?, all, Option.map_some]

end Gatehouse.Draft
