import Gatehouse.Proofs.Json.Spelling
/-!
# Compact texts are single lines

A compact text holds no control character.  The ones that a string has are escaped, and the rest is
brackets, quotes, digits and the like.  So no text in a document can end the line that the document
stands on.
-/

namespace Gatehouse.Json

/-- A character that can be printed: it is no control character below the blank. -/
def IsPrintable (c : Char) : Prop := 0x20 ≤ c.toNat

instance (c : Char) : Decidable (IsPrintable c) := inferInstanceAs (Decidable (0x20 ≤ c.toNat))

theorem isPrintable_of_all {chars : List Char} (all : chars.all (0x20 ≤ ·.toNat) = true) :
    ∀ c ∈ chars, IsPrintable c :=
  fun c isMember => of_decide_eq_true (List.all_eq_true.1 all c isMember)

theorem isPrintable_of_isDigit {c : Char} (digit : c.isDigit = true) : IsPrintable c := by
  simp only [Char.isDigit, Bool.and_eq_true, decide_eq_true_eq, UInt32.le_iff_toNat_le] at digit
  have low : 48 ≤ c.toNat := digit.1
  exact Nat.le_trans (by decide) low

/-! ## Numbers -/

theorem isPrintable_signChars (negative : Bool) :
    ∀ c ∈ Number.Spelling.signChars negative, IsPrintable c := by
  cases negative with
  | false => exact List.forall_mem_nil _
  | true => exact List.forall_mem_singleton.2 (by decide)

theorem isPrintable_chars {spelling : Number.Spelling} (proper : spelling.Proper) :
    ∀ c ∈ spelling.chars, IsPrintable c := by
  have row {digits : List Char} (isRow : Number.Spelling.IsRow digits) :
      ∀ c ∈ digits, IsPrintable c := fun c isMember => isPrintable_of_isDigit (isRow.2 c isMember)
  have fraction : ∀ c ∈ Number.Spelling.fractionChars spelling.fraction, IsPrintable c := by
    cases found : spelling.fraction with
    | none => exact List.forall_mem_nil _
    | some digits => exact List.forall_mem_cons.2 ⟨by decide, row (proper.fraction digits found)⟩
  have exponent : ∀ c ∈ Number.Spelling.exponentChars spelling.exponent, IsPrintable c := by
    cases found : spelling.exponent with
    | none => exact List.forall_mem_nil _
    | some power =>
        exact List.forall_mem_cons.2 ⟨by decide, List.forall_mem_append.2
          ⟨isPrintable_signChars power.1, row (proper.exponent power found)⟩⟩
  unfold Number.Spelling.chars
  simp only [List.forall_mem_append]
  exact ⟨⟨⟨isPrintable_signChars _, row proper.whole⟩, fraction⟩, exponent⟩

theorem isPrintable_number (n : Number) : ∀ c ∈ n.text, IsPrintable c := by
  obtain ⟨spelling, proper, chars⟩ := n.exists_spelling
  rw [← chars]
  exact isPrintable_chars proper

/-! ## Strings -/

theorem isPrintable_hexDigit : ∀ n < 16, IsPrintable (Hex.digit n) := by
  unfold IsPrintable
  decide

/-- A character is written as itself or by an escape. -/
theorem isPrintable_escapeChar (c : Char) : ∀ d ∈ escapeChar c, IsPrintable d := by
  have escape {second : Char} (printable : IsPrintable second) :
      ∀ d ∈ ['\\', second], IsPrintable d :=
    List.forall_mem_cons.2 ⟨by decide, List.forall_mem_singleton.2 printable⟩
  unfold escapeChar
  split
  · exact escape (by decide)
  split
  · exact escape (by decide)
  split
  · rename_i printable
    exact List.forall_mem_singleton.2 printable
  rename_i control
  split
  · exact escape (by decide)
  split
  · exact escape (by decide)
  split
  · exact escape (by decide)
  split
  · exact escape (by decide)
  split
  · exact escape (by decide)
  have high := isPrintable_hexDigit (c.toNat / 16) (by omega)
  have low := isPrintable_hexDigit (c.toNat % 16) (by omega)
  simp only [List.forall_mem_cons]
  exact ⟨by decide, by decide, by decide, by decide, high, low, List.forall_mem_nil _⟩

theorem isPrintable_quote (text : String) : ∀ c ∈ quote text, IsPrintable c := by
  unfold quote
  refine List.forall_mem_append.2 ⟨List.forall_mem_cons.2 ⟨by decide, ?_⟩,
    List.forall_mem_singleton.2 (by decide)⟩
  intro d isMember
  obtain ⟨c, _, isEscape⟩ := List.mem_flatMap.1 isMember
  exact isPrintable_escapeChar c d isEscape

/-! ## Documents -/

mutual

/-- A compact text holds no control character. -/
theorem isPrintable_compactChars : (json : Json) → ∀ c ∈ json.compactChars, IsPrintable c
  | .null => isPrintable_of_all (by decide)
  | .bool true => isPrintable_of_all (by decide)
  | .bool false => isPrintable_of_all (by decide)
  | .number n => isPrintable_number n
  | .string text => isPrintable_quote text
  | .array items => List.forall_mem_cons.2 ⟨by decide, isPrintable_compactItems items⟩
  | .object members => List.forall_mem_cons.2 ⟨by decide, isPrintable_compactMembers members⟩

theorem isPrintable_compactItems : (items : List Json) → ∀ c ∈ compactItems items, IsPrintable c
  | [] => List.forall_mem_singleton.2 (by decide)
  | [item] => List.forall_mem_append.2
      ⟨isPrintable_compactChars item, List.forall_mem_singleton.2 (by decide)⟩
  | item :: second :: rest => List.forall_mem_append.2 ⟨isPrintable_compactChars item,
      List.forall_mem_cons.2 ⟨by decide, isPrintable_compactItems (second :: rest)⟩⟩

theorem isPrintable_compactMembers : (members : List (String × Json)) →
    ∀ c ∈ compactMembers members, IsPrintable c
  | [] => List.forall_mem_singleton.2 (by decide)
  | [(name, value)] => by
      refine List.forall_mem_append.2 ⟨List.forall_mem_append.2 ⟨isPrintable_quote name,
        List.forall_mem_cons.2 ⟨by decide, isPrintable_compactChars value⟩⟩,
        List.forall_mem_singleton.2 (by decide)⟩
  | (name, value) :: second :: rest => by
      refine List.forall_mem_append.2 ⟨List.forall_mem_append.2 ⟨isPrintable_quote name,
        List.forall_mem_cons.2 ⟨by decide, isPrintable_compactChars value⟩⟩,
        List.forall_mem_cons.2 ⟨by decide, isPrintable_compactMembers (second :: rest)⟩⟩

end

theorem notMem_compact {c : Char} (control : ¬ IsPrintable c) (json : Json) :
    c ∉ json.compact.toList := by
  rw [compact, String.toList_ofList]
  exact fun isMember => control (isPrintable_compactChars json c isMember)

end Gatehouse.Json
