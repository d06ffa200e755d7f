import Gatehouse.Text.Markup
/-!
# Escaping and filling

Marks are the characters that delimit elements and attributes.  An escaped text has none of them,
and no two texts are escaped alike.  Filling a place joins the pieces of the template around that
place by the value.  Neither the name of a place nor an escaped value has marks, so the marks of the
template stay as they are, wherever the places are and even if they stand in values filled in before.
-/

namespace Gatehouse.Text

/-! ## Marks -/

/-- A character that delimits an element or an attribute. -/
def isMark (c : Char) : Bool := c = '<' || c = '>' || c = '"' || c = '\''

/-- The marks in a text, in order. -/
def marks (text : String) : List Char := text.toList.filter isMark

@[simp] theorem marks_append (first second : String) :
    marks (first ++ second) = marks first ++ marks second := by
  rw [marks, String.toList_append, List.filter_append]
  rfl

/-! ## Escaped texts -/

theorem escapeMarkupChar_ne_nil (c : Char) : escapeMarkupChar c ≠ [] := by
  unfold escapeMarkupChar
  repeat' split
  all_goals simp

theorem filter_escapeMarkupChar (c : Char) : (escapeMarkupChar c).filter isMark = [] := by
  unfold escapeMarkupChar
  repeat' split
  all_goals simp_all [isMark]

/-- The spelling of a character ends where it ends, whatever follows it. -/
theorem escapeMarkupChar_append_inj {c d : Char} {rest more : List Char}
    (same : escapeMarkupChar c ++ rest = escapeMarkupChar d ++ more) : c = d ∧ rest = more := by
  unfold escapeMarkupChar at same
  repeat' split at same
  all_goals simp_all
  -- An escape starts with an ampersand, which is never written as itself.
  all_goals exact absurd same.1.symm ‹_›

/-- An escaped text has no marks. -/
@[simp] theorem marks_escapeMarkup (text : String) : marks (escapeMarkup text) = [] := by
  rw [marks, escapeMarkup, String.toList_ofList, List.filter_flatMap]
  simp only [filter_escapeMarkupChar, List.flatMap_eq_nil_iff, implies_true]

/-- No two texts are escaped alike. -/
theorem escapeMarkup_injective : Function.Injective escapeMarkup := by
  have spelled (first second : List Char)
      (same : first.flatMap escapeMarkupChar = second.flatMap escapeMarkupChar) :
      first = second := by
    induction first generalizing second with
    | nil =>
        cases second with
        | nil => rfl
        | cons d more => simp [escapeMarkupChar_ne_nil] at same
    | cons c rest ih =>
        cases second with
        | nil => simp [escapeMarkupChar_ne_nil] at same
        | cons d more =>
            rw [List.flatMap_cons, List.flatMap_cons] at same
            obtain ⟨rfl, others⟩ := escapeMarkupChar_append_inj same
            rw [ih more others]
  intro first second same
  exact String.toList_inj.1 (spelled _ _ (String.ofList_inj.1 same))

/-! ## Filled places -/

/-- The pieces of a text around the occurrences of a pattern; the first argument is the number of
characters of an occurrence that are still to be passed over. -/
def piecesFrom (pattern : List Char) : Nat → List Char → List (List Char)
  | _, [] => [[]]
  | skip + 1, _ :: rest => piecesFrom pattern skip rest
  | 0, c :: rest =>
      if pattern.isPrefixOf (c :: rest) then [] :: piecesFrom pattern (pattern.length - 1) rest
      else
        match piecesFrom pattern 0 rest with
        | [] => [[c]]
        | first :: others => (c :: first) :: others

/-- The pieces of a template around a place. -/
def pieces (name template : String) : List (List Char) :=
  piecesFrom (placeholder name) 0 template.toList

variable {pattern replacement text : List Char} {name value : String}

theorem piecesFrom_ne_nil (pattern : List Char) (skip : Nat) (text : List Char) :
    piecesFrom pattern skip text ≠ [] := by
  induction text generalizing skip with
  | nil => cases skip <;> exact List.cons_ne_nil _ _
  | cons c rest ih =>
      cases skip with
      | succ skip => exact ih skip
      | zero =>
          rw [piecesFrom]
          split
          · exact List.cons_ne_nil _ _
          · split <;> exact List.cons_ne_nil _ _

/-- Replacing a pattern joins the pieces around it by the replacement. -/
theorem replaceFrom_eq_intercalate (pattern replacement : List Char) (skip : Nat)
    (text : List Char) :
    replaceFrom pattern replacement skip text =
      replacement.intercalate (piecesFrom pattern skip text) := by
  induction text generalizing skip with
  | nil => cases skip <;> rfl
  | cons c rest ih =>
      cases skip with
      | succ skip => exact ih skip
      | zero =>
          rw [replaceFrom, piecesFrom]
          split
          · rw [ih, List.intercalate_cons_of_ne_nil (piecesFrom_ne_nil _ _ _)]
            rfl
          · rw [ih]
            cases found : piecesFrom pattern 0 rest with
            | nil => exact absurd found (piecesFrom_ne_nil _ _ _)
            | cons first others =>
                cases others with
                | nil => simp
                | cons second more => simp

/-- A pattern that is replaced by itself leaves the text as it is. -/
theorem replaceFrom_self (some : pattern ≠ []) (skip : Nat) (text : List Char) :
    replaceFrom pattern pattern skip text = text.drop skip := by
  induction text generalizing skip with
  | nil => cases skip <;> rfl
  | cons c rest ih =>
      cases skip with
      | succ skip => exact ih skip
      | zero =>
          rw [replaceFrom]
          split
          · rename_i occurs
            obtain ⟨follows, split⟩ := List.isPrefixOf_iff_prefix.1 occurs
            cases pattern with
            | nil => contradiction
            | cons first others =>
                obtain ⟨rfl, rfl⟩ := List.cons.inj split
                rw [ih]
                simp
          · rw [ih]
            rfl

theorem placeholder_ne_nil (name : String) : placeholder name ≠ [] := List.cons_ne_nil _ _

/-- A filled template consists of its pieces with the value between them. -/
theorem toList_fill (name value template : String) :
    (fill name value template).toList = value.toList.intercalate (pieces name template) := by
  rw [fill, String.toList_ofList, replaceFrom_eq_intercalate]
  rfl

/-- A template consists of its pieces with the place between them. -/
theorem toList_eq_intercalate_pieces (name template : String) :
    template.toList = (placeholder name).intercalate (pieces name template) := by
  rw [pieces, ← replaceFrom_eq_intercalate, replaceFrom_self (placeholder_ne_nil name)]
  rfl

theorem filter_intercalate (keep : Char → Bool) (separator : List Char) (parts : List (List Char)) :
    (separator.intercalate parts).filter keep =
      (separator.filter keep).intercalate (parts.map (List.filter keep)) := by
  induction parts with
  | nil => rfl
  | cons first others ih =>
      cases others with
      | nil => simp
      | cons second more => simp_all

/-- A value without marks leaves the marks of the template as they are. -/
theorem marks_fill (template : String) (plainName : marks name = []) (plain : marks value = []) :
    marks (fill name value template) = marks template := by
  have placeFree : (placeholder name).filter isMark = [] := by
    rw [marks] at plainName
    simp [placeholder, plainName, isMark]
  rw [marks, toList_fill, filter_intercalate, ← marks, plain, marks,
    toList_eq_intercalate_pieces name template, filter_intercalate, placeFree]

end Gatehouse.Text
