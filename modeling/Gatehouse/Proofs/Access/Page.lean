import Mathlib.Data.List.Basic
import Gatehouse.Access.Page
import Gatehouse.Proofs.Text.Markup
/-!
# Texts in pages stay texts

Whatever names, tickets and messages are filled into a page, its marks are those of the template.
The paragraph that shows a message adds its own marks, at the one place that the template has for it,
and only when there is a message.
-/

namespace Gatehouse.Access.Page

open Text (fill pieces marks escapeMarkup placeholder marks_fill)

/-! ## The place of a message -/

/-- The place for a message in a template. -/
def errorPlace : String := String.ofList (placeholder "ERROR")

/-- The template has one place for a message, between two parts. -/
structure SplitsAtError (template above below : String) : Prop where
  bare : template = above ++ errorPlace ++ below
  filled : ∀ value, fill "ERROR" value template = above ++ value ++ below

theorem exists_splitsAtError {template : String} (once : (pieces "ERROR" template).length = 2) :
    ∃ above below, SplitsAtError template above below := by
  obtain ⟨above, below, split⟩ := List.length_eq_two.1 once
  refine ⟨String.ofList above, String.ofList below, ?_, fun value => ?_⟩
  · apply String.toList_inj.1
    rw [Text.toList_eq_intercalate_pieces "ERROR" template, split]
    simp [errorPlace]
  · apply String.toList_inj.1
    rw [Text.toList_fill, split]
    simp

theorem toList_lines (rows : List String) :
    (lines rows).toList = rows.flatMap fun row => row.toList ++ ['\n'] := by
  simp [lines, String.toList_join, List.flatMap_map]

/-- The templates of the two pages that may show a message have one place for it. -/
theorem length_pieces_templates :
    (pieces "ERROR" loginTemplate).length = 2 ∧ (pieces "ERROR" resetTemplate).length = 2 := by
  rw [pieces, pieces, loginTemplate, resetTemplate, toList_lines, toList_lines]
  simp only [List.flatMap_cons, List.flatMap_nil, String.toList_append]
  -- The lines become lists of characters before the templates are searched.
  repeat rw [String.toList_ofList]
  decide +kernel

/-! ## Marks of pages -/

/-- The marks of the paragraph that shows a message. -/
def errorMarks : List Char := ['<', '"', '"', '"', '"', '>', '<', '>']

/-- A page that may show a message has the marks of its template.  When there is a message, those of
its paragraph come in between. -/
structure KeepsMarks (template above below : String) (page : Option String → String) : Prop where
  silent : marks (page none) = marks template
  showing : ∀ message, marks (page (some message)) = marks above ++ errorMarks ++ marks below

theorem marks_errorBlock_none : marks (errorBlock none) = [] := by
  unfold errorBlock
  rw [marks, String.toList_empty]
  rfl

theorem marks_errorBlock_some (message : String) :
    marks (errorBlock (some message)) = errorMarks := by
  unfold errorBlock
  have opening : marks "<p class=\"error\" role=\"alert\">" =
      ['<', '"', '"', '"', '"', '>'] := by
    rw [marks, String.toList_ofList]
    decide
  have closing : marks "</p>" = ['<', '>'] := by
    rw [marks, String.toList_ofList]
    decide
  rw [Text.marks_append, Text.marks_append, opening, closing, Text.marks_escapeMarkup]
  rfl

/-- The names of places have no marks. -/
theorem marks_names : marks "ERROR" = [] ∧ marks "ACTION" = [] ∧ marks "USERNAME" = [] ∧
    marks "TICKET" = [] ∧ marks "BACKEND" = [] := by
  refine ⟨?_, ?_, ?_, ?_, ?_⟩ <;>
  · rw [marks, String.toList_ofList]
    decide

/-- Filling a place with an escaped text leaves the marks as they are. -/
theorem marks_fill_escapeMarkup {name : String} (plain : marks name = []) (text template : String) :
    marks (fill name (escapeMarkup text) template) = marks template :=
  marks_fill template plain (Text.marks_escapeMarkup text)

/-- What counts is how the place of the message is filled. -/
theorem keepsMarks_of_marks_eq {template above below : String} {page : Option String → String}
    (splits : SplitsAtError template above below)
    (same : ∀ error, marks (page error) = marks (fill "ERROR" (errorBlock error) template)) :
    KeepsMarks template above below page where
  silent := by rw [same, marks_fill template marks_names.1 marks_errorBlock_none]
  showing message := by
    rw [same, splits.filled, Text.marks_append, Text.marks_append, marks_errorBlock_some]

theorem keepsMarks_login {above below : String} (splits : SplitsAtError loginTemplate above below)
    (action username : String) :
    KeepsMarks loginTemplate above below (login action username) := by
  obtain ⟨_, actionPlain, usernamePlain, _⟩ := marks_names
  refine keepsMarks_of_marks_eq splits fun error => ?_
  rw [login, marks_fill_escapeMarkup usernamePlain, marks_fill_escapeMarkup actionPlain]

theorem keepsMarks_reset {above below : String} (splits : SplitsAtError resetTemplate above below)
    (action username ticket : String) :
    KeepsMarks resetTemplate above below (reset action username ticket) := by
  obtain ⟨_, actionPlain, usernamePlain, ticketPlain, _⟩ := marks_names
  refine keepsMarks_of_marks_eq splits fun error => ?_
  rw [reset, marks_fill_escapeMarkup ticketPlain, marks_fill_escapeMarkup usernamePlain,
    marks_fill_escapeMarkup actionPlain]

theorem marks_index (username backend : String) :
    marks (index username backend) = marks indexTemplate := by
  obtain ⟨_, _, usernamePlain, _, backendPlain⟩ := marks_names
  rw [index, marks_fill_escapeMarkup backendPlain, marks_fill_escapeMarkup usernamePlain]

/-- Whatever is filled in, the marks of a page are those of its template, with those of the
paragraph for a message at its place exactly when there is a message.  No two texts are shown
alike. -/
theorem marks_of_pages_are_fixed :
    (∃ above below, SplitsAtError loginTemplate above below ∧
      ∀ action username, KeepsMarks loginTemplate above below (login action username)) ∧
    (∃ above below, SplitsAtError resetTemplate above below ∧
      ∀ action username ticket,
        KeepsMarks resetTemplate above below (reset action username ticket)) ∧
    (∀ username backend, marks (index username backend) = marks indexTemplate) ∧
    Function.Injective escapeMarkup := by
  obtain ⟨loginOnce, resetOnce⟩ := length_pieces_templates
  obtain ⟨loginAbove, loginBelow, loginSplits⟩ := exists_splitsAtError loginOnce
  obtain ⟨resetAbove, resetBelow, resetSplits⟩ := exists_splitsAtError resetOnce
  exact ⟨⟨loginAbove, loginBelow, loginSplits, keepsMarks_login loginSplits⟩,
    ⟨resetAbove, resetBelow, resetSplits, keepsMarks_reset resetSplits⟩,
    marks_index, Text.escapeMarkup_injective⟩

end Gatehouse.Access.Page
