/-!
# Texts in markup

Texts are put into pages at named places.  A text is escaped so that it shows as it is and cannot
become markup.
-/

namespace Gatehouse.Text

/-- A character as it is written in element content and in quoted attributes. -/
def escapeMarkupChar (c : Char) : List Char :=
  if c = '&' then "&amp;".toList
  else if c = '<' then "&lt;".toList
  else if c = '>' then "&gt;".toList
  else if c = '"' then "&quot;".toList
  else if c = '\'' then "&#x27;".toList
  else [c]

/-- A text as it is written in markup. -/
def escapeMarkup (text : String) : String :=
  String.ofList (text.toList.flatMap escapeMarkupChar)

/-- A text with each occurrence of `pattern` replaced, from the left and without overlaps; the first
argument is the number of characters of an occurrence that are still to be passed over. -/
def replaceFrom (pattern replacement : List Char) : Nat → List Char → List Char
  | _, [] => []
  | skip + 1, _ :: rest => replaceFrom pattern replacement skip rest
  | 0, c :: rest =>
      if pattern.isPrefixOf (c :: rest) then
        replacement ++ replaceFrom pattern replacement (pattern.length - 1) rest
      else c :: replaceFrom pattern replacement 0 rest

/-- The place of a template that a name stands for. -/
def placeholder (name : String) : List Char := ['{', '{'] ++ name.toList ++ ['}', '}']

/-- A template with a text in each place of a name. -/
def fill (name value template : String) : String :=
  String.ofList (replaceFrom (placeholder name) value.toList 0 template.toList)

end Gatehouse.Text
