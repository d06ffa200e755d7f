import Gatehouse.Proofs.Json.Spelling
import Gatehouse.Proofs.Json.Quote
/-!
# Written documents

A document can be written in many ways, which differ in the blanks between its parts only.
`Spells` is the relation between a document and the texts that are written for it.  The compact and
the pretty form are two of them.
-/

namespace Gatehouse.Json

/-- Blanks as they may stand between the parts of a text. -/
def IsGap (chars : List Char) : Prop := ∀ c ∈ chars, Draft.isGap (some c) = true

theorem isGap_nil : IsGap [] := fun _ isMember => nomatch isMember

mutual

/-- A text is written for a document. -/
inductive Spells : Json → List Char → Prop where
  | null : Spells .null "null".toList
  | true : Spells (.bool true) "true".toList
  | false : Spells (.bool false) "false".toList
  | number (n : Number) : Spells (.number n) n.text
  | string (text : String) : Spells (.string text) (quote text)
  | emptyArray : Spells (.array []) ['[', ']']
  | array {items : List Json} {text : List Char} (written : SpellsItems items text) :
      Spells (.array items) ('[' :: text)
  | emptyObject : Spells (.object []) ['\x7b', '\x7d']
  | object {members : List (String × Json)} {text : List Char}
      (written : SpellsMembers members text) : Spells (.object members) ('\x7b' :: text)

/-- A text is written for the items of an array, the closing bracket included. -/
inductive SpellsItems : List Json → List Char → Prop where
  | last {item : Json} {before text after : List Char} (gap : IsGap before)
      (written : Spells item text) (trailing : IsGap after) :
      SpellsItems [item] (before ++ (text ++ (after ++ [']'])))
  | next {item : Json} {rest : List Json} {before text more : List Char} (gap : IsGap before)
      (written : Spells item text) (others : SpellsItems rest more) :
      SpellsItems (item :: rest) (before ++ (text ++ ',' :: more))

/-- A text is written for the members of an object, the closing brace included. -/
inductive SpellsMembers : List (String × Json) → List Char → Prop where
  | last {name : String} {value : Json} {before between text after : List Char}
      (gap : IsGap before) (middle : IsGap between) (written : Spells value text)
      (trailing : IsGap after) :
      SpellsMembers [(name, value)]
        (before ++ (quote name ++ ':' :: (between ++ (text ++ (after ++ ['\x7d'])))))
  | next {name : String} {value : Json} {rest : List (String × Json)}
      {before between text more : List Char} (gap : IsGap before) (middle : IsGap between)
      (written : Spells value text) (others : SpellsMembers rest more) :
      SpellsMembers ((name, value) :: rest)
        (before ++ (quote name ++ ':' :: (between ++ (text ++ ',' :: more))))

end

/-! ## The two forms -/

mutual

theorem spells_compactChars : (json : Json) → Spells json json.compactChars
  | .null => .null
  | .bool true => .true
  | .bool false => .false
  | .number n => .number n
  | .string text => .string text
  | .array [] => .emptyArray
  | .array (item :: rest) => .array (spells_compactItems (item :: rest) (List.cons_ne_nil _ _))
  | .object [] => .emptyObject
  | .object (member :: rest) =>
      .object (spells_compactMembers (member :: rest) (List.cons_ne_nil _ _))

theorem spells_compactItems :
    (items : List Json) → items ≠ [] → SpellsItems items (compactItems items)
  | [], nonempty => absurd rfl nonempty
  | [item], _ => .last isGap_nil (spells_compactChars item) isGap_nil
  | item :: second :: rest, _ =>
      .next isGap_nil (spells_compactChars item)
        (spells_compactItems (second :: rest) (List.cons_ne_nil _ _))

theorem spells_compactMembers : (members : List (String × Json)) → members ≠ [] →
    SpellsMembers members (compactMembers members)
  | [], nonempty => absurd rfl nonempty
  | [(name, value)], _ => by
      have written : SpellsMembers [(name, value)] _ :=
        .last isGap_nil isGap_nil (spells_compactChars value) isGap_nil
      simpa only [compactMembers, List.nil_append, List.append_assoc, List.cons_append]
        using written
  | (name, value) :: second :: rest, _ => by
      have others := spells_compactMembers (second :: rest) (List.cons_ne_nil _ _)
      have written : SpellsMembers ((name, value) :: second :: rest) _ :=
        .next isGap_nil isGap_nil (spells_compactChars value) others
      simpa only [compactMembers, List.nil_append, List.append_assoc, List.cons_append]
        using written

end

theorem isGap_newLine (level : Nat) : IsGap (newLine level) := by
  rintro c isMember
  rcases List.mem_cons.1 isMember with rfl | isMember
  · rfl
  · rw [List.eq_of_mem_replicate isMember]
    rfl

theorem isGap_blank : IsGap [' '] := by
  rintro c isMember
  rw [List.mem_singleton.1 isMember]
  rfl

mutual

theorem spells_prettyChars (level : Nat) : (json : Json) → Spells json (json.prettyChars level)
  | .null => .null
  | .bool true => .true
  | .bool false => .false
  | .number n => .number n
  | .string text => .string text
  | .array [] => .emptyArray
  | .array (item :: rest) => by
      have written := spells_prettyItems level item rest (spells_prettyChars (level + 1) item)
      simpa only [prettyChars, List.cons_append, List.append_assoc] using Spells.array written
  | .object [] => .emptyObject
  | .object ((name, value) :: rest) => by
      have written :=
        spells_prettyMembers level name value rest (spells_prettyChars (level + 1) value)
      simpa only [prettyChars, List.cons_append, List.append_assoc] using Spells.object written

theorem spells_prettyItems (level : Nat) (item : Json) :
    (rest : List Json) → Spells item (item.prettyChars (level + 1)) →
      SpellsItems (item :: rest)
        (newLine (level + 1) ++ (item.prettyChars (level + 1) ++ prettyItems level rest))
  | [], written => .last (isGap_newLine _) written (isGap_newLine _)
  | second :: rest, written => by
      have others := spells_prettyItems level second rest (spells_prettyChars (level + 1) second)
      have all := SpellsItems.next (isGap_newLine (level + 1)) written others
      simpa only [prettyItems, List.cons_append, List.append_assoc] using all

theorem spells_prettyMembers (level : Nat) (name : String) (value : Json) :
    (rest : List (String × Json)) → Spells value (value.prettyChars (level + 1)) →
      SpellsMembers ((name, value) :: rest)
        (newLine (level + 1) ++ (quote name ++ ':' :: ' ' ::
          (value.prettyChars (level + 1) ++ prettyMembers level rest)))
  | [], written => .last (isGap_newLine _) isGap_blank written (isGap_newLine _)
  | (other, second) :: rest, written => by
      have others := spells_prettyMembers level other second rest
        (spells_prettyChars (level + 1) second)
      have all : SpellsMembers ((name, value) :: (other, second) :: rest) _ :=
        .next (isGap_newLine (level + 1)) isGap_blank written others
      simpa only [prettyMembers, List.cons_append, List.append_assoc, List.nil_append] using all

end

end Gatehouse.Json
