import Gatehouse.Json.Record
import Gatehouse.Proofs.Json.Layout
import Gatehouse.Proofs.Data.Utf8
/-!
# Reading back documents

However a document is written, its text is scanned as the same draft, which has all parts of the
document with their values.  Only its numbers have to be read anew: integers beyond 64 bits become
reals, and a real is read as the nearest one for its digits.
-/

namespace Gatehouse

namespace Json

mutual

/-- The draft that is read where a document is written. -/
def reread : Json → Draft
  | .null => .null
  | .bool value => .bool value
  | .number n => .number n.reread
  | .string text => .string (some text)
  | .array items => .array (rereadItems items)
  | .object members => .object (rereadMembers members)

/-- The drafts that are read for the items of an array. -/
def rereadItems : List Json → List Draft
  | [] => []
  | item :: rest => item.reread :: rereadItems rest

/-- The drafts that are read for the members of an object. -/
def rereadMembers : List (String × Json) → List (Option String × Draft)
  | [] => []
  | (name, value) :: rest => (some name, value.reread) :: rereadMembers rest

end

theorem reread_ofText? (value : Option String) :
    (Json.ofText? value).reread = Draft.ofJson (.ofText? value) := by
  cases value <;> rfl

/-- A number of 64 bits is read as it was written. -/
theorem reread_int {n : Int} (least : Word.leastSigned ≤ n)
    (greatest : n ≤ (Word.greatest64 : Int)) : (int n).reread = .number (some (.int n)) := by
  simp only [int, reread, Number.reread_int least greatest]

theorem reread_nat {n : Nat} (fits : n ≤ Word.greatest64) :
    (nat n).reread = .number (some (.int n)) := by
  refine reread_int ?_ (Int.ofNat_le.2 fits)
  unfold Word.leastSigned
  omega

theorem rereadItems_eq_map (items : List Json) : rereadItems items = items.map reread := by
  induction items with
  | nil => rfl
  | cons item rest ih => rw [rereadItems, ih, List.map_cons]

/-- A character that a value starts with. -/
def Opens (c : Char) : Prop := Draft.isGap (some c) = false ∧ c ≠ ']' ∧ c ≠ '\x7d'

theorem Spells.exists_cons {json : Json} {text : List Char} (written : Spells json text) :
    ∃ c more, text = c :: more ∧ Opens c := by
  cases written with
  | number n =>
      obtain ⟨c, more, same, isMark⟩ := n.exists_cons_text
      refine ⟨c, more, same, ?_⟩
      rcases isMark with rfl | isDigit
      · exact ⟨rfl, by decide, by decide⟩
      · refine ⟨?_, ?_, ?_⟩
        · unfold Draft.isGap
          simp only [Bool.or_eq_false_iff, decide_eq_false_iff_not, Option.some.injEq]
          refine ⟨⟨⟨?_, ?_⟩, ?_⟩, ?_⟩ <;> rintro rfl <;> cases isDigit
        · exact Draft.ne_of_isDigit isDigit rfl
        · exact Draft.ne_of_isDigit isDigit rfl
  | _ => exact ⟨_, _, rfl, by decide, by decide, by decide⟩

end Json

namespace Draft

theorem skipGap_append {gap : List Char} (isGap : Json.IsGap gap) {c : Char}
    (opens : Draft.isGap (some c) = false) (rest : List Symbol) :
    skipGap (gap.map some ++ some c :: rest) = some c :: rest := by
  induction gap with
  | nil => simp only [skipGap, List.map_nil, List.nil_append, List.dropWhile_cons, opens,
      Bool.false_eq_true, if_false]
  | cons d more ih =>
      have isBlank := isGap d List.mem_cons_self
      have follows := ih fun other isMember => isGap other (List.mem_cons_of_mem _ isMember)
      simpa only [skipGap, List.map_cons, List.cons_append, List.dropWhile_cons, isBlank, if_true]
        using follows

theorem skipGap_written {gap : List Char} (isGap : Json.IsGap gap) {json : Json} {text : List Char}
    (written : Json.Spells json text) (rest : List Symbol) :
    skipGap (gap.map some ++ (text.map some ++ rest)) = text.map some ++ rest := by
  obtain ⟨c, more, rfl, opens, _⟩ := written.exists_cons
  exact skipGap_append isGap opens _

/-- A text that starts with a character that goes on with no number. -/
theorem endsNumber_cons {c : Char} (noDigit : c.isDigit = false) (noPoint : c ≠ '.')
    (noMark : c ≠ 'e' ∧ c ≠ 'E') (rest : List Symbol) : EndsNumber (some c :: rest) := by
  rintro symbol isHead
  cases isHead
  refine ⟨?_, ?_, ?_, ?_⟩
  · exact fun same => noPoint (Option.some.inj same)
  · exact fun same => noMark.1 (Option.some.inj same)
  · exact fun same => noMark.2 (Option.some.inj same)
  · rintro digit same
    cases same
    exact noDigit

theorem endsNumber_gap {gap : List Char} (isGap : Json.IsGap gap) {rest : List Symbol}
    (ends : EndsNumber rest) : EndsNumber (gap.map some ++ rest) := by
  cases gap with
  | nil => exact ends
  | cons c more =>
      have isBlank := isGap c List.mem_cons_self
      unfold Draft.isGap at isBlank
      simp only [Bool.or_eq_true, decide_eq_true_eq, Option.some.injEq] at isBlank
      rcases isBlank with ((rfl | rfl) | rfl) | rfl <;>
        exact endsNumber_cons rfl (by decide) (by decide) _

/-- A number is scanned as what is reread for it. -/
theorem scanValue_number {n : Json.Number} {before : List Char} {rest : List Symbol} (fuel : Nat)
    (gap : Json.IsGap before) (ends : EndsNumber rest) :
    scanValue (fuel + 1) (before.map some ++ (n.text.map some ++ rest)) =
      (.number n.reread, some rest) := by
  obtain ⟨c, more, same, isMark⟩ := n.exists_cons_text
  obtain ⟨spelling, scanned, value⟩ := n.exists_scanNumber_text ends
  have apart (d : Char) (noMinus : d ≠ '-') (noDigit : d.isDigit = false) : c ≠ d := by
    rcases isMark with rfl | isDigit
    · exact noMinus.symm
    · exact ne_of_isDigit isDigit noDigit
  rw [scanValue, skipGap_written gap (.number n)]
  rw [same, List.map_cons, List.cons_append] at scanned ⊢
  dsimp only
  rw [if_neg (apart 'n' (by decide) rfl), if_neg (apart 't' (by decide) rfl),
    if_neg (apart 'f' (by decide) rfl), if_neg (apart '"' (by decide) rfl),
    if_neg (apart '[' (by decide) rfl), if_neg (apart '\x7b' (by decide) rfl), scanned]
  dsimp only
  rw [value]

/-- The items of an array start with no closing bracket. -/
theorem skipGap_items {items : List Json} {text : List Char} (written : Json.SpellsItems items text)
    (rest : List Symbol) :
    ∃ c more, skipGap (text.map some ++ rest) = some c :: more ∧ c ≠ ']' := by
  have opened {item : Json} {before chars : List Char} (gap : Json.IsGap before)
      (writtenItem : Json.Spells item chars) (others : List Symbol) :
      ∃ c more, skipGap (before.map some ++ (chars.map some ++ others)) = some c :: more ∧
        c ≠ ']' := by
    rw [skipGap_written gap writtenItem]
    obtain ⟨c, more, rfl, _, noBracket, _⟩ := writtenItem.exists_cons
    exact ⟨c, _, rfl, noBracket⟩
  cases written with
  | last gap writtenItem trailing =>
      simp only [List.map_append, List.append_assoc]
      exact opened gap writtenItem _
  | next gap writtenItem others =>
      simp only [List.map_append, List.append_assoc]
      exact opened gap writtenItem _

/-- The members of an object start with a name. -/
theorem skipGap_members {members : List (String × Json)} {text : List Char}
    (written : Json.SpellsMembers members text) (rest : List Symbol) :
    ∃ more, skipGap (text.map some ++ rest) = some '"' :: more := by
  cases written with
  | last gap middle writtenValue trailing =>
      simp only [Json.quote, List.map_append, List.append_assoc, List.map_cons, List.cons_append]
      exact ⟨_, skipGap_append gap rfl _⟩
  | next gap middle writtenValue others =>
      simp only [Json.quote, List.map_append, List.append_assoc, List.map_cons, List.cons_append]
      exact ⟨_, skipGap_append gap rfl _⟩

theorem scanString_quoted (text : String) (rest : List Symbol) :
    (Json.quote text).map some ++ rest =
      some '"' :: ((text.toList.flatMap Json.escapeChar).map some ++ some '"' :: rest) := by
  simp only [Json.quote, List.map_append, List.map_cons, List.map_nil, List.cons_append,
    List.append_assoc, List.nil_append]

theorem textOf?_toList (text : String) : textOf? (text.toList.map some) = some text := by
  rw [textOf?_map, String.ofList_toList]

section

variable {before : List Char} {name : String} {fuel : Nat} {rest after others : List Symbol}
  {value : Draft}

/-- The last member of an object is scanned up to the brace that closes it. -/
theorem scanMembers_last (gap : Json.IsGap before)
    (scanned : scanValue fuel rest = (value, some after))
    (brace : skipGap after = some '\x7d' :: others) :
    scanMembers (fuel + 1)
        (before.map some ++ ((Json.quote name).map some ++ some ':' :: rest)) =
      ([(some name, value)], some others) := by
  have colon : skipGap (some ':' :: rest) = some ':' :: rest :=
    skipGap_append Json.isGap_nil rfl rest
  rw [scanString_quoted, scanMembers, skipGap_append gap rfl]
  simp only [scanString_escaped, colon, textOf?_toList, scanned, brace]

/-- A member is scanned up to the comma after it, and then the members that follow. -/
theorem scanMembers_next (gap : Json.IsGap before)
    (scanned : scanValue fuel rest = (value, some after))
    (comma : skipGap after = some ',' :: others) :
    scanMembers (fuel + 1)
        (before.map some ++ ((Json.quote name).map some ++ some ':' :: rest)) =
      ((some name, value) :: (scanMembers fuel others).1, (scanMembers fuel others).2) := by
  have colon : skipGap (some ':' :: rest) = some ':' :: rest :=
    skipGap_append Json.isGap_nil rfl rest
  rw [scanString_quoted, scanMembers, skipGap_append gap rfl]
  simp only [scanString_escaped, colon, textOf?_toList, scanned, comma]

end

mutual

/-- A written document is scanned as what is reread for it. -/
theorem scanValue_written : (fuel : Nat) → {json : Json} → {before text : List Char} →
    (rest : List Symbol) → Json.IsGap before → Json.Spells json text → text.length ≤ fuel →
    EndsNumber rest →
    scanValue fuel (before.map some ++ (text.map some ++ rest)) = (json.reread, some rest)
  | 0, _, _, _, _, _, written, enough, _ => by
      obtain ⟨c, more, rfl, _⟩ := written.exists_cons
      exact absurd enough (by simp)
  | fuel + 1, json, before, text, rest, gap, written, enough, ends => by
      cases written with
      | null =>
          rw [scanValue, skipGap_written gap .null]
          rfl
      | true =>
          rw [scanValue, skipGap_written gap .true]
          rfl
      | false =>
          rw [scanValue, skipGap_written gap .false]
          rfl
      | number n => exact scanValue_number fuel gap ends
      | string value =>
          rw [scanValue, skipGap_written gap (.string value), scanString_quoted]
          simp only [Char.reduceEq, if_false, if_true, scanString_escaped, textOf?_toList,
            Json.reread]
      | emptyArray =>
          rw [scanValue, skipGap_written gap .emptyArray]
          rfl
      | array writtenItems =>
          obtain ⟨c, more, opened, noBracket⟩ := skipGap_items writtenItems rest
          have scanned := scanItems_written fuel rest writtenItems (Nat.le_of_succ_le_succ enough)
          rw [scanValue, skipGap_written gap (.array writtenItems), List.map_cons, List.cons_append]
          simp only [Char.reduceEq, if_false, if_true, opened]
          split
          · rename_i same
            cases same
            exact absurd rfl noBracket
          · rw [scanned]
            rfl
      | emptyObject =>
          rw [scanValue, skipGap_written gap .emptyObject]
          rfl
      | object writtenMembers =>
          obtain ⟨more, opened⟩ := skipGap_members writtenMembers rest
          have scanned := scanMembers_written fuel rest writtenMembers
            (Nat.le_of_succ_le_succ enough)
          rw [scanValue, skipGap_written gap (.object writtenMembers), List.map_cons,
            List.cons_append]
          simp only [Char.reduceEq, if_false, if_true, opened]
          rw [scanned]
          rfl

/-- The written items of an array are scanned as what is reread for them. -/
theorem scanItems_written : (fuel : Nat) → {items : List Json} → {text : List Char} →
    (rest : List Symbol) → Json.SpellsItems items text → text.length ≤ fuel →
    scanItems fuel (text.map some ++ rest) = (Json.rereadItems items, some rest)
  | 0, _, _, _, written, enough => by
      cases written <;> simp at enough
  | fuel + 1, items, text, rest, written, enough => by
      cases written with
      | last gap writtenItem trailing =>
          rename_i after
          simp only [List.length_append, List.length_singleton] at enough
          have ends : EndsNumber (after.map some ++ some ']' :: rest) :=
            endsNumber_gap trailing (endsNumber_cons rfl (by decide) (by decide) rest)
          have scanned := scanValue_written fuel _ gap writtenItem (by omega) ends
          have bracket : skipGap (after.map some ++ some ']' :: rest) = some ']' :: rest :=
            skipGap_append trailing rfl rest
          simp only [List.map_append, List.append_assoc, List.map_cons, List.map_nil,
            List.cons_append, List.nil_append, scanItems, scanned, bracket]
          rfl
      | next gap writtenItem others =>
          rename_i more
          simp only [List.length_append, List.length_cons] at enough
          have ends : EndsNumber (some ',' :: (more.map some ++ rest)) :=
            endsNumber_cons rfl (by decide) (by decide) _
          have scanned := scanValue_written fuel _ gap writtenItem (by omega) ends
          have follows := scanItems_written fuel rest others (by omega)
          have comma : skipGap (some ',' :: (more.map some ++ rest)) = some ',' :: _ :=
            skipGap_append Json.isGap_nil rfl _
          simp only [List.map_append, List.append_assoc, List.map_cons, List.cons_append, scanItems,
            scanned, comma, follows]
          rfl

/-- The written members of an object are scanned as what is reread for them. -/
theorem scanMembers_written : (fuel : Nat) → {members : List (String × Json)} →
    {text : List Char} → (rest : List Symbol) → Json.SpellsMembers members text →
    text.length ≤ fuel →
    scanMembers fuel (text.map some ++ rest) = (Json.rereadMembers members, some rest)
  | 0, _, _, _, written, enough => by
      cases written <;> simp at enough
  | fuel + 1, members, text, rest, written, enough => by
      cases written with
      | last gap middle writtenValue trailing =>
          rename_i name _ _ _ _ after
          simp only [List.length_append, List.length_cons, List.length_nil] at enough
          have ends : EndsNumber (after.map some ++ some '\x7d' :: rest) :=
            endsNumber_gap trailing (endsNumber_cons rfl (by decide) (by decide) rest)
          have scanned := scanValue_written fuel _ middle writtenValue (by omega) ends
          have brace : skipGap (after.map some ++ some '\x7d' :: rest) = some '\x7d' :: rest :=
            skipGap_append trailing rfl rest
          simp only [List.map_append, List.append_assoc, List.map_cons, List.map_nil,
            List.cons_append, List.nil_append, scanMembers_last gap scanned brace]
          rfl
      | next gap middle writtenValue others =>
          rename_i more
          simp only [List.length_append, List.length_cons] at enough
          have ends : EndsNumber (some ',' :: (more.map some ++ rest)) :=
            endsNumber_cons rfl (by decide) (by decide) _
          have scanned := scanValue_written fuel _ middle writtenValue (by omega) ends
          have follows := scanMembers_written fuel rest others (by omega)
          have comma : skipGap (some ',' :: (more.map some ++ rest)) = some ',' :: _ :=
            skipGap_append Json.isGap_nil rfl _
          simp only [List.map_append, List.append_assoc, List.map_cons, List.cons_append,
            scanMembers_next gap scanned comma, follows]
          rfl

end

/-! ## Whole texts -/

variable {α : Type}

/-- A whole text that is written for a document is read as what is reread for it. -/
theorem readText_written (read : Reader α) {json : Json} {text : List Char}
    (written : Json.Spells json text) : readText read (String.ofList text) = read json.reread := by
  have scanned := scanValue_written (text.length + 1) [] Json.isGap_nil written
    (Nat.le_succ _) (fun _ isHead => nomatch isHead)
  simp only [List.map_nil, List.nil_append, List.append_nil] at scanned
  simp only [readText, String.toList_ofList, readAll, scan, List.length_map, scanned]
  cases read json.reread with
  | ok value => rfl
  | error reason => rfl

theorem readText_compact (read : Reader α) (json : Json) :
    readText read json.compact = read json.reread :=
  readText_written read (Json.spells_compactChars json)

theorem readText_pretty (read : Reader α) (json : Json) :
    readText read json.pretty = read json.reread :=
  readText_written read (Json.spells_prettyChars 0 json)

theorem readBytes_compact (read : Reader α) (json : Json) :
    readBytes read (Utf8.encode json.compact) = read json.reread := by
  rw [readBytes, Utf8.decode_encode]
  exact readText_compact read json

theorem readBytes_pretty (read : Reader α) (json : Json) :
    readBytes read (Utf8.encode json.pretty) = read json.reread := by
  rw [readBytes, Utf8.decode_encode]
  exact readText_pretty read json

end Draft

end Gatehouse
