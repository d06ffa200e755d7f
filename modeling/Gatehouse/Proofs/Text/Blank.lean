import Gatehouse.Text.Blank
/-!
# Splitting and trimming

A text without breaks is one part, and a break separates the parts of what is before it from the
parts of what is behind it.  So words that are joined by blanks are found again, and texts that each
end in a line feed can be read one by one.  A text without blanks is left alone by trimming.
-/

namespace Gatehouse.Text

variable {isBreak : Char → Bool} {text rest : List Char}

theorem splitWhere_of_forall_not (whole : ∀ c ∈ text, isBreak c = false) :
    splitWhere isBreak text = [text] := by
  induction text with
  | nil => rfl
  | cons c more ih =>
      have noBreak := whole c List.mem_cons_self
      have follows := ih fun other isMember => whole other (List.mem_cons_of_mem _ isMember)
      rw [splitWhere, noBreak, follows]
      rfl

theorem splitWhere_ne_nil (text : List Char) : splitWhere isBreak text ≠ [] := by
  cases text with
  | nil => simp [splitWhere]
  | cons c rest =>
      rw [splitWhere]
      split
      · simp
      · split <;> simp

/-- A break separates the parts before it from the parts behind it. -/
theorem splitWhere_break {c : Char} (isEnd : isBreak c = true) :
    splitWhere isBreak (text ++ c :: rest) =
      splitWhere isBreak text ++ splitWhere isBreak rest := by
  induction text with
  | nil => simp [splitWhere, isEnd]
  | cons d more ih =>
      rw [List.cons_append, splitWhere, ih, splitWhere]
      cases isBreak d with
      | true => rfl
      | false =>
          cases parts : splitWhere isBreak more with
          | nil => exact absurd parts (splitWhere_ne_nil more)
          | cons first others => rfl

/-- The first break ends the first part. -/
theorem splitWhere_append {c : Char} (whole : ∀ d ∈ text, isBreak d = false)
    (isEnd : isBreak c = true) :
    splitWhere isBreak (text ++ c :: rest) = text :: splitWhere isBreak rest := by
  rw [splitWhere_break isEnd, splitWhere_of_forall_not whole]
  rfl

/-- The first part is what stands before the first break. -/
theorem head?_splitWhere (text : List Char) :
    (splitWhere isBreak text).head? = some (text.takeWhile (!isBreak ·)) := by
  induction text with
  | nil => rfl
  | cons c more ih =>
      rw [splitWhere, List.takeWhile_cons]
      cases isBreak c with
      | true => rfl
      | false =>
          cases parts : splitWhere isBreak more with
          | nil => exact absurd parts (splitWhere_ne_nil more)
          | cons first others =>
              rw [parts, List.head?_cons] at ih
              exact congrArg some (congrArg (List.cons c) (Option.some.inj ih))

/-- Parts that are joined by a break are found again. -/
theorem splitWhere_intercalate {c : Char} (isEnd : isBreak c = true) {parts : List (List Char)}
    (some : parts ≠ []) (whole : ∀ part ∈ parts, ∀ d ∈ part, isBreak d = false) :
    splitWhere isBreak ([c].intercalate parts) = parts := by
  induction parts with
  | nil => contradiction
  | cons first others ih =>
      have firstWhole := whole first List.mem_cons_self
      cases others with
      | nil =>
          rw [List.intercalate_singleton]
          exact splitWhere_of_forall_not firstWhole
      | cons second more =>
          have follows := ih (List.cons_ne_nil _ _)
            fun part isMember => whole part (List.mem_cons_of_mem _ isMember)
          rw [List.intercalate_cons_cons, List.append_assoc, List.singleton_append,
            splitWhere_append firstWhole isEnd, follows]

/-- No part holds a break. -/
theorem forall_not_of_mem_splitWhere {part : List Char} (isPart : part ∈ splitWhere isBreak text) :
    ∀ c ∈ part, isBreak c = false := by
  induction text generalizing part with
  | nil =>
      cases List.mem_singleton.1 isPart
      exact List.forall_mem_nil _
  | cons d more ih =>
      rw [splitWhere] at isPart
      split at isPart
      · rcases List.mem_cons.1 isPart with rfl | isPart
        · exact List.forall_mem_nil _
        · exact ih isPart
      · rename_i noBreak
        have isSolid : isBreak d = false := Bool.eq_false_iff.2 noBreak
        split at isPart
        · cases List.mem_singleton.1 isPart
          exact List.forall_mem_singleton.2 isSolid
        · rename_i first others parts
          rw [parts] at ih
          rcases List.mem_cons.1 isPart with rfl | isPart
          · exact List.forall_mem_cons.2 ⟨isSolid, ih List.mem_cons_self⟩
          · exact ih (List.mem_cons_of_mem _ isPart)

/-- The parts between the occurrences of a separator make up the text. -/
theorem intercalate_splitWhere (separator : Char) (text : List Char) :
    [separator].intercalate (splitWhere (· = separator) text) = text := by
  induction text with
  | nil => rfl
  | cons c more ih =>
      rw [splitWhere]
      split
      · rename_i isSeparator
        rw [decide_eq_true_eq] at isSeparator
        have some : splitWhere (· = separator) more ≠ [] := splitWhere_ne_nil more
        obtain ⟨first, others, parts⟩ := List.exists_cons_of_ne_nil some
        rw [parts] at ih ⊢
        rw [List.intercalate_cons_cons, ih, isSeparator]
        rfl
      · split
        · rename_i parts
          exact absurd parts (splitWhere_ne_nil more)
        · rename_i first others parts
          rw [parts] at ih
          cases others with
          | nil =>
              rw [List.intercalate_singleton] at ih ⊢
              rw [ih]
          | cons second behind =>
              rw [List.intercalate_cons_cons] at ih ⊢
              rw [← ih]
              rfl

/-! ## Rows -/

/-- A row of characters of one kind is taken up to its end. -/
theorem takeWhile_row {isKind : Char → Bool} {row : List Char} (whole : ∀ c ∈ row, isKind c = true)
    (ends : ∀ c ∈ rest.head?, isKind c = false) : (row ++ rest).takeWhile isKind = row := by
  rw [List.takeWhile_append_of_pos whole]
  cases rest with
  | nil => rw [List.takeWhile_nil, List.append_nil]
  | cons c more =>
      have other : isKind c = false := ends c rfl
      rw [List.takeWhile_cons, other, if_neg Bool.false_ne_true, List.append_nil]

/-! ## Trimming -/

theorem dropWhile_of_forall_not {isBlank : Char → Bool} (solid : ∀ c ∈ text, isBlank c = false) :
    text.dropWhile isBlank = text := by
  cases text with
  | nil => rfl
  | cons c more =>
      rw [List.dropWhile_cons, solid c List.mem_cons_self]
      rfl

/-- A blank is no letter. -/
theorem toLower_of_isBlank {c : Char} (blank : isBlank c = true) : c.toLower = c := by
  refine dif_neg fun upper => ?_
  have low : 65 ≤ c.toNat := UInt32.le_iff_toNat_le.1 upper.1
  have high : c.toNat ≤ 90 := UInt32.le_iff_toNat_le.1 upper.2
  simp only [isBlank, Bool.or_eq_true, Bool.and_eq_true, decide_eq_true_eq] at blank
  omega

/-- A text without blanks has none to trim. -/
theorem trim_of_forall_not {text : String} (solid : ∀ c ∈ text.toList, isBlank c = false) :
    trim text = text := by
  have reversed : ∀ c ∈ text.toList.reverse, isBlank c = false :=
    fun c isMember => solid c (List.mem_reverse.1 isMember)
  rw [trim, trimLeft, dropWhile_of_forall_not solid, trimRight, dropWhile_of_forall_not reversed,
    List.reverse_reverse, String.ofList_toList]

/-- A text is what is left of it when both of its ends are stripped, between what they lose. -/
theorem exists_edges (isEdge : Char → Bool) (text : List Char) : ∃ before after,
    text = before ++ ((text.dropWhile isEdge).reverse.dropWhile isEdge).reverse ++ after ∧
      (∀ c ∈ before, isEdge c = true) ∧ ∀ c ∈ after, isEdge c = true := by
  have isFront {list : List Char} : ∀ c ∈ list.takeWhile isEdge, isEdge c = true :=
    List.all_eq_true.1 List.all_takeWhile
  refine ⟨text.takeWhile isEdge, ((text.dropWhile isEdge).reverse.takeWhile isEdge).reverse,
    ?_, isFront, fun c isMember => isFront c (List.mem_reverse.1 isMember)⟩
  rw [List.append_assoc, ← List.reverse_append, List.takeWhile_append_dropWhile,
    List.reverse_reverse, List.takeWhile_append_dropWhile]

/-- A text is what trimming leaves of it, between blanks. -/
theorem exists_blanks (text : String) : ∃ before after,
    text.toList = before ++ (trim text).toList ++ after ∧
      (∀ c ∈ before, isBlank c = true) ∧ ∀ c ∈ after, isBlank c = true := by
  rw [trim, String.toList_ofList]
  exact exists_edges isBlank text.toList

theorem trimLeft_append {before : List Char} (blank : ∀ c ∈ before, isBlank c = true) :
    trimLeft (before ++ text) = trimLeft text :=
  List.dropWhile_append_of_pos blank

theorem trimRight_append {after : List Char} (blank : ∀ c ∈ after, isBlank c = true) :
    trimRight (text ++ after) = trimRight text := by
  rw [trimRight, List.reverse_append,
    List.dropWhile_append_of_pos fun c isMember => blank c (List.mem_reverse.1 isMember), trimRight]

/-- Blanks in front of a text are trimmed. -/
theorem trim_append_left {before : List Char} (blank : ∀ c ∈ before, isBlank c = true) :
    trim (String.ofList (before ++ text)) = trim (String.ofList text) := by
  rw [trim, trim, String.toList_ofList, String.toList_ofList, trimLeft_append blank]

/-- Blanks behind a text without blanks are trimmed. -/
theorem trim_append_right {after : List Char} (solid : ∀ c ∈ text, isBlank c = false)
    (blank : ∀ c ∈ after, isBlank c = true) :
    trim (String.ofList (text ++ after)) = String.ofList text := by
  cases text with
  | nil =>
      have nothing : trimLeft (after ++ []) = [] := trimLeft_append blank
      rw [List.append_nil] at nothing
      rw [trim, String.toList_ofList, List.nil_append, nothing]
      rfl
  | cons c rest =>
      have starts : trimLeft (c :: rest ++ after) = c :: rest ++ after := by
        rw [trimLeft, List.cons_append, List.dropWhile_cons, solid c List.mem_cons_self]
        rfl
      rw [trim, String.toList_ofList, starts, trimRight_append blank, trimRight,
        dropWhile_of_forall_not fun d isMember => solid d (List.mem_reverse.1 isMember),
        List.reverse_reverse]

/-! ## Cuts -/

/-- A text is cut at the first separator. -/
theorem cut?_append {separator : Char} (whole : separator ∉ text) :
    cut? separator (text ++ separator :: rest) = some (text, rest) := by
  induction text with
  | nil => simp [cut?]
  | cons c more ih =>
      obtain ⟨other, whole⟩ := not_or.1 (mt List.mem_cons.2 whole)
      rw [List.cons_append, cut?, if_neg (Ne.symm other), ih whole]
      rfl

/-- What is cut in two are the parts with the separator between them. -/
theorem eq_of_cut? {separator : Char} {before after : List Char}
    (cut : cut? separator text = some (before, after)) : text = before ++ separator :: after := by
  induction text generalizing before with
  | nil => cases cut
  | cons c more ih =>
      rw [cut?] at cut
      split at cut
      · rename_i same
        cases cut
        rw [same, List.nil_append]
      · obtain ⟨⟨first, second⟩, found, parts⟩ := Option.map_eq_some_iff.1 cut
        cases parts
        rw [List.cons_append, ih found]

/-! ## Words -/

/-- A text with something in it and no blank. -/
def IsWord (text : String) : Prop := text ≠ "" ∧ ∀ c ∈ text.toList, isBlank c = false

instance : DecidablePred IsWord := fun text =>
  decidable_of_iff (text ≠ "" ∧ text.toList.all fun c => !isBlank c) (by simp [IsWord])

/-- What stands before the first blank of a text. -/
def firstWord (text : String) : String := String.ofList (text.toList.takeWhile (!isBlank ·))

theorem firstWord_of_solid {text : String} (solid : ∀ c ∈ text.toList, isBlank c = false) :
    firstWord text = text := by
  have kept : (text.toList ++ []).takeWhile (!isBlank ·) = text.toList :=
    takeWhile_row (fun c isMember => by rw [solid c isMember, Bool.not_false]) nofun
  rw [firstWord, ← List.append_nil text.toList, kept, String.ofList_toList]

/-- The words of a text that starts with no blank start with what stands before the first one. -/
theorem head?_words {text : String} {c : Char} (starts : text.toList.head? = some c)
    (solid : isBlank c = false) : (words text).head? = some (firstWord text) := by
  obtain ⟨more, parts⟩ := List.head?_eq_some_iff.1 (@head?_splitWhere isBlank text.toList)
  obtain ⟨rest, isText⟩ := List.head?_eq_some_iff.1 starts
  have some : (text.toList.takeWhile (!isBlank ·)).isEmpty = false := by
    rw [isText, List.takeWhile_cons, solid]
    rfl
  rw [words, parts, List.filter_cons, some]
  rfl

theorem words_of_isWord {text : String} (isWord : IsWord text) : words text = [text] := by
  rw [words, splitWhere_of_forall_not isWord.2]
  simp [isWord.1]

theorem words_append (first rest : String) :
    words (first ++ " " ++ rest) = words first ++ words rest := by
  have blank : " ".toList = [' '] := rfl
  simp only [words, String.toList_append, blank, List.append_assoc, List.singleton_append,
    splitWhere_break (show isBlank ' ' = true by decide), List.filter_append, List.map_append]

/-- The words of texts that are joined by a blank are those of the texts. -/
theorem words_intercalate (parts : List String) :
    words (" ".intercalate parts) = parts.flatMap words := by
  induction parts with
  | nil => rfl
  | cons first others ih =>
      cases others with
      | nil => simp
      | cons second more =>
          rw [String.intercalate_cons_cons, words_append, ih]
          rfl

/-- Words that are joined by a blank are found again. -/
theorem words_intercalate_of_isWord {parts : List String} (solid : ∀ part ∈ parts, IsWord part) :
    words (" ".intercalate parts) = parts := by
  have same : parts.map words = parts.map fun part => [part] :=
    List.map_congr_left fun part isMember => words_of_isWord (solid part isMember)
  rw [words_intercalate, List.flatMap_def, same, ← List.flatMap_def, List.flatMap_singleton']

/-- A blank at the end of a text adds no word. -/
theorem words_append_blank {text : List Char} {c : Char} (blank : isBlank c = true) :
    words (String.ofList (text ++ [c])) = words (String.ofList text) := by
  simp [words, splitWhere_break blank, splitWhere]

/-! ## Lines -/

/-- A line feed ends the lines before it, and what is behind it starts anew. -/
theorem lines_append (first rest : String) :
    lines (first ++ "\n" ++ rest) = lines (first ++ "\n") ++ lines rest := by
  have isEnd : (fun c : Char => decide (c = '\n')) '\n' = true := by decide
  have parts (more : List Char) : splitWhere (· = '\n') (first.toList ++ '\n' :: more) =
      splitWhere (· = '\n') first.toList ++ splitWhere (· = '\n') more := splitWhere_break isEnd
  have others : splitWhere (· = '\n') rest.toList ≠ [] := splitWhere_ne_nil rest.toList
  have last : (splitWhere (· = '\n') first.toList ++ splitWhere (· = '\n') rest.toList).getLast? =
      (splitWhere (· = '\n') rest.toList).getLast? := by
    rw [List.getLast?_append, List.getLast?_eq_some_getLast others, Option.some_or]
  have feed : "\n".toList = ['\n'] := rfl
  simp only [lines, String.toList_append, feed, List.append_assoc, List.singleton_append, parts,
    List.dropLast_append_of_ne_nil others, last,
    List.map_append, splitWhere, List.dropLast_concat]
  split <;> simp

theorem splitWhere_feed {text : List Char} (whole : '\n' ∉ text) :
    splitWhere (· = '\n') (text ++ ['\n']) = [text, []] := by
  have isEnd : (fun c : Char => decide (c = '\n')) '\n' = true := by decide
  apply splitWhere_append _ isEnd
  intro c isMember
  apply decide_eq_false
  rintro rfl
  exact whole isMember

/-- A text without line feeds that ends with no carriage return is one line. -/
theorem lines_feed {text : String} (whole : '\n' ∉ text.toList)
    (noReturn : text.toList.getLast? ≠ some '\r') : lines (text ++ "\n") = [text] := by
  have feed : "\n".toList = ['\n'] := rfl
  simp [lines, feed, splitWhere_feed whole, noReturn]

/-- Such texts, each with a line feed after it, are the lines of the text that they make up. -/
theorem lines_join {texts : List String} (whole : ∀ text ∈ texts, '\n' ∉ text.toList)
    (noReturn : ∀ text ∈ texts, text.toList.getLast? ≠ some '\r') :
    lines (String.join (texts.map (· ++ "\n"))) = texts := by
  induction texts with
  | nil => rfl
  | cons text rest ih =>
      obtain ⟨wholeText, wholeRest⟩ := List.forall_mem_cons.1 whole
      obtain ⟨noReturnText, noReturnRest⟩ := List.forall_mem_cons.1 noReturn
      rw [List.map_cons, String.join_cons, lines_append, lines_feed wholeText noReturnText,
        ih wholeRest noReturnRest, List.singleton_append]

/-- A text without line feeds is one line, which may lack a carriage return at the end of the text
but has the same words. -/
theorem exists_lines_eq {text : String} (whole : '\n' ∉ text.toList) :
    ∃ line, lines (text ++ "\n") = [line] ∧ words line = words text := by
  by_cases returns : text.toList.getLast? = some '\r'
  · obtain ⟨front, split⟩ := List.getLast?_eq_some_iff.1 returns
    refine ⟨String.ofList text.toList.dropLast, ?_, ?_⟩
    · have feed : "\n".toList = ['\n'] := rfl
      simp [lines, feed, splitWhere_feed whole, returns]
    · have blank : isBlank '\r' = true := by decide
      rw [split, List.dropLast_concat, ← words_append_blank blank, ← split, String.ofList_toList]
  · exact ⟨text, lines_feed whole returns, rfl⟩

end Gatehouse.Text
