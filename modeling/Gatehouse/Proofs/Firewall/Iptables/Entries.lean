import Gatehouse.Proofs.Firewall.Iptables.Listing
/-!
# Lines as they are printed, and what is made of them

A line of the chain says one thing after another: what a packet has to satisfy, or must not, what is
remarked about the rule, and what becomes of the packet.  Each of these is a flag with its values,
and a value that may be any text, such as a remark, is put in quotes.

A line is recognised by its words, whatever quotes they are in, and for each of four flags by the
first of them.  So every line that a rule deletes is recognised as this rule.  As long as no value
holds one of the four flags a line is recognised by the first things it says under them, and by
nothing else: conditions beside them do not count, and neither does a negation, nor the rest of a
remark that begins with the right word.
-/

namespace Gatehouse.Firewall.Iptables

open Text

/-! ## Quotes -/

/-- The characters that are escaped between quotes. -/
def isSpecial (c : Char) : Bool := c = '"' || c = '\\' || c = '\''

/-- How a character is printed between quotes. -/
def escaped (c : Char) : List Char := if isSpecial c then ['\\', c] else [c]

/-- No character has to be escaped. -/
def Plain (text : List Char) : Prop := ∀ c ∈ text, isSpecial c = false

instance : DecidablePred Plain := fun text =>
  decidable_of_iff (text.all fun c => !isSpecial c) (by simp [Plain])

theorem escaped_of_special {c : Char} (special : isSpecial c = true) : escaped c = ['\\', c] :=
  if_pos special

theorem escaped_of_ordinary {c : Char} (ordinary : isSpecial c = false) : escaped c = [c] :=
  if_neg (by simp [ordinary])

theorem flatMap_escaped_of_plain {text : List Char} (plain : Plain text) :
    text.flatMap escaped = text := by
  induction text with
  | nil => rfl
  | cons c rest ih =>
      obtain ⟨ordinary, plainRest⟩ := List.forall_mem_cons.1 plain
      rw [List.flatMap_cons, escaped_of_ordinary ordinary, ih plainRest, List.singleton_append]

/-- Between quotes no text starts with a quote. -/
theorem head?_flatMap_escaped (text : List Char) : (text.flatMap escaped).head? ≠ some '"' := by
  cases text with
  | nil => simp
  | cons c rest =>
      rw [List.flatMap_cons]
      cases special : isSpecial c with
      | true =>
          rw [escaped_of_special special]
          simp
      | false =>
          rw [escaped_of_ordinary special]
          rintro same
          cases Option.some.inj same
          exact absurd special (by decide)

/-- So between quotes only the empty text is nothing but quotes. -/
theorem eq_nil_of_flatMap_escaped {text : List Char}
    (quotes : ∀ c ∈ text.flatMap escaped, c = '"') : text = [] := by
  have noHead : (text.flatMap escaped).head? = none :=
    Option.eq_none_iff_forall_ne_some.2 fun c isHead =>
      head?_flatMap_escaped text (quotes c (List.mem_of_head? isHead) ▸ isHead)
  cases text with
  | nil => rfl
  | cons c rest =>
      have empty := (List.append_eq_nil_iff.1 (List.head?_eq_none_iff.1 noHead)).1
      cases special : isSpecial c with
      | true => rw [escaped_of_special special] at empty; cases empty
      | false => rw [escaped_of_ordinary special] at empty; cases empty

/-- What starts between quotes with something plain starts with it anyway. -/
theorem exists_of_flatMap_escaped {front rest text : List Char} (plain : Plain front)
    (same : text.flatMap escaped = front ++ rest) :
    ∃ more, text = front ++ more ∧ more.flatMap escaped = rest := by
  induction front generalizing text with
  | nil => exact ⟨text, rfl, same⟩
  | cons c front ih =>
      obtain ⟨ordinary, plainRest⟩ := List.forall_mem_cons.1 plain
      cases text with
      | nil => cases same
      | cons d others =>
          rw [List.flatMap_cons, List.cons_append] at same
          cases special : isSpecial d with
          | true =>
              rw [escaped_of_special special] at same
              cases (List.cons.inj same).1
              exact absurd ordinary (by decide)
          | false =>
              rw [escaped_of_ordinary special, List.singleton_append] at same
              obtain ⟨rfl, follows⟩ := List.cons.inj same
              obtain ⟨more, rfl, isRest⟩ := ih plainRest follows
              exact ⟨more, rfl, isRest⟩

/-- Blanks stay what they are between quotes, and nothing becomes one. -/
theorem takeWhile_flatMap_escaped (text : List Char) :
    (text.flatMap escaped).takeWhile (!isBlank ·) =
      (text.takeWhile (!isBlank ·)).flatMap escaped := by
  induction text with
  | nil => rfl
  | cons c rest ih =>
      rw [List.flatMap_cons, List.takeWhile_cons]
      cases special : isSpecial c with
      | true =>
          have solid : isBlank c = false := by
            simp only [isSpecial, Bool.or_eq_true, decide_eq_true_eq] at special
            rcases special with (rfl | rfl) | rfl <;> decide
          have slash : isBlank '\\' = false := by decide
          simp [escaped_of_special special, slash, solid, ih]
      | false =>
          rw [escaped_of_ordinary special, List.singleton_append, List.takeWhile_cons, ih]
          split
          · rw [List.flatMap_cons, escaped_of_ordinary special, List.singleton_append]
          · rfl

/-- Stripping takes the quote in front of a text between quotes, and all quotes at its end. -/
theorem unquote_quoted {text tail : List Char} (starts : text.head? ≠ some '"')
    (quotes : ∀ c ∈ tail, c = '"') :
    unquote (String.ofList ('"' :: (text ++ tail))) =
      String.ofList (text.reverse.dropWhile (· = '"')).reverse := by
  have isQuote : ∀ c ∈ tail, decide (c = '"') = true :=
    fun c isMember => decide_eq_true (quotes c isMember)
  rw [unquote, String.toList_ofList, List.dropWhile_cons_of_pos (by decide)]
  cases text with
  | nil =>
      rw [List.nil_append, ← List.append_nil tail, List.dropWhile_append_of_pos isQuote]
      rfl
  | cons c rest =>
      have other : decide (c = '"') = false :=
        decide_eq_false fun same => starts (congrArg some same)
      rw [List.cons_append, List.dropWhile_cons, other, if_neg Bool.false_ne_true,
        ← List.cons_append, List.reverse_append, List.dropWhile_append_of_pos
          fun c isMember => isQuote c (List.mem_reverse.1 isMember)]

/-- What stripping leaves of an escaped text is plain only if nothing had to be escaped. -/
theorem strip_flatMap_escaped_iff {text mark : List Char} (plain : Plain mark) :
    ((text.flatMap escaped).reverse.dropWhile (· = '"')).reverse = mark ↔ text = mark := by
  constructor
  · intro same
    have parts : text.flatMap escaped =
        mark ++ ((text.flatMap escaped).reverse.takeWhile (· = '"')).reverse := by
      rw [← same, ← List.reverse_append, List.takeWhile_append_dropWhile, List.reverse_reverse]
    obtain ⟨more, isText, isMore⟩ := exists_of_flatMap_escaped plain parts
    have quotes : ∀ c ∈ more.flatMap escaped, c = '"' := by
      intro c isMember
      rw [isMore, List.mem_reverse] at isMember
      exact of_decide_eq_true (List.all_eq_true.1 List.all_takeWhile c isMember)
    rw [isText, eq_nil_of_flatMap_escaped quotes, List.append_nil]
  · rintro rfl
    have noQuote : ∀ c ∈ text.reverse, decide (c = '"') = false := by
      intro c isMember
      refine decide_eq_false ?_
      rintro rfl
      exact absurd (plain '"' (List.mem_reverse.1 isMember)) (by decide)
    rw [flatMap_escaped_of_plain plain, dropWhile_of_forall_not noQuote, List.reverse_reverse]

/-- A number needs no quotes and looks like no flag. -/
theorem plain_ofNat (n : Nat) :
    Plain (ofNat n).toList ∧ (ofNat n).toList.head? ≠ some '-' := by
  have digit : ∀ c ∈ (ofNat n).toList, c.isDigit = true := by
    intro c isMember
    rw [ofNat, String.toList_ofList] at isMember
    exact isDigit_of_mem_digits isMember
  refine ⟨fun c isMember => ?_, fun starts => ?_⟩
  · rw [Bool.eq_false_iff]
    intro special
    simp only [isSpecial, Bool.or_eq_true, decide_eq_true_eq] at special
    rcases special with (rfl | rfl) | rfl <;> exact absurd (digit _ isMember) (by decide)
  · exact absurd (digit _ (List.mem_of_head? starts)) (by decide)

/-! ## Values -/

/-- A value, which is printed as it is or between quotes. -/
inductive Value where
  | bare (word : String)
  | quoted (text : String)

namespace Value

/-- What the value is. -/
def text : Value → String
  | bare word => word
  | quoted text => text

/-- How the value is printed. -/
def shown : Value → String
  | bare word => word
  | quoted text => String.ofList ('"' :: (text.toList.flatMap escaped ++ ['"']))

/-- Only a word without quotes is printed as it is. -/
def Printed : Value → Prop
  | bare word => IsWord word ∧ '"' ∉ word.toList
  | quoted _ => True

instance : DecidablePred Printed
  | bare word => inferInstanceAs (Decidable (IsWord word ∧ '"' ∉ word.toList))
  | quoted _ => .isTrue trivial

/-- A printed value starts with its first word. -/
theorem head?_words_shown {value : Value} (printed : value.Printed) :
    (words value.shown).head? = some (firstWord value.shown) := by
  cases value with
  | bare word =>
      have nonempty : word.toList ≠ [] := by simpa using printed.1.1
      exact head?_words (List.head?_eq_some_head nonempty)
        (printed.1.2 _ (List.head_mem nonempty))
  | quoted text =>
      have starts : (shown (quoted text)).toList.head? = some '"' := by
        rw [shown, String.toList_ofList, List.head?_cons]
      exact head?_words starts (by decide)

/-- The quotes stripped, the first word is a plain one exactly if the value starts with it. -/
theorem unquote_firstWord_shown_iff {value : Value} (printed : value.Printed) {mark : String}
    (plain : Plain mark.toList) :
    unquote (firstWord value.shown) = mark ↔ firstWord value.text = mark := by
  cases value with
  | bare word =>
      have noQuote : ∀ c ∈ word.toList, c ≠ '"' := fun c isMember same =>
        printed.2 (same ▸ isMember)
      rw [text, shown, firstWord_of_solid printed.1.2, unquote_of_forall_ne noQuote]
  | quoted text =>
      obtain ⟨tail, quotes, starts⟩ : ∃ tail : List Char, (∀ c ∈ tail, c = '"') ∧
          firstWord (shown (quoted text)) = String.ofList
            ('"' :: ((text.toList.takeWhile (!isBlank ·)).flatMap escaped ++ tail)) := by
        have solid : isBlank '"' = false := by decide
        rw [firstWord, shown, String.toList_ofList, List.takeWhile_cons, solid, Bool.not_false,
          if_pos rfl, ← takeWhile_flatMap_escaped, List.takeWhile_append]
        split
        · rename_i whole
          refine ⟨['"'], List.forall_mem_singleton.2 rfl, ?_⟩
          rw [(List.takeWhile_prefix _).eq_of_length whole, List.takeWhile_cons, solid]
          rfl
        · exact ⟨[], List.forall_mem_nil _, by rw [List.append_nil]⟩
      rw [starts, unquote_quoted (head?_flatMap_escaped _) quotes, ← String.toList_inj,
        String.toList_ofList, strip_flatMap_escaped_iff plain, Value.text, firstWord,
        ← String.toList_inj, String.toList_ofList]

/-- The words of a plain value that looks like no flag look like no flag either. -/
theorem head?_ne_dash_of_mem_words {value : Value} (printed : value.Printed)
    (isWord : IsWord value.text) (plain : Plain value.text.toList)
    (noFlag : value.text.toList.head? ≠ some '-') {word : String}
    (isMember : word ∈ words value.shown) : word.toList.head? ≠ some '-' := by
  cases value with
  | bare text =>
      rw [shown, words_of_isWord printed.1, List.mem_singleton] at isMember
      rw [isMember]
      exact noFlag
  | quoted text =>
      have isShown : shown (quoted text) = String.ofList ('"' :: (text.toList ++ ['"'])) := by
        have plain : Plain text.toList := plain
        rw [shown, flatMap_escaped_of_plain plain]
      have oneWord : IsWord (shown (quoted text)) := by
        rw [isShown]
        refine ⟨by simp, ?_⟩
        have quote : isBlank '"' = false := by decide
        rw [String.toList_ofList, List.forall_mem_cons, List.forall_mem_append,
          List.forall_mem_singleton]
        exact ⟨quote, isWord.2, quote⟩
      rw [words_of_isWord oneWord, List.mem_singleton] at isMember
      rw [isMember, isShown, String.toList_ofList, List.head?_cons]
      decide

end Value

/-! ## Clauses -/

/-- The flags by which a line is recognised. -/
def watched : List String := ["--comment", "-j", "-p", "--dport"]

/-- One thing that a line says: a flag with its values, or the opposite. -/
structure Clause where
  negated : Bool
  flag : String
  values : List Value

namespace Clause

variable {clause : Clause}

/-- How the clause is printed. -/
def parts (clause : Clause) : List String :=
  (if clause.negated then ["!"] else []) ++ clause.flag :: clause.values.map Value.shown

/-- The words behind the flag. -/
def behind (clause : Clause) : List String := clause.values.flatMap fun value => words value.shown

/-- No word behind the flag is one of the flags that are looked for. -/
def Quiet (clause : Clause) : Prop := ∀ word ∈ clause.behind, word ∉ watched

/-- What is printed under a flag.  A remark, a target, a protocol and a port are one value each, of
which only the remark may need quotes; protocols are printed by their names, and ports with their
digits. -/
inductive Printed : Clause → Prop where
  | remark (negated : Bool) {value : Value} (printed : value.Printed) :
      Printed ⟨negated, "--comment", [value]⟩
  | target (negated : Bool) {word : String} (printed : Value.Printed (.bare word)) :
      Printed ⟨negated, "-j", [.bare word]⟩
  | protocol (negated : Bool) {word : String} (printed : Value.Printed (.bare word))
      (byName : ∀ protocol, Protocol.parse? word = some protocol → word = protocol.name) :
      Printed ⟨negated, "-p", [.bare word]⟩
  | port (negated : Bool) {word : String} (printed : Value.Printed (.bare word))
      (inDigits : ∀ n, readNat? 65535 word.toList = some n → word = ofNat n) :
      Printed ⟨negated, "--dport", [.bare word]⟩
  | other (negated : Bool) {flag : String} {values : List Value} (isWord : IsWord flag)
      (unwatched : flag ∉ watched) (printed : ∀ value ∈ values, value.Printed) :
      Printed ⟨negated, flag, values⟩

/-- What the clause says, however it is printed. -/
def meaning (clause : Clause) : Bool × String × List String :=
  (clause.negated, clause.flag, clause.values.map Value.text)

/-- The clause says that a module is in use that checks nothing unless another clause says what. -/
def isLoad (clause : Clause) : Bool :=
  ["tcp", "udp", "comment"].any fun name => clause.meaning = (false, "-m", [name])

theorem Printed.isWord_flag (printed : clause.Printed) : IsWord clause.flag := by
  have words : ∀ flag ∈ watched, IsWord flag := by decide
  cases printed with
  | other _ isWord => exact isWord
  | _ => exact words _ (by simp [watched])

theorem Printed.value (printed : clause.Printed) : ∀ value ∈ clause.values, value.Printed := by
  cases printed with
  | other _ _ _ printed => exact printed
  | _ => exact List.forall_mem_singleton.2 ‹_›

theorem Printed.single (printed : clause.Printed) (isWatched : clause.flag ∈ watched) :
    ∃ value, clause.values = [value] := by
  cases printed with
  | other _ _ unwatched => exact absurd isWatched unwatched
  | _ => exact ⟨_, rfl⟩

theorem Printed.exists_meaning (printed : clause.Printed) (isWatched : clause.flag ∈ watched) :
    ∃ text, clause.meaning = (clause.negated, clause.flag, [text]) := by
  obtain ⟨value, isValue⟩ := printed.single isWatched
  exact ⟨value.text, by rw [meaning, isValue, List.map_singleton]⟩

theorem Printed.bare (printed : clause.Printed) (isWatched : clause.flag ∈ watched)
    (noRemark : clause.flag ≠ "--comment") : ∃ word, clause.values = [.bare word] := by
  cases printed with
  | remark => exact absurd rfl noRemark
  | other _ _ unwatched => exact absurd isWatched unwatched
  | _ => exact ⟨_, rfl⟩

theorem Printed.byName (printed : clause.Printed) (isProtocol : clause.flag = "-p") :
    ∀ value ∈ clause.values, ∀ protocol,
      Protocol.parse? value.text = some protocol → value.text = protocol.name := by
  cases printed with
  | protocol _ _ byName => exact List.forall_mem_singleton.2 byName
  | other _ _ unwatched =>
      cases isProtocol
      exact absurd unwatched (by decide)
  | _ => simp at isProtocol

theorem Printed.inDigits (printed : clause.Printed) (isPort : clause.flag = "--dport") :
    ∀ value ∈ clause.values, ∀ n,
      readNat? 65535 value.text.toList = some n → value.text = ofNat n := by
  cases printed with
  | port _ _ inDigits => exact List.forall_mem_singleton.2 inDigits
  | other _ _ unwatched =>
      cases isPort
      exact absurd unwatched (by decide)
  | _ => simp at isPort

theorem printed_protocol (negated : Bool) (protocol : Protocol) :
    Printed ⟨negated, "-p", [.bare protocol.name]⟩ := by
  have noQuote : '"' ∉ protocol.name.toList := by cases protocol <;> decide
  refine .protocol negated ⟨protocol.isWord_name, noQuote⟩ fun other known => ?_
  rw [Protocol.parse?_name] at known
  rw [Option.some.inj known]

theorem printed_port (negated : Bool) {n : Nat} (bounded : n ≤ 65535) :
    Printed ⟨negated, "--dport", [.bare (ofNat n)]⟩ := by
  have noQuote : '"' ∉ (ofNat n).toList := fun isMember =>
    absurd ((plain_ofNat n).1 _ isMember) (by decide)
  refine .port negated ⟨isWord_ofNat n, noQuote⟩ fun other read => ?_
  rw [ofNat, String.toList_ofList, readNat?_digits bounded] at read
  rw [Option.some.inj read]

theorem exists_of_isLoad (clause : Clause) (load : clause.isLoad = true) :
    ∃ name ∈ ["tcp", "udp", "comment"], clause.meaning = (false, "-m", [name]) := by
  obtain ⟨name, isName, means⟩ := List.any_eq_true.1 load
  exact ⟨name, isName, of_decide_eq_true means⟩

theorem words_parts (printed : clause.Printed) :
    clause.parts.flatMap words =
      (if clause.negated then ["!"] else []) ++ clause.flag :: clause.behind := by
  have mark : words "!" = ["!"] := words_of_isWord (by decide)
  rw [parts, List.flatMap_append, List.flatMap_cons, words_of_isWord printed.isWord_flag,
    List.flatMap_map, behind]
  cases clause.negated with
  | true => rw [if_pos rfl, List.flatMap_singleton, mark]; rfl
  | false => rfl

end Clause

/-! ## Entries -/

/-- What a line says. -/
abbrev Entry := List Clause

namespace Entry

/-- How the entry is printed. -/
def line (entry : Entry) : String :=
  " ".intercalate ("-A" :: chain :: entry.flatMap Clause.parts)

/-- The first thing that is said under a flag. -/
def first? (flag : String) (entry : Entry) : Option Value :=
  (entry.find? (·.flag = flag)).bind (·.values.head?)

/-- The text of the first thing that is said under a flag. -/
def said? (flag : String) (entry : Entry) : Option String := (entry.first? flag).map Value.text

variable {entry : Entry}

theorem first?_cons (flag : String) (clause : Clause) (rest : Entry) :
    first? flag (clause :: rest) =
      if clause.flag = flag then clause.values.head? else first? flag rest := by
  by_cases same : clause.flag = flag <;> simp [first?, same]

theorem words_line (entry : Entry) :
    words entry.line = "-A" :: chain :: entry.flatMap fun clause => clause.parts.flatMap words := by
  have start : words "-A" = ["-A"] ∧ words chain = [chain] :=
    ⟨words_of_isWord (by decide), words_of_isWord (by decide)⟩
  rw [line, words_intercalate, List.flatMap_cons, List.flatMap_cons, start.1, start.2,
    List.flatMap_assoc]
  rfl

/-- If no other clause interferes, the value of a flag is the first word under it. -/
theorem valueAfter?_line {flag : String} (isWatched : flag ∈ watched)
    (printed : ∀ clause ∈ entry, clause.Printed)
    (quiet : ∀ clause ∈ entry, clause.flag ≠ flag → clause.Quiet) :
    valueAfter? flag (words entry.line) =
      (entry.first? flag).map fun value => unquote (firstWord value.shown) := by
  have others : ∀ word ∈ watched, word ≠ "-A" ∧ word ≠ chain ∧ word ≠ "!" := by decide
  obtain ⟨notAdd, notChain, notMark⟩ := others flag isWatched
  rw [words_line, valueAfter?, if_neg notAdd.symm, valueAfter?, if_neg notChain.symm]
  induction entry with
  | nil => rfl
  | cons clause rest ih =>
      obtain ⟨printedClause, printedRest⟩ := List.forall_mem_cons.1 printed
      obtain ⟨quietClause, quietRest⟩ := List.forall_mem_cons.1 quiet
      have sign : flag ∉ if clause.negated then ["!"] else [] := by
        cases clause.negated <;> simp [notMark]
      rw [List.flatMap_cons, Clause.words_parts printedClause, List.append_assoc,
        valueAfter?_append sign, List.cons_append, valueAfter?]
      by_cases same : clause.flag = flag
      · obtain ⟨value, isValue⟩ := printedClause.single (same ▸ isWatched)
        have isFirst : (words value.shown).head? = some (firstWord value.shown) :=
          Value.head?_words_shown (printedClause.value value (isValue ▸ List.mem_cons_self))
        rw [if_pos same, first?_cons, if_pos same, Clause.behind, isValue, List.flatMap_singleton,
          List.head?_append, isFirst]
        rfl
      · rw [if_neg same, first?_cons, if_neg same,
          valueAfter?_append fun isMember => quietClause same flag isMember isWatched]
        exact ih printedRest quietRest

theorem exists_of_first? {flag : String} {value : Value} (found : entry.first? flag = some value) :
    ∃ clause ∈ entry, clause.flag = flag ∧ value ∈ clause.values := by
  obtain ⟨clause, isFound, isHead⟩ := Option.bind_eq_some_iff.1 found
  have isFlag := List.find?_some isFound
  exact ⟨clause, List.mem_of_find?_eq_some isFound, of_decide_eq_true isFlag,
    List.mem_of_head? isHead⟩

/-- The remark is the right one as soon as it begins with the right word. -/
theorem valueAfter?_remark_iff (printed : ∀ clause ∈ entry, clause.Printed)
    (quiet : ∀ clause ∈ entry, clause.flag ≠ "--comment" → clause.Quiet) :
    valueAfter? "--comment" (words entry.line) = some comment ↔
      (entry.said? "--comment").map firstWord = some comment := by
  rw [valueAfter?_line (by decide) printed quiet, said?, Option.map_map]
  cases found : entry.first? "--comment" with
  | none => simp only [Option.map_none]
  | some value =>
      obtain ⟨clause, isMember, _, isValue⟩ := exists_of_first? found
      have isPrinted := (printed clause isMember).value value isValue
      rw [Option.map_some, Option.map_some, Option.some_inj, Option.some_inj]
      exact Value.unquote_firstWord_shown_iff isPrinted (by decide)

/-- A value that is printed as it is is read as it is. -/
theorem valueAfter?_bare {flag : String} (isWatched : flag ∈ watched)
    (noRemark : flag ≠ "--comment")
    (printed : ∀ clause ∈ entry, clause.Printed)
    (quiet : ∀ clause ∈ entry, clause.flag ≠ flag → clause.Quiet) :
    valueAfter? flag (words entry.line) = entry.said? flag := by
  rw [valueAfter?_line isWatched printed quiet, said?]
  cases found : entry.first? flag with
  | none => simp only [Option.map_none]
  | some value =>
      obtain ⟨clause, isMember, rfl, isValue⟩ := exists_of_first? found
      have isPrinted := (printed clause isMember).value value isValue
      obtain ⟨word, isWord⟩ := (printed clause isMember).bare isWatched noRemark
      rw [isWord, List.mem_singleton] at isValue
      cases isValue
      have noQuote : ∀ c ∈ word.toList, c ≠ '"' := fun c isMember same =>
        isPrinted.2 (same ▸ isMember)
      rw [Option.map_some, Option.map_some, Value.shown, Value.text,
        firstWord_of_solid isPrinted.1.2, unquote_of_forall_ne noQuote]

/-! ### What is recognised -/

/-- The first things that the entry says under the four flags are what it would say about the rule,
of a remark the beginning. -/
structure Shows (entry : Entry) (rule : Rule) : Prop where
  remark : (entry.said? "--comment").map firstWord = some comment
  target : entry.said? "-j" = some "ACCEPT"
  protocol : entry.said? "-p" = some rule.protocol.name
  port : entry.said? "--dport" = some (ofNat rule.port.toNat)

/-- What is written in one way only is read exactly if it is written like that. -/
theorem said?_bind_eq_some_iff {α : Type} {flag : String} {read : String → Option α}
    {written : α → String} {a : α} (readsBack : read (written a) = some a)
    (canonical : ∀ clause ∈ entry, clause.flag = flag → ∀ value ∈ clause.values, ∀ a,
      read value.text = some a → value.text = written a) :
    (entry.said? flag).bind read = some a ↔ entry.said? flag = some (written a) := by
  constructor
  · intro isRead
    obtain ⟨text, said, isRead⟩ := Option.bind_eq_some_iff.1 isRead
    obtain ⟨value, found, rfl⟩ := Option.map_eq_some_iff.1 said
    obtain ⟨clause, isMember, isFlag, isValue⟩ := exists_of_first? found
    rw [said, canonical clause isMember isFlag value isValue a isRead]
  · intro said
    rw [said, Option.bind_some, readsBack]

variable {rule : Rule}

/-- If no value holds a flag, nothing but the first things under the four flags counts. -/
theorem ruleOfLine?_line_iff (printed : ∀ clause ∈ entry, clause.Printed)
    (quiet : ∀ clause ∈ entry, clause.Quiet) :
    ruleOfLine? entry.line = some rule ↔ entry.Shows rule ∧ rule.port ≠ 0 := by
  have others {flag : String} : ∀ clause ∈ entry, clause.flag ≠ flag → clause.Quiet :=
    fun clause isMember _ => quiet clause isMember
  have start : (words entry.line).head? = some "-A" ∧ (words entry.line)[1]? = some chain := by
    rw [words_line]
    exact ⟨rfl, rfl⟩
  rw [ruleOfLine?_eq_some_iff, valueAfter?_remark_iff printed others,
    valueAfter?_bare (by decide) (by decide) printed others,
    valueAfter?_bare (by decide) (by decide) printed others,
    valueAfter?_bare (by decide) (by decide) printed others,
    said?_bind_eq_some_iff (Protocol.parse?_name rule.protocol)
      fun clause isMember => (printed clause isMember).byName,
    said?_bind_eq_some_iff (readNat?_ofNat_port rule)
      fun clause isMember => (printed clause isMember).inDigits]
  constructor
  · rintro ⟨_, remark, target, protocol, port, valid⟩
    exact ⟨⟨remark, target, protocol, port⟩, valid⟩
  · rintro ⟨⟨remark, target, protocol, port⟩, valid⟩
    exact ⟨start, remark, target, protocol, port, valid⟩

/-! ### What a rule deletes -/

/-- What the entry says that is not just the use of a module. -/
def content (entry : Entry) : Entry := entry.filter fun clause => !clause.isLoad

/-- What a line with the specification of a rule says. -/
def ofRule (rule : Rule) : Entry := [
  ⟨false, "-p", [.bare rule.protocol.name]⟩,
  ⟨false, "--dport", [.bare (ofNat rule.port.toNat)]⟩,
  ⟨false, "-m", [.bare "comment"]⟩,
  ⟨false, "--comment", [.bare comment]⟩,
  ⟨false, "-j", [.bare "ACCEPT"]⟩]

example (rule : Rule) : (ofRule rule).flatMap Clause.parts = specification rule := rfl

/-- The entry says the same as the specification of the rule, so this is what is deleted with it. -/
def IsOf (entry : Entry) (rule : Rule) : Prop :=
  entry.content.map Clause.meaning = (ofRule rule).content.map Clause.meaning

instance (entry : Entry) (rule : Rule) : Decidable (entry.IsOf rule) :=
  inferInstanceAs (Decidable (_ = _))

/-- What the specification of a rule says, clause by clause. -/
theorem content_ofRule (rule : Rule) :
    (ofRule rule).content.map Clause.meaning = [
      (false, "-p", [rule.protocol.name]), (false, "--dport", [ofNat rule.port.toNat]),
      (false, "--comment", [comment]), (false, "-j", ["ACCEPT"])] := by
  simp [content, ofRule, Clause.isLoad, Clause.meaning, Value.text]

/-- What is said under a flag is in the content. -/
theorem said?_eq {flag : String} (other : flag ≠ "-m") (entry : Entry) :
    entry.said? flag =
      ((entry.content.map Clause.meaning).find? (·.2.1 = flag)).bind (·.2.2.head?) := by
  induction entry with
  | nil => rfl
  | cons clause rest ih =>
      rw [said?, first?_cons]
      cases load : clause.isLoad with
      | true =>
          obtain ⟨name, _, means⟩ := clause.exists_of_isLoad load
          have unlike : clause.flag ≠ flag := by
            rw [(Prod.mk.inj (Prod.mk.inj means).2).1]
            exact other.symm
          rw [if_neg unlike, content, List.filter_cons, load]
          exact ih
      | false =>
          rw [content, List.filter_cons, load, Bool.not_false, if_pos rfl, List.map_cons]
          by_cases same : clause.flag = flag
          · simp [same, Clause.meaning]
          · have skipped : decide (clause.meaning.2.1 = flag) = false := decide_eq_false same
            rw [if_neg same, List.find?_cons, skipped]
            exact ih

/-- An entry that says the same as the specification of a rule shows the rule. -/
theorem IsOf.shows (isOf : entry.IsOf rule) : entry.Shows rule := by
  have said {flag : String} (other : flag ≠ "-m") := said?_eq other entry
  rw [isOf, content_ofRule] at said
  have remark : entry.said? "--comment" = some comment := said (by decide)
  refine ⟨?_, said (by decide), said (by decide), said (by decide)⟩
  rw [remark]
  decide

/-- What such an entry says under a flag is one plain word that looks like no flag. -/
theorem IsOf.exists_meaning (isOf : entry.IsOf rule) {clause : Clause} (isMember : clause ∈ entry) :
    ∃ text, clause.meaning.2.2 = [text] ∧ IsWord text ∧ Plain text.toList ∧
      text.toList.head? ≠ some '-' := by
  cases load : clause.isLoad with
  | true =>
      obtain ⟨name, isName, means⟩ := clause.exists_of_isLoad load
      have plain : ∀ name ∈ ["tcp", "udp", "comment"],
          IsWord name ∧ Plain name.toList ∧ name.toList.head? ≠ some '-' := by decide
      exact ⟨name, by rw [means], plain name isName⟩
  | false =>
      have isContent : clause ∈ entry.content := List.mem_filter.2 ⟨isMember, by rw [load]; rfl⟩
      have means : clause.meaning ∈ entry.content.map Clause.meaning :=
        List.mem_map_of_mem isContent
      have name : IsWord rule.protocol.name ∧ Plain rule.protocol.name.toList ∧
          rule.protocol.name.toList.head? ≠ some '-' := by
        cases rule.protocol <;> decide
      rw [isOf, content_ofRule] at means
      simp only [List.mem_cons, List.not_mem_nil, or_false] at means
      rcases means with means | means | means | means <;> rw [means]
      · exact ⟨_, rfl, name⟩
      · exact ⟨_, rfl, isWord_ofNat _, plain_ofNat _⟩
      · exact ⟨_, rfl, by decide⟩
      · exact ⟨_, rfl, by decide⟩

theorem IsOf.quiet (printed : ∀ clause ∈ entry, clause.Printed) (isOf : entry.IsOf rule) :
    ∀ clause ∈ entry, clause.Quiet := by
  intro clause isMember word isBehind isWatched
  obtain ⟨text, means, isWord, plain, noFlag⟩ := isOf.exists_meaning isMember
  obtain ⟨value, isValue, isPart⟩ := List.mem_flatMap.1 isBehind
  have isText : value.text ∈ clause.meaning.2.2 := List.mem_map_of_mem isValue
  rw [means, List.mem_singleton] at isText
  cases isText
  have flags : ∀ flag ∈ watched, flag.toList.head? = some '-' := by decide
  exact Value.head?_ne_dash_of_mem_words ((printed clause isMember).value value isValue) isWord
    plain noFlag isPart (flags word isWatched)

/-- The entry names a protocol, a port, a remark of one word and a target, and that is all. -/
structure Simple (entry : Entry) : Prop where
  flags : entry.content.map (fun clause => (clause.negated, clause.flag)) =
    [(false, "-p"), (false, "--dport"), (false, "--comment"), (false, "-j")]
  remark : ∀ text ∈ entry.said? "--comment", firstWord text = text

/-- What a simple entry says, clause by clause. -/
theorem Simple.exists_content (simple : entry.Simple)
    (printed : ∀ clause ∈ entry, clause.Printed) : ∃ protocol port remark target,
      entry.content.map Clause.meaning = [(false, "-p", [protocol]), (false, "--dport", [port]),
        (false, "--comment", [remark]), (false, "-j", [target])] := by
  have means {clause : Clause} {flag : String} (isMember : clause ∈ entry.content)
      (isFlag : (clause.negated, clause.flag) = (false, flag)) (isWatched : flag ∈ watched) :
      ∃ text, clause.meaning = (false, flag, [text]) := by
    obtain ⟨isPlain, rfl⟩ := Prod.mk.inj isFlag
    rw [← isPlain]
    exact (printed clause (List.mem_filter.1 isMember).1).exists_meaning isWatched
  obtain ⟨first, rest, isContent, isFirst, flags⟩ := List.map_eq_cons_iff.1 simple.flags
  obtain ⟨second, rest, rfl, isSecond, flags⟩ := List.map_eq_cons_iff.1 flags
  obtain ⟨third, rest, rfl, isThird, flags⟩ := List.map_eq_cons_iff.1 flags
  obtain ⟨fourth, rest, rfl, isFourth, flags⟩ := List.map_eq_cons_iff.1 flags
  obtain rfl := List.map_eq_nil_iff.1 flags
  rw [isContent] at means ⊢
  obtain ⟨protocol, meansFirst⟩ := means (by simp) isFirst (by decide)
  obtain ⟨port, meansSecond⟩ := means (by simp) isSecond (by decide)
  obtain ⟨remark, meansThird⟩ := means (by simp) isThird (by decide)
  obtain ⟨target, meansFourth⟩ := means (by simp) isFourth (by decide)
  refine ⟨protocol, port, remark, target, ?_⟩
  rw [List.map_cons, List.map_cons, List.map_cons, List.map_cons, List.map_nil, meansFirst,
    meansSecond, meansThird, meansFourth]

/-- A simple entry that shows a rule says what the specification of the rule says. -/
theorem Shows.isOf (printed : ∀ clause ∈ entry, clause.Printed) (simple : entry.Simple)
    (shows : entry.Shows rule) : entry.IsOf rule := by
  obtain ⟨protocol, port, remark, target, means⟩ := simple.exists_content printed
  have said {flag : String} (other : flag ≠ "-m") := said?_eq other entry
  rw [means] at said
  have isRemark : entry.said? "--comment" = some remark := said (by decide)
  have isTarget : entry.said? "-j" = some target := said (by decide)
  have isProtocol : entry.said? "-p" = some protocol := said (by decide)
  have isPort : entry.said? "--dport" = some port := said (by decide)
  obtain ⟨shownRemark, shownTarget, shownProtocol, shownPort⟩ := shows
  rw [isRemark, Option.map_some, simple.remark remark isRemark] at shownRemark
  rw [IsOf, means, content_ofRule, Option.some.inj shownRemark,
    Option.some.inj (isTarget.symm.trans shownTarget),
    Option.some.inj (isProtocol.symm.trans shownProtocol),
    Option.some.inj (isPort.symm.trans shownPort)]

end Entry

/-- Every line that a rule deletes is recognised as this rule.  Of a line that is recognised the
remark begins with the right word.  If no value holds a flag, a line is recognised exactly if it
shows the rule, and if it is a simple one this means that the rule deletes it. -/
theorem lines_are_recognised {entry : Entry} {rule : Rule}
    (printed : ∀ clause ∈ entry, clause.Printed) :
    (entry.IsOf rule → rule.port ≠ 0 → ruleOfLine? entry.line = some rule) ∧
    ((∀ clause ∈ entry, clause.flag ≠ "--comment" → clause.Quiet) →
      ruleOfLine? entry.line = some rule →
        (entry.said? "--comment").map firstWord = some comment) ∧
    ((∀ clause ∈ entry, clause.Quiet) →
      (ruleOfLine? entry.line = some rule ↔ entry.Shows rule ∧ rule.port ≠ 0) ∧
      (entry.Simple → ruleOfLine? entry.line = some rule → entry.IsOf rule)) := by
  refine ⟨fun isOf valid => ?_, fun quiet recognised => ?_,
    fun quiet => ⟨Entry.ruleOfLine?_line_iff printed quiet, fun simple recognised => ?_⟩⟩
  · exact (Entry.ruleOfLine?_line_iff printed (isOf.quiet printed)).2 ⟨isOf.shows, valid⟩
  · exact (Entry.valueAfter?_remark_iff printed quiet).1 (ruleOfLine?_eq_some_iff.1 recognised).2.1
  · exact ((Entry.ruleOfLine?_line_iff printed quiet).1 recognised).1.isOf printed simple

/-! ### Lines about one port -/

/-- The rule for the login port. -/
def login : Rule := ⟨.tcp, 22⟩

/-- What is said about one value that needs no quotes. -/
def saying (flag word : String) : Clause := ⟨false, flag, [.bare word]⟩

theorem printed_saying {flag word : String} (isWord : IsWord flag) (unwatched : flag ∉ watched)
    (printed : Value.Printed (.bare word)) : (saying flag word).Printed :=
  .other false isWord unwatched (List.forall_mem_singleton.2 printed)

/-- A line of this rule, with all modules and a remark between quotes. -/
def loginEntry : Entry := [
  saying "-p" (Protocol.name .tcp), saying "-m" "tcp", saying "--dport" (ofNat 22),
  saying "-m" "comment", ⟨false, "--comment", [.quoted "sleuth"]⟩, saying "-j" "ACCEPT"]

example : loginEntry.line =
    "-A INPUT -p tcp -m tcp --dport 22 -m comment --comment \"sleuth\" -j ACCEPT" := by decide

theorem printed_loginEntry : ∀ clause ∈ loginEntry, clause.Printed := by
  simp only [loginEntry, List.forall_mem_cons]
  exact ⟨Clause.printed_protocol false .tcp, printed_saying (by decide) (by decide) (by decide),
    Clause.printed_port false (by decide), printed_saying (by decide) (by decide) (by decide),
    .remark false trivial, .target false (by decide), List.forall_mem_nil _⟩

theorem simple_loginEntry : loginEntry.Simple where
  flags := by decide
  remark text said := by
    have isRemark : loginEntry.said? "--comment" = some "sleuth" := by decide
    cases Option.some.inj (isRemark.symm.trans said)
    decide

theorem lines_are_recognised_login :
    (∀ clause ∈ loginEntry, clause.Printed) ∧ (∀ clause ∈ loginEntry, clause.Quiet) ∧
      loginEntry.Simple ∧ loginEntry.IsOf login ∧ ruleOfLine? loginEntry.line = some login ∧
      loginEntry.Shows login ∧ (loginEntry.said? "--comment").map firstWord = some comment := by
  have isOf : loginEntry.IsOf login := by decide
  have quiet := isOf.quiet printed_loginEntry
  obtain ⟨ofRule, begins, told⟩ := @lines_are_recognised loginEntry login printed_loginEntry
  have recognised := ofRule isOf (by decide)
  exact ⟨printed_loginEntry, quiet, simple_loginEntry, (told quiet).2 simple_loginEntry recognised,
    recognised, ((told quiet).1.1 recognised).1,
    begins (fun clause isMember _ => quiet clause isMember) recognised⟩

/-- The same with a condition on where a packet comes from. -/
def narrowEntry : Entry := saying "-s" "10.0.0.0/8" :: loginEntry

/-- What somebody drops, with a remark that reads like the rest of a line. -/
def spoofedEntry : Entry := [
  saying "-s" "10.0.0.1/32", saying "-m" "comment",
  ⟨false, "--comment", [.quoted "sleuth -p tcp --dport 22 -j ACCEPT"]⟩, saying "-j" "DROP"]

/-- Two lines are recognised that the rule does not delete: one that accepts less than the rule
does, and one that accepts nothing. -/
theorem lines_of_others_are_recognised :
    (∀ clause ∈ narrowEntry, clause.Printed) ∧
      ruleOfLine? narrowEntry.line = some login ∧ ¬ narrowEntry.IsOf login ∧
    (∀ clause ∈ spoofedEntry, clause.Printed) ∧ spoofedEntry.said? "-j" = some "DROP" ∧
      ruleOfLine? spoofedEntry.line = some login ∧ ¬ spoofedEntry.IsOf login := by
  have source {word : String} (printed : Value.Printed (.bare word)) :
      (saying "-s" word).Printed := printed_saying (by decide) (by decide) printed
  refine ⟨List.forall_mem_cons.2 ⟨source (by decide), printed_loginEntry⟩, by decide, by decide, ?_,
    by decide, by decide, by decide⟩
  simp only [spoofedEntry, List.forall_mem_cons]
  exact ⟨source (by decide), printed_saying (by decide) (by decide) (by decide),
    .remark false trivial, .target false (by decide), List.forall_mem_nil _⟩

example : spoofedEntry.line = "-A INPUT -s 10.0.0.1/32 -m comment --comment " ++
    "\"sleuth -p tcp --dport 22 -j ACCEPT\" -j DROP" := by decide

end Gatehouse.Firewall.Iptables
