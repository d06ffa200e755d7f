import Mathlib.Data.List.Infix
import Gatehouse.Proofs.Access.Page
import Gatehouse.Proofs.Text.Template
/-!
# How pages are filled

The texts of a page are filled in one name after the other, and a text that is filled in is searched
for the names that come later.  So a page is its template filled at once, each text having been filled
itself with the later ones.  It is the template filled with the texts as they are exactly when this
changes none of them, as when no text mentions a later name.  Then the ticket for a new password
stands in its hidden field and nowhere else.
-/

namespace Gatehouse.Access.Page

open Text (Part parts standApart assembled valueOf fillAtOnce fillEach settled InCapitals Mentions
  escapeMarkup placeholder marks isMark)

/-! ## The texts of a page -/

/-- The texts of the page for signing in, in the order in which they are filled in. -/
def loginValues (action username : String) (error : Option String) : List (String × String) :=
  [("ERROR", errorBlock error), ("ACTION", escapeMarkup action),
    ("USERNAME", escapeMarkup username)]

/-- The texts of the page for choosing a new password. -/
def resetValues (action username ticket : String) (error : Option String) :
    List (String × String) :=
  [("ERROR", errorBlock error), ("ACTION", escapeMarkup action),
    ("USERNAME", escapeMarkup username), ("TICKET", escapeMarkup ticket)]

/-- The texts of the index page. -/
def indexValues (username backend : String) : List (String × String) :=
  [("USERNAME", escapeMarkup username), ("BACKEND", escapeMarkup backend)]

/-! ## The templates -/

/-- The names of the places of the three templates. -/
def loginNames : List String := ["ERROR", "ACTION", "USERNAME"]

@[inherit_doc loginNames]
def resetNames : List String := ["ERROR", "ACTION", "USERNAME", "TICKET"]

@[inherit_doc loginNames]
def indexNames : List String := ["USERNAME", "BACKEND"]

/-- A mark follows each place, other than that of a message. -/
def closedByMarks : List Part → Bool
  | [] => true
  | .plain _ :: rest => closedByMarks rest
  | .place name :: .plain c :: rest => (name = "ERROR" || isMark c) && closedByMarks rest
  | .place name :: rest => name = "ERROR" && closedByMarks rest

/-- Each name has a place in the template, and it shows where the place ends. -/
def legible (names : List String) (template : String) : Bool :=
  standApart (parts names template) && closedByMarks (parts names template) &&
    names.all fun name => (parts names template).contains (.place name)

/-- The hidden field that holds a ticket. -/
def ticketRow : List Part :=
  Text.framed "<input type=\"hidden\" name=\"reset_token\" value=\"".toList "TICKET" "\">".toList

/-- The start of the form, which holds where the form is sent to. -/
def actionRow : List Part :=
  Text.framed "<form method=\"post\" action=\"".toList "ACTION" "\">".toList

theorem legible_templates :
    legible loginNames loginTemplate = true ∧ legible resetNames resetTemplate = true ∧
      legible indexNames indexTemplate = true := by
  simp only [legible, parts]
  rw [loginTemplate, resetTemplate, indexTemplate, toList_lines, toList_lines, toList_lines]
  simp only [List.flatMap_cons, List.flatMap_nil, String.toList_append]
  -- The lines become lists of characters before the templates are read.
  repeat rw [String.toList_ofList]
  decide +kernel

/-- Both rows are in the template for choosing a new password, which has no other place for a ticket. -/
theorem rows_resetTemplate :
    ticketRow <:+: parts resetNames resetTemplate ∧
      actionRow <:+: parts resetNames resetTemplate ∧
      (parts resetNames resetTemplate).count (.place "TICKET") = 1 := by
  rewrite [parts, resetTemplate, toList_lines]
  simp only [List.flatMap_cons, List.flatMap_nil, String.toList_append]
  repeat rewrite [String.toList_ofList]
  decide +kernel

/-! ## Texts are told apart -/

variable {values later : List (String × String)} {row : List Part} {name template : String}

/-- Texts without marks that a mark follows end where it comes. -/
theorem eq_of_append_mark {first second more less : List Char} {c : Char} (isEnd : isMark c = true)
    (plain : ∀ d ∈ first, isMark d = false) (plain' : ∀ d ∈ second, isMark d = false)
    (same : first ++ c :: more = second ++ c :: less) : first = second := by
  have ends {text rest : List Char} (unmarked : ∀ d ∈ text, isMark d = false) :
      (text ++ c :: rest).takeWhile (fun d => !isMark d) = text := by
    apply Text.takeWhile_row
    · intro d isMember
      rw [unmarked d isMember, Bool.not_false]
    · rintro _ ⟨⟩
      rw [isEnd, Bool.not_true]
  calc first = (first ++ c :: more).takeWhile (fun d => !isMark d) := (ends plain).symm
    _ = (second ++ c :: less).takeWhile (fun d => !isMark d) := by rw [same]
    _ = second := ends plain'

/-- Texts without marks can be read off a page that is filled with them.  The paragraph that shows a
message need not be one of them. -/
theorem inPlace_eq_of_assembled_eq {first second : String → List Char}
    (closed : closedByMarks row = true)
    (plain : ∀ name ≠ "ERROR", ∀ c ∈ first name, isMark c = false)
    (plain' : ∀ name ≠ "ERROR", ∀ c ∈ second name, isMark c = false)
    (told : ∀ more less, first "ERROR" ++ more = second "ERROR" ++ less →
      first "ERROR" = second "ERROR")
    (same : assembled first row = assembled second row) :
    ∀ name, .place name ∈ row → first name = second name := by
  fun_induction closedByMarks row with
  | case1 => nofun
  | case2 c rest ih =>
      intro name isPart
      rw [Text.assembled_plain, Text.assembled_plain] at same
      apply ih closed (List.cons.inj same).2
      simpa using isPart
  | case3 name c rest ih =>
      rw [Bool.and_eq_true, Bool.or_eq_true, decide_eq_true_eq] at closed
      rw [Text.assembled_place, Text.assembled_place, Text.assembled_plain,
        Text.assembled_plain] at same
      have texts : first name = second name := by
        by_cases isError : name = "ERROR"
        · subst isError
          exact told _ _ same
        · exact eq_of_append_mark (closed.1.resolve_left isError) (plain name isError)
            (plain' name isError) same
      rw [texts] at same
      intro other isPart
      rcases List.mem_cons.1 isPart with isHere | isPart
      · cases isHere
        exact texts
      · apply ih closed.2 (List.cons.inj (List.append_cancel_left same)).2
        simpa using isPart
  | case4 name rest _ ih =>
      rw [Bool.and_eq_true, decide_eq_true_eq] at closed
      obtain ⟨rfl, closed⟩ := closed
      rw [Text.assembled_place, Text.assembled_place] at same
      have texts := told _ _ same
      rw [texts] at same
      intro other isPart
      rcases List.mem_cons.1 isPart with isHere | isPart
      · cases isHere
        exact texts
      · exact ih closed (List.append_cancel_left same) other isPart

/-! ## Filled at once -/

/-- A page is its template filled at once: always with the texts as they have been filled with the
later ones, and with the texts as they are exactly when these are the same. -/
structure FilledAtOnce (values : List (String × String)) (template page : String) : Prop where
  always : page = fillAtOnce (settled values) template
  exactly : page = fillAtOnce values template ↔ settled values = values

/-- A name for a place and its text are without marks. -/
def Plain (entry : String × String) : Prop :=
  InCapitals entry.1 ∧ marks entry.1 = [] ∧ marks entry.2 = []

theorem valueOf_of_notMem (absent : name ∉ values.map Prod.fst) : valueOf values name = [] := by
  have none : values.lookup name = none := by
    rw [List.lookup_eq_none_iff]
    intro entry isMember
    rw [bne_iff_ne]
    rintro rfl
    exact absent (List.mem_map_of_mem isMember)
  rw [valueOf, none]
  rfl

theorem isMark_of_mem_valueOf (plain : ∀ entry ∈ values, entry.1 ≠ "ERROR" → marks entry.2 = [])
    (other : name ≠ "ERROR") : ∀ c ∈ valueOf values name, isMark c = false := by
  intro c isMember
  rw [valueOf] at isMember
  cases found : values.lookup name with
  | none =>
      rw [found] at isMember
      cases isMember
  | some value =>
      rw [found, Option.getD_some] at isMember
      obtain ⟨before, after, split, _⟩ := List.lookup_eq_some_iff.1 found
      have unmarked : marks value = [] := plain (name, value) (by simp [split]) other
      have noMark := List.filter_eq_nil_iff.1 unmarked c isMember
      simpa using noMark

theorem marks_fillEach (plain : ∀ entry ∈ later, Plain entry) (text : String) :
    marks (fillEach later text) = marks text := by
  induction later generalizing text with
  | nil => rfl
  | cons entry rest ih =>
      obtain ⟨_, plainName, plainText⟩ := plain entry List.mem_cons_self
      rw [Text.fillEach_cons, ih fun entry isMember => plain entry (List.mem_cons_of_mem _ isMember),
        Text.marks_fill text plainName plainText]

theorem marks_settled (plain : ∀ entry ∈ values, Plain entry) :
    ∀ entry ∈ settled values, marks entry.2 = [] := by
  induction values with
  | nil => nofun
  | cons first rest ih =>
      have plainRest : ∀ entry ∈ rest, Plain entry :=
        fun entry isMember => plain entry (List.mem_cons_of_mem _ isMember)
      intro entry isMember
      rcases List.mem_cons.1 isMember with rfl | isMember
      · rw [marks_fillEach plainRest]
        exact (plain first List.mem_cons_self).2.2
      · exact ih plainRest entry isMember

/-- A page that is filled one name after the other, where the text of a message, if there is one, can
be told from what follows it. -/
theorem filledAtOnce_of_legible (capitals : ∀ entry ∈ values, InCapitals entry.1)
    (distinct : (values.map Prod.fst).Nodup) (isLegible : legible (values.map Prod.fst) template = true)
    (plain : ∀ entry ∈ values, entry.1 ≠ "ERROR" → marks entry.2 = [])
    (plain' : ∀ entry ∈ settled values, entry.1 ≠ "ERROR" → marks entry.2 = [])
    (told : ∀ more less, valueOf (settled values) "ERROR" ++ more = valueOf values "ERROR" ++ less →
      valueOf (settled values) "ERROR" = valueOf values "ERROR") :
    FilledAtOnce values template (fillEach values template) := by
  simp only [legible, Bool.and_eq_true, List.all_eq_true, List.contains_iff_mem] at isLegible
  obtain ⟨⟨apart, closed⟩, placed⟩ := isLegible
  have always := Text.fillEach_eq capitals apart
  refine ⟨always, ?_, ?_⟩
  · intro page
    rw [always, fillAtOnce, fillAtOnce, Text.map_fst_settled] at page
    have read := inPlace_eq_of_assembled_eq closed (fun _ => isMark_of_mem_valueOf plain')
      (fun _ => isMark_of_mem_valueOf plain) told (String.ofList_inj.1 page)
    apply Text.eq_of_valueOf_eq (Text.map_fst_settled values)
    · rw [Text.map_fst_settled]
      exact distinct
    · intro name isName
      rw [Text.map_fst_settled] at isName
      exact read name (placed name isName)
  · intro same
    rw [always, same]

/-! ### The paragraph that shows a message -/

/-- The paragraph is a message between two texts, of which the second starts with a mark. -/
structure Frames (opening closing : List Char) : Prop where
  apart : standApart (Text.framed opening "MESSAGE" ('<' :: closing)) = true
  braceless : '{' ∉ opening ∧ '{' ∉ closing
  errorBlock_some : ∀ message, (errorBlock (some message)).toList =
    assembled (fun _ => (escapeMarkup message).toList) (Text.framed opening "MESSAGE" ('<' :: closing))

theorem exists_frames : ∃ opening closing, Frames opening closing := by
  have closing : "</p>".toList = '<' :: ['/', 'p', '>'] := by rw [String.toList_ofList]
  refine ⟨"<p class=\"error\" role=\"alert\">".toList, ['/', 'p', '>'], ?_, ?_, ?_⟩
  · rw [String.toList_ofList]
    decide
  · rw [String.toList_ofList]
    decide
  · intro message
    rw [Text.assembled_framed, ← closing]
    unfold errorBlock
    rw [String.toList_append, String.toList_append, List.append_assoc]

variable {opening closing : List Char}

/-- Nothing but the message is filled. -/
theorem Frames.fillEach_errorBlock (frames : Frames opening closing)
    (capitals : ∀ entry ∈ later, InCapitals entry.1) (message : String) :
    (fillEach later (errorBlock (some message))).toList =
      opening ++ ((fillEach later (escapeMarkup message)).toList ++ '<' :: closing) := by
  have block : errorBlock (some message) = String.ofList
      (assembled (fun _ => (escapeMarkup message).toList)
        (Text.framed opening "MESSAGE" ('<' :: closing))) := by
    rw [← frames.errorBlock_some, String.ofList_toList]
  rw [block, Text.fillEach_assembled capitals frames.apart, String.toList_ofList,
    Text.assembled_framed, String.ofList_toList]

theorem fillEach_errorBlock_none (later : List (String × String)) :
    fillEach later (errorBlock none) = errorBlock none := by
  induction later with
  | nil => rfl
  | cons entry rest ih => exact ih

/-- The paragraph is told from what follows it, also when its message has been filled. -/
theorem told_errorBlock (plain : ∀ entry ∈ later, Plain entry) (error : Option String)
    {more less : List Char}
    (same : (fillEach later (errorBlock error)).toList ++ more = (errorBlock error).toList ++ less) :
    (fillEach later (errorBlock error)).toList = (errorBlock error).toList := by
  cases error with
  | none => rw [fillEach_errorBlock_none]
  | some message =>
      obtain ⟨opening, closing, frames⟩ := exists_frames
      have unmarked {text : String} (free : marks text = []) : ∀ c ∈ text.toList, isMark c = false := by
        intro c isMember
        simpa using List.filter_eq_nil_iff.1 free c isMember
      have filled := frames.fillEach_errorBlock (fun entry isMember => (plain entry isMember).1) message
      have given := frames.errorBlock_some message
      rw [Text.assembled_framed] at given
      rw [filled, given, List.append_assoc, List.append_assoc, List.append_assoc,
        List.append_assoc] at same
      have texts : (fillEach later (escapeMarkup message)).toList = (escapeMarkup message).toList := by
        apply eq_of_append_mark (by decide) _ _ (List.append_cancel_left same)
        · apply unmarked
          rw [marks_fillEach plain, Text.marks_escapeMarkup]
        · apply unmarked
          exact Text.marks_escapeMarkup message
      rw [filled, given, texts]

/-! ### The three pages -/

theorem filledAtOnce_of_error {error : Option String} (plain : ∀ entry ∈ later, Plain entry)
    (distinct : ("ERROR" :: later.map Prod.fst).Nodup)
    (isLegible : legible ("ERROR" :: later.map Prod.fst) template = true) :
    FilledAtOnce (("ERROR", errorBlock error) :: later) template
      (fillEach (("ERROR", errorBlock error) :: later) template) := by
  apply filledAtOnce_of_legible
  · rintro entry (_ | ⟨_, isMember⟩)
    · exact (by decide : InCapitals "ERROR")
    · exact (plain entry isMember).1
  · exact distinct
  · exact isLegible
  · rintro entry (_ | ⟨_, isMember⟩) other
    · exact absurd rfl other
    · exact (plain entry isMember).2.2
  · rintro entry (_ | ⟨_, isMember⟩) other
    · exact absurd rfl other
    · exact marks_settled plain entry isMember
  · intro more less same
    exact told_errorBlock plain error same

theorem plain_of_escaped {text : String} (capitals : InCapitals name) (unmarked : marks name = []) :
    Plain (name, escapeMarkup text) :=
  ⟨capitals, unmarked, Text.marks_escapeMarkup text⟩

theorem filledAtOnce_login (action username : String) (error : Option String) :
    FilledAtOnce (loginValues action username error) loginTemplate
      (login action username error) := by
  obtain ⟨_, actionPlain, usernamePlain, _⟩ := marks_names
  refine filledAtOnce_of_error ?_ (by decide : loginNames.Nodup) legible_templates.1
  rintro entry (_ | ⟨_, (_ | ⟨_, isMember⟩)⟩)
  · exact plain_of_escaped (by decide) actionPlain
  · exact plain_of_escaped (by decide) usernamePlain
  · cases isMember

theorem filledAtOnce_reset (action username ticket : String) (error : Option String) :
    FilledAtOnce (resetValues action username ticket error) resetTemplate
      (reset action username ticket error) := by
  obtain ⟨_, actionPlain, usernamePlain, ticketPlain, _⟩ := marks_names
  refine filledAtOnce_of_error ?_ (by decide : resetNames.Nodup) legible_templates.2.1
  rintro entry (_ | ⟨_, (_ | ⟨_, (_ | ⟨_, isMember⟩)⟩)⟩)
  · exact plain_of_escaped (by decide) actionPlain
  · exact plain_of_escaped (by decide) usernamePlain
  · exact plain_of_escaped (by decide) ticketPlain
  · cases isMember

theorem filledAtOnce_index (username backend : String) :
    FilledAtOnce (indexValues username backend) indexTemplate (index username backend) := by
  obtain ⟨_, _, usernamePlain, _, backendPlain⟩ := marks_names
  have plain : ∀ entry ∈ indexValues username backend, Plain entry := by
    rintro entry (_ | ⟨_, (_ | ⟨_, isMember⟩)⟩)
    · exact plain_of_escaped (by decide) usernamePlain
    · exact plain_of_escaped (by decide) backendPlain
    · cases isMember
  apply filledAtOnce_of_legible
  · exact fun entry isMember => (plain entry isMember).1
  · exact (by decide : indexNames.Nodup)
  · exact legible_templates.2.2
  · exact fun entry isMember _ => (plain entry isMember).2.2
  · exact fun entry isMember _ => marks_settled plain entry isMember
  · intro _ _ _
    have absent : "ERROR" ∉ (indexValues username backend).map Prod.fst :=
      (by decide : "ERROR" ∉ indexNames)
    rw [valueOf_of_notMem absent, valueOf_of_notMem]
    rw [Text.map_fst_settled]
    exact absent

/-! ## Texts that mention no later place -/

/-- A text mentions none of some places. -/
def Silent (names : List String) (text : String) : Prop := ∀ name ∈ names, ¬ Mentions text name

instance (names : List String) : DecidablePred (Silent names) := fun _ => List.decidableBAll _ names

theorem silent_escapeMarkup {names : List String} {text : String}
    (capitals : ∀ name ∈ names, InCapitals name) (silent : Silent names text) :
    Silent names (escapeMarkup text) := by
  intro name isMember mentioned
  exact silent name isMember ((Text.mentions_escapeMarkup (capitals name isMember)).1 mentioned)

theorem silent_errorBlock {names : List String} {error : Option String}
    (capitals : ∀ name ∈ names, InCapitals name)
    (silent : ∀ message ∈ error, Silent names message) : Silent names (errorBlock error) := by
  intro name isMember mentioned
  have pattern : placeholder name = '{' :: '{' :: (name.toList ++ ['}', '}']) := by
    simp [placeholder]
  cases error with
  | none =>
      unfold errorBlock at mentioned
      rw [Mentions, String.toList_empty, List.infix_nil, pattern] at mentioned
      cases mentioned
  | some message =>
      obtain ⟨opening, closing, frames⟩ := exists_frames
      have edge : '<' ∉ placeholder name :=
        (capitals name isMember).notMem_placeholder (by decide)
      rw [Mentions, frames.errorBlock_some, Text.assembled_framed, pattern,
        Text.infix_append_of_notMem frames.braceless.1, ← pattern,
        Text.infix_append_cons_iff edge (Text.placeholder_ne_nil name)] at mentioned
      rcases mentioned with inMessage | behind
      · exact silent_escapeMarkup capitals (silent message rfl) name isMember inMessage
      · rw [pattern] at behind
        exact frames.braceless.2 (behind.subset List.mem_cons_self)

/-- The texts of the page for signing in mention none that is filled in later. -/
def LoginSilent (action : String) (error : Option String) : Prop :=
  (∀ message ∈ error, Silent ["ACTION", "USERNAME"] message) ∧ Silent ["USERNAME"] action

/-- The texts of the page for choosing a new password mention none that is filled in later. -/
def ResetSilent (action username : String) (error : Option String) : Prop :=
  (∀ message ∈ error, Silent ["ACTION", "USERNAME", "TICKET"] message) ∧
    Silent ["USERNAME", "TICKET"] action ∧ Silent ["TICKET"] username

theorem settled_loginValues {action username : String} {error : Option String}
    (silent : LoginSilent action error) :
    settled (loginValues action username error) = loginValues action username error := by
  obtain ⟨inMessage, inAction⟩ := silent
  have block := silent_errorBlock (by decide) inMessage
  have target := silent_escapeMarkup (by decide) inAction
  apply Text.settled_eq_self
  simp only [Silent, List.forall_mem_cons] at block target
  simp [loginValues, block, target]

theorem settled_resetValues {action username ticket : String} {error : Option String}
    (silent : ResetSilent action username error) :
    settled (resetValues action username ticket error) =
      resetValues action username ticket error := by
  obtain ⟨inMessage, inAction, inUsername⟩ := silent
  have block := silent_errorBlock (by decide) inMessage
  have target := silent_escapeMarkup (by decide) inAction
  have user := silent_escapeMarkup (by decide) inUsername
  apply Text.settled_eq_self
  simp only [Silent, List.forall_mem_cons] at block target user
  simp [resetValues, block, target, user]

theorem settled_indexValues {username backend : String} (silent : Silent ["BACKEND"] username) :
    settled (indexValues username backend) = indexValues username backend := by
  have user := silent_escapeMarkup (by decide) silent
  apply Text.settled_eq_self
  simp only [Silent, List.forall_mem_cons] at user
  simp [indexValues, user]

/-! ## The ticket -/

/-- The hidden field with a ticket. -/
def ticketField (ticket : String) : String :=
  "<input type=\"hidden\" name=\"reset_token\" value=\"" ++ escapeMarkup ticket ++ "\">"

theorem valueOf_resetValues (action username ticket other : String) (error : Option String)
    (isOther : name ≠ "TICKET") :
    valueOf (resetValues action username ticket error) name =
      valueOf (resetValues action username other error) name := by
  have differ : (name == "TICKET") = false := by simpa using isOther
  simp only [valueOf, resetValues, List.lookup_cons, differ, List.lookup_nil]

theorem ticketField_eq (action username ticket : String) (error : Option String) :
    ticketField ticket =
      String.ofList (assembled (valueOf (resetValues action username ticket error)) ticketRow) := by
  have value : String.ofList (valueOf (resetValues action username ticket error) "TICKET") =
      escapeMarkup ticket := by
    simp [valueOf, resetValues, List.lookup_cons]
  unfold ticketField
  rw [← value]
  exact (Text.ofList_assembled_framed _ _).symm

/-- Only the hidden field depends on the ticket. -/
theorem exists_around_ticket {action username : String} {error : Option String}
    (silent : ResetSilent action username error) :
    ∃ above below, ∀ ticket,
      reset action username ticket error = above ++ ticketField ticket ++ below := by
  obtain ⟨⟨before, after, split⟩, _, once⟩ := rows_resetTemplate
  have elsewhere : .place "TICKET" ∉ before ∧ .place "TICKET" ∉ after := by
    have here : ticketRow.count (.place "TICKET") = 1 := Text.count_framed _ _
    rw [← split, List.count_append, List.count_append, here] at once
    exact ⟨List.count_eq_zero.1 (by omega), List.count_eq_zero.1 (by omega)⟩
  refine ⟨String.ofList (assembled (valueOf (resetValues action username "" error)) before),
    String.ofList (assembled (valueOf (resetValues action username "" error)) after), ?_⟩
  intro ticket
  have same {row : List Part} (absent : .place "TICKET" ∉ row) :
      assembled (valueOf (resetValues action username ticket error)) row =
        assembled (valueOf (resetValues action username "" error)) row := by
    apply Text.assembled_congr
    intro name isPart
    apply valueOf_resetValues
    rintro rfl
    exact absent isPart
  have page := (filledAtOnce_reset action username ticket error).exactly.2
    (settled_resetValues silent)
  rw [page, Text.fillAtOnce_of_split (resetValues action username ticket error) split,
    same elsewhere.1, same elsewhere.2, ← ticketField_eq action username ticket error]

/-! ## Pages -/

/-- A page is its template filled at once, with each text as the later names have filled it; so it is
the template filled with the texts as they are exactly when that changes none of them.  It changes none
that mentions no later name.  Then nothing but the hidden field depends on a ticket. -/
theorem pages_are_filled_at_once (action username ticket backend : String) (error : Option String) :
    (FilledAtOnce (loginValues action username error) loginTemplate (login action username error) ∧
      (LoginSilent action error → login action username error =
        fillAtOnce (loginValues action username error) loginTemplate)) ∧
    (FilledAtOnce (resetValues action username ticket error) resetTemplate
        (reset action username ticket error) ∧
      (ResetSilent action username error → reset action username ticket error =
        fillAtOnce (resetValues action username ticket error) resetTemplate)) ∧
    (FilledAtOnce (indexValues username backend) indexTemplate (index username backend) ∧
      (Silent ["BACKEND"] username → index username backend =
        fillAtOnce (indexValues username backend) indexTemplate)) ∧
    (ResetSilent action username error → ∃ above below, ∀ ticket,
      reset action username ticket error = above ++ ticketField ticket ++ below) := by
  have filledLogin := filledAtOnce_login action username error
  have filledReset := filledAtOnce_reset action username ticket error
  have filledIndex := filledAtOnce_index username backend
  refine ⟨⟨filledLogin, ?_⟩, ⟨filledReset, ?_⟩, ⟨filledIndex, ?_⟩, ?_⟩
  · intro silent
    exact filledLogin.exactly.2 (settled_loginValues silent)
  · intro silent
    exact filledReset.exactly.2 (settled_resetValues silent)
  · intro silent
    exact filledIndex.exactly.2 (settled_indexValues silent)
  · exact exists_around_ticket

/-- A path that spells the place of a name that is not filled in. -/
def bracedPath : String := "/reports/\x7b\x7bWEEK\x7d\x7d?of=TICKET"

/-- Braces alone do no harm. -/
theorem pages_are_filled_at_once_braces :
    (LoginSilent bracedPath (some "passwords do not match") ∧
      login bracedPath "ada" (some "passwords do not match") =
        fillAtOnce (loginValues bracedPath "ada" (some "passwords do not match")) loginTemplate) ∧
    (ResetSilent bracedPath "ada" (some "passwords do not match") ∧
      reset bracedPath "ada" "abc" (some "passwords do not match") =
        fillAtOnce (resetValues bracedPath "ada" "abc" (some "passwords do not match"))
          resetTemplate ∧
      ∃ above below, ∀ ticket, reset bracedPath "ada" ticket (some "passwords do not match") =
        above ++ ticketField ticket ++ below) ∧
    (Silent ["BACKEND"] "ada" ∧
      index "ada" "nftables" = fillAtOnce (indexValues "ada" "nftables") indexTemplate) := by
  obtain ⟨⟨_, ofLogin⟩, ⟨_, ofReset⟩, ⟨_, ofIndex⟩, ofTicket⟩ :=
    pages_are_filled_at_once bracedPath "ada" "abc" "nftables" (some "passwords do not match")
  have loginSilent : LoginSilent bracedPath (some "passwords do not match") := by
    refine ⟨?_, by decide +kernel⟩
    rintro _ ⟨⟩
    decide +kernel
  have resetSilent : ResetSilent bracedPath "ada" (some "passwords do not match") := by
    refine ⟨?_, by decide +kernel, by decide +kernel⟩
    rintro _ ⟨⟩
    decide +kernel
  have indexSilent : Silent ["BACKEND"] "ada" := by decide +kernel
  exact ⟨⟨loginSilent, ofLogin loginSilent⟩,
    ⟨resetSilent, ofReset resetSilent, ofTicket resetSilent⟩, ⟨indexSilent, ofIndex indexSilent⟩⟩

/-- A path that spells the place of the ticket. -/
def ticketPath : String := "/\x7b\x7bTICKET\x7d\x7d"

/-- The ticket comes to stand in the path that the form is sent to. -/
theorem ticket_comes_into_path :
    reset ticketPath "ada" "abc" none ≠
        fillAtOnce (resetValues ticketPath "ada" "abc" none) resetTemplate ∧
      ∃ above below, reset ticketPath "ada" "abc" none =
        above ++ ("<form method=\"post\" action=\"" ++ "/abc" ++ "\">") ++ below := by
  have filled := filledAtOnce_reset ticketPath "ada" "abc" none
  have path : fillEach [("USERNAME", escapeMarkup "ada"), ("TICKET", escapeMarkup "abc")]
      (escapeMarkup ticketPath) = "/abc" := by
    decide +kernel
  constructor
  · intro same
    have kept := filled.exactly.1 same
    simp only [resetValues, settled, List.cons.injEq, Prod.mk.injEq, path] at kept
    have escaped : "/abc" ≠ escapeMarkup ticketPath := by decide +kernel
    exact escaped kept.2.1.2
  · obtain ⟨before, after, split⟩ := rows_resetTemplate.2.1
    have value : String.ofList (valueOf (settled (resetValues ticketPath "ada" "abc" none)) "ACTION") =
        "/abc" := by
      rw [← path]
      simp [valueOf, resetValues, settled, List.lookup_cons]
    rw [filled.always,
      Text.fillAtOnce_of_split (settled (resetValues ticketPath "ada" "abc" none)) split, ← value]
    exact ⟨_, _, congrArg₂ (· ++ ·) (congrArg₂ (· ++ ·) rfl (Text.ofList_assembled_framed _ _)) rfl⟩

end Gatehouse.Access.Page
