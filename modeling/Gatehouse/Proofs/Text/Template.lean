import Mathlib.Data.List.Infix
import Gatehouse.Proofs.Text.Blank
import Gatehouse.Proofs.Text.Markup
/-!
# Templates filled at once

A template is read once, as characters that stand for themselves and places of names.  Filling it at
once puts a value into each place, and no value is searched for places.  Filling one name after the
other does search the values: each comes to stand in the template as the later names have filled it.
Nothing else happens as long as the places of the template stand apart.
-/

namespace Gatehouse.Text

/-! ## Parts of a template -/

/-- A part of a template. -/
inductive Part where
  | plain (c : Char)
  | place (name : String)
deriving DecidableEq, Repr

/-- The parts of a text that has places for some names; the second argument is the number of
characters of a place that are still to be passed over. -/
def partsFrom (names : List String) : Nat → List Char → List Part
  | _, [] => []
  | skip + 1, _ :: rest => partsFrom names skip rest
  | 0, c :: rest =>
      match names.find? fun name => (placeholder name).isPrefixOf (c :: rest) with
      | some name => .place name :: partsFrom names ((placeholder name).length - 1) rest
      | none => .plain c :: partsFrom names 0 rest

/-- The parts of a template that has places for some names. -/
def parts (names : List String) (template : String) : List Part := partsFrom names 0 template.toList

/-- The text of some parts, given what stands in the places. -/
def assembled (inPlace : String → List Char) (parts : List Part) : List Char :=
  parts.flatMap fun
    | .plain c => [c]
    | .place name => inPlace name

/-- The value that a table has for a name. -/
def valueOf (values : List (String × String)) (name : String) : List Char :=
  ((values.lookup name).getD "").toList

/-- A template with all its places filled at once. -/
def fillAtOnce (values : List (String × String)) (template : String) : String :=
  String.ofList (assembled (valueOf values) (parts (values.map Prod.fst) template))

variable {name other text value : String} {names : List String} {row : List Part}
  {values : List (String × String)} {inPlace : String → List Char}

@[simp] theorem assembled_nil : assembled inPlace [] = [] := rfl

@[simp] theorem assembled_plain (c : Char) :
    assembled inPlace (.plain c :: row) = c :: assembled inPlace row := rfl

@[simp] theorem assembled_place :
    assembled inPlace (.place name :: row) = inPlace name ++ assembled inPlace row := rfl

theorem assembled_append (first second : List Part) :
    assembled inPlace (first ++ second) = assembled inPlace first ++ assembled inPlace second :=
  List.flatMap_append

@[simp] theorem assembled_map_plain (text : List Char) :
    assembled inPlace (text.map .plain) = text := by
  induction text with
  | nil => rfl
  | cons c rest ih => rw [List.map_cons, assembled_plain, ih]

/-- A place between two texts. -/
def framed (opening : List Char) (name : String) (closing : List Char) : List Part :=
  opening.map .plain ++ .place name :: closing.map .plain

theorem assembled_framed (opening closing : List Char) :
    assembled inPlace (framed opening name closing) = opening ++ (inPlace name ++ closing) := by
  rw [framed, assembled_append, assembled_map_plain, assembled_place, assembled_map_plain]

theorem ofList_assembled_framed (opening closing : String) :
    String.ofList (assembled inPlace (framed opening.toList name closing.toList)) =
      opening ++ String.ofList (inPlace name) ++ closing := by
  apply String.toList_inj.1
  rw [assembled_framed]
  simp

theorem count_framed (opening closing : List Char) :
    (framed opening name closing).count (.place name) = 1 := by
  have absent (text : List Char) : (text.map Part.plain).count (.place name) = 0 := by
    rw [List.count_eq_zero]
    simp
  rw [framed, List.count_append, List.count_cons_self, absent, absent]

/-- Only what stands in the places of a text matters for it. -/
theorem assembled_congr {first second : String → List Char}
    (same : ∀ name, .place name ∈ row → first name = second name) :
    assembled first row = assembled second row := by
  induction row with
  | nil => rfl
  | cons part rest ih =>
      have others := ih fun name isMember => same name (List.mem_cons_of_mem _ isMember)
      cases part with
      | plain c => rw [assembled_plain, assembled_plain, others]
      | place name => rw [assembled_place, assembled_place, others, same name List.mem_cons_self]

/-- With its own place for each name, a text is read as it was. -/
theorem assembled_partsFrom (names : List String) (skip : Nat) (text : List Char) :
    assembled placeholder (partsFrom names skip text) = text.drop skip := by
  induction text generalizing skip with
  | nil => cases skip <;> rfl
  | cons c rest ih =>
      cases skip with
      | succ skip => exact ih skip
      | zero =>
          rw [partsFrom]
          split
          · rename_i name found
            have occurs : (placeholder name).isPrefixOf (c :: rest) = true :=
              List.find?_some (p := fun name => (placeholder name).isPrefixOf (c :: rest)) found
            obtain ⟨follows, split⟩ := List.isPrefixOf_iff_prefix.1 occurs
            obtain ⟨d, others, spelled⟩ := List.exists_cons_of_ne_nil (placeholder_ne_nil name)
            rw [assembled_place, ih, spelled, List.length_cons, Nat.add_sub_cancel, List.drop_zero]
            rw [spelled, List.cons_append] at split
            obtain ⟨rfl, rfl⟩ := List.cons.inj split
            rw [List.drop_left, List.cons_append]
          · rw [assembled_plain, ih]
            rfl

/-- Only the names that are looked for have places. -/
theorem mem_names_of_mem_partsFrom {skip : Nat} {text : List Char}
    (isPart : .place name ∈ partsFrom names skip text) : name ∈ names := by
  induction text generalizing skip with
  | nil => cases skip <;> cases isPart
  | cons c rest ih =>
      cases skip with
      | succ skip => exact ih isPart
      | zero =>
          rw [partsFrom] at isPart
          split at isPart
          · rename_i found
            rcases List.mem_cons.1 isPart with same | isPart
            · cases same
              exact List.mem_of_find?_eq_some found
            · exact ih isPart
          · rcases List.mem_cons.1 isPart with same | isPart
            · cases same
            · exact ih isPart

/-- A template in three stretches is filled stretch by stretch. -/
theorem fillAtOnce_of_split (values : List (String × String)) {template : String}
    {before middle after : List Part}
    (split : before ++ middle ++ after = parts (values.map Prod.fst) template) :
    fillAtOnce values template =
      String.ofList (assembled (valueOf values) before) ++
        String.ofList (assembled (valueOf values) middle) ++
        String.ofList (assembled (valueOf values) after) := by
  rw [fillAtOnce, ← split, assembled_append, assembled_append, String.ofList_append,
    String.ofList_append]

/-- A table of distinct names is known by the values that it has for them. -/
theorem eq_of_valueOf_eq {first second : List (String × String)}
    (named : first.map Prod.fst = second.map Prod.fst) (distinct : (first.map Prod.fst).Nodup)
    (same : ∀ name ∈ first.map Prod.fst, valueOf first name = valueOf second name) :
    first = second := by
  induction first generalizing second with
  | nil => exact (List.map_eq_nil_iff.1 named.symm).symm
  | cons entry rest ih =>
      obtain ⟨name, value⟩ := entry
      cases second with
      | nil => cases named
      | cons entry others =>
          obtain ⟨_, other⟩ := entry
          rw [List.map_cons, List.map_cons] at named
          obtain ⟨rfl, further⟩ := List.cons.inj named
          rw [List.map_cons, List.nodup_cons] at distinct
          have here := same name List.mem_cons_self
          simp only [valueOf, List.lookup_cons_self, Option.getD_some] at here
          have there : ∀ later ∈ rest.map Prod.fst, valueOf rest later = valueOf others later := by
            intro later isName
            have values := same later (List.mem_cons_of_mem _ isName)
            have differ : (later == name) = false := by
              rw [beq_eq_false_iff_ne]
              rintro rfl
              exact distinct.1 isName
            simpa only [valueOf, List.lookup_cons, differ] using values
          rw [String.toList_inj.1 here, ih further distinct.2 there]

/-! ## Texts that mention a place -/

/-- The name is in capitals, as those of places are. -/
def InCapitals (name : String) : Prop := ∀ c ∈ name.toList, c.isUpper = true

instance : DecidablePred InCapitals := fun name => List.decidableBAll _ name.toList

/-- The place of a name is spelled somewhere in a text. -/
def Mentions (text name : String) : Prop := placeholder name <:+: text.toList

instance (text name : String) : Decidable (Mentions text name) := by
  unfold Mentions
  infer_instance

/-- A character that no place is spelled with, if its name is in capitals. -/
def isEdge (c : Char) : Bool := !c.isUpper && c ≠ '{' && c ≠ '}'

theorem InCapitals.notMem_placeholder (capitals : InCapitals name) {c : Char}
    (edge : isEdge c = true) : c ∉ placeholder name := by
  intro isMember
  simp only [isEdge, Bool.and_eq_true, Bool.not_eq_true', decide_eq_true_eq] at edge
  simp only [placeholder, List.mem_append, List.mem_cons, List.not_mem_nil, or_false] at isMember
  rcases isMember with (same | same) | isMember
  · exact edge.1.2 (by simpa using same)
  · rw [capitals c same] at edge
    exact Bool.noConfusion edge.1.1
  · exact edge.2 (by simpa using isMember)

/-- A text that does not mention a place stays as it is when the place is filled. -/
theorem replaceFrom_of_not_infix {pattern replacement text : List Char}
    (absent : ¬ pattern <:+: text) : replaceFrom pattern replacement 0 text = text := by
  induction text with
  | nil => rfl
  | cons c rest ih =>
      rw [List.infix_cons_iff, not_or] at absent
      rw [replaceFrom, if_neg fun occurs => absent.1 (List.isPrefixOf_iff_prefix.1 occurs),
        ih absent.2]

theorem fill_of_not_mentions (silent : ¬ Mentions text name) (value : String) :
    fill name value text = text := by
  rw [fill, replaceFrom_of_not_infix silent, String.ofList_toList]

/-- A pattern does not reach over a character that is not in it. -/
theorem prefix_append_cons_iff {pattern before after : List Char} {c : Char} (free : c ∉ pattern) :
    pattern <+: before ++ c :: after ↔ pattern <+: before := by
  constructor
  · intro occurs
    rcases Nat.le_total pattern.length before.length with short | long
    · exact List.prefix_of_prefix_length_le occurs (List.prefix_append _ _) short
    · rcases Nat.eq_or_lt_of_le long with same | longer
      · exact List.prefix_of_prefix_length_le occurs (List.prefix_append _ _) same.ge
      · have within : before ++ [c] <+: before ++ c :: after := ⟨after, by simp⟩
        have fits : (before ++ [c]).length ≤ pattern.length := by
          rw [List.length_append]
          exact longer
        have whole := List.prefix_of_prefix_length_le within occurs fits
        exact absurd (whole.subset (by simp)) free
  · intro occurs
    exact occurs.trans (List.prefix_append _ _)

/-- A pattern in two texts with a character between them that is not in it is in one of them. -/
theorem infix_append_cons_iff {pattern before after : List Char} {c : Char} (free : c ∉ pattern)
    (notEmpty : pattern ≠ []) :
    pattern <:+: before ++ c :: after ↔ pattern <:+: before ∨ pattern <:+: after := by
  have atStart : ¬ pattern <+: c :: after := by
    rw [← List.nil_append (c :: after), prefix_append_cons_iff free]
    simpa using notEmpty
  induction before with
  | nil =>
      rw [List.nil_append, List.infix_cons_iff, List.infix_nil]
      simp [atStart, notEmpty]
  | cons d rest ih =>
      have here : pattern <+: d :: (rest ++ c :: after) ↔ pattern <+: d :: rest := by
        rw [← List.cons_append, prefix_append_cons_iff free]
      rw [List.cons_append, List.infix_cons_iff, here, List.infix_cons_iff, or_assoc]
      exact or_congr_right ih

/-- A text in front that has no opening brace does not matter. -/
theorem infix_append_of_notMem {before after pattern : List Char} (free : '{' ∉ before) :
    '{' :: pattern <:+: before ++ after ↔ '{' :: pattern <:+: after := by
  induction before with
  | nil => rfl
  | cons c rest ih =>
      rw [List.mem_cons, not_or] at free
      rw [List.cons_append, List.infix_cons_iff, ih free.2, List.cons_prefix_cons]
      exact or_iff_right fun occurs => free.1 occurs.1

/-! ## Escaped texts mention what they mentioned -/

theorem escapeMarkupChar_of_not_isEdge {c : Char} (inner : isEdge c = false) :
    escapeMarkupChar c = [c] := by
  unfold escapeMarkupChar
  repeat' split
  -- Each character that is spelled in another way is an edge.
  all_goals first
    | rfl
    | (subst_vars; exact absurd inner (by decide))

/-- An edge is spelled with an edge first: itself or an ampersand. -/
theorem exists_escapeMarkupChar_eq_cons {c : Char} (edge : isEdge c = true) :
    ∃ first others, escapeMarkupChar c = first :: others ∧ isEdge first = true := by
  unfold escapeMarkupChar
  repeat' split
  all_goals first
    | exact ⟨c, [], rfl, edge⟩
    | exact ⟨'&', _, rfl, by decide⟩

theorem prefix_flatMap_escapeMarkupChar_iff {pattern : List Char}
    (inner : ∀ c ∈ pattern, isEdge c = false) (text : List Char) :
    pattern <+: text.flatMap escapeMarkupChar ↔ pattern <+: text := by
  induction pattern generalizing text with
  | nil => simp
  | cons d others ih =>
      cases text with
      | nil => rfl
      | cons c rest =>
          rw [List.flatMap_cons, List.cons_prefix_cons]
          have further := ih (fun c isMember => inner c (List.mem_cons_of_mem _ isMember)) rest
          by_cases edge : isEdge c = true
          · obtain ⟨first, others', spelled, edge'⟩ := exists_escapeMarkupChar_eq_cons edge
            have differs {e : Char} (isOuter : isEdge e = true) : d ≠ e := by
              rintro rfl
              exact Bool.noConfusion (isOuter.symm.trans (inner d List.mem_cons_self))
            rw [spelled, List.cons_append, List.cons_prefix_cons]
            exact iff_of_false (fun occurs => differs edge' occurs.1)
              fun occurs => differs edge occurs.1
          · rw [escapeMarkupChar_of_not_isEdge (by simpa using edge), List.singleton_append,
              List.cons_prefix_cons, further]

theorem brace_notMem_escapeMarkupChar {c : Char} (other : '{' ≠ c) : '{' ∉ escapeMarkupChar c := by
  unfold escapeMarkupChar
  repeat' split
  all_goals first
    | decide
    | exact fun isMember => other (List.mem_singleton.1 isMember)

/-- Escaping a text neither makes it mention a place nor hides one. -/
theorem mentions_escapeMarkup (capitals : InCapitals name) :
    Mentions (escapeMarkup text) name ↔ Mentions text name := by
  have inner : ∀ c ∈ placeholder name, isEdge c = false := by
    intro c isMember
    refine Bool.eq_false_iff.2 fun edge => ?_
    exact capitals.notMem_placeholder edge isMember
  rw [Mentions, Mentions, escapeMarkup, String.toList_ofList]
  generalize text.toList = letters
  induction letters with
  | nil => rfl
  | cons c rest ih =>
      by_cases brace : '{' = c
      · have here := prefix_flatMap_escapeMarkupChar_iff inner (c :: rest)
        subst brace
        rw [List.flatMap_cons] at here ⊢
        exact List.infix_cons_iff.trans ((or_congr here ih).trans List.infix_cons_iff.symm)
      · have alone : '{' ∉ [c] := fun isMember => brace (List.mem_singleton.1 isMember)
        rw [List.flatMap_cons]
        exact (infix_append_of_notMem (brace_notMem_escapeMarkupChar brace)).trans
          (ih.trans (infix_append_of_notMem alone).symm)

/-! ## Filling one name after the other -/

/-- A text with the places of some names filled one after the other. -/
def fillEach (values : List (String × String)) (text : String) : String :=
  values.foldl (fun text entry => fill entry.1 entry.2 text) text

/-- The values as they come to stand in a template that is filled with one after the other: each is
filled with those after it. -/
def settled : List (String × String) → List (String × String)
  | [] => []
  | (name, value) :: later => (name, fillEach later value) :: settled later

/-- Places stand apart: an edge follows each of them, and there are no other opening braces. -/
def standApart : List Part → Bool
  | [] => true
  | .plain c :: rest => c ≠ '{' && standApart rest
  | [.place _] => true
  | .place _ :: .plain c :: rest => isEdge c && standApart rest
  | .place _ :: .place _ :: _ => false

@[simp] theorem fillEach_nil (text : String) : fillEach [] text = text := rfl

@[simp] theorem fillEach_cons (name value : String) (later : List (String × String))
    (text : String) : fillEach ((name, value) :: later) text = fillEach later (fill name value text) :=
  rfl

@[simp] theorem map_fst_settled (values : List (String × String)) :
    (settled values).map Prod.fst = values.map Prod.fst := by
  induction values with
  | nil => rfl
  | cons entry later ih => rw [settled, List.map_cons, List.map_cons, ih]

/-- Texts on both sides of an edge are searched each on its own. -/
theorem replaceFrom_append_cons {pattern replacement before after : List Char} {c : Char}
    (free : c ∉ pattern) (notEmpty : pattern ≠ []) {skip : Nat} (short : skip ≤ before.length) :
    replaceFrom pattern replacement skip (before ++ c :: after) =
      replaceFrom pattern replacement skip before ++
        c :: replaceFrom pattern replacement 0 after := by
  induction before generalizing skip with
  | nil =>
      obtain rfl := Nat.le_zero.1 short
      have atStart : ¬ pattern.isPrefixOf (c :: after) = true := by
        rw [List.isPrefixOf_iff_prefix, ← List.nil_append (c :: after),
          prefix_append_cons_iff free]
        simpa using notEmpty
      change replaceFrom pattern replacement 0 (c :: after) =
        c :: replaceFrom pattern replacement 0 after
      rw [replaceFrom, if_neg atStart]
  | cons d rest ih =>
      cases skip with
      | succ skip => exact ih (Nat.le_of_succ_le_succ short)
      | zero =>
          have here : pattern.isPrefixOf (d :: (rest ++ c :: after)) =
              pattern.isPrefixOf (d :: rest) := by
            rw [Bool.eq_iff_iff, List.isPrefixOf_iff_prefix, List.isPrefixOf_iff_prefix,
              ← List.cons_append, prefix_append_cons_iff free]
          rw [List.cons_append, replaceFrom, here, replaceFrom]
          split
          · rename_i occurs
            have fits := (List.isPrefixOf_iff_prefix.1 occurs).length_le
            rw [ih (by rw [List.length_cons] at fits; omega), List.append_assoc]
          · rw [ih (Nat.zero_le _), List.cons_append]

/-- Where places stand apart, what stands in them is searched and nothing else is. -/
theorem replaceFrom_assembled (capitals : InCapitals name) (replacement : List Char)
    (apart : standApart row = true) :
    replaceFrom (placeholder name) replacement 0 (assembled inPlace row) =
      assembled (fun other => replaceFrom (placeholder name) replacement 0 (inPlace other)) row := by
  fun_induction standApart row with
  | case1 => rfl
  | case2 c rest ih =>
      rw [Bool.and_eq_true, decide_eq_true_eq] at apart
      have atStart : ¬ (placeholder name).isPrefixOf (c :: assembled inPlace rest) = true := by
        rw [List.isPrefixOf_iff_prefix]
        intro occurs
        exact apart.1 (List.cons_prefix_cons.1 occurs).1.symm
      rw [assembled_plain, replaceFrom, if_neg atStart, ih apart.2, assembled_plain]
  | case3 other => simp
  | case4 other c rest ih =>
      rw [Bool.and_eq_true] at apart
      have free : c ∉ placeholder name := capitals.notMem_placeholder apart.1
      rw [assembled_place, assembled_plain,
        replaceFrom_append_cons free (placeholder_ne_nil name) (Nat.zero_le _), ih apart.2,
        assembled_place, assembled_plain]
  | case5 => cases apart

/-! ### A place that is filled -/

theorem replaceFrom_of_length_le {pattern replacement : List Char} {skip : Nat} {text : List Char}
    (long : text.length ≤ skip) : replaceFrom pattern replacement skip text = [] := by
  induction text generalizing skip with
  | nil => cases skip <;> rfl
  | cons c rest ih =>
      cases skip with
      | zero => cases long
      | succ skip => exact ih (Nat.le_of_succ_le_succ long)

/-- Filling the place of a name gives the value. -/
theorem replaceFrom_placeholder_self (name : String) (replacement : List Char) :
    replaceFrom (placeholder name) replacement 0 (placeholder name) = replacement := by
  obtain ⟨first, others, spelled⟩ := List.exists_cons_of_ne_nil (placeholder_ne_nil name)
  have occurs : (first :: others).isPrefixOf (first :: others) = true :=
    List.isPrefixOf_iff_prefix.2 (List.prefix_refl _)
  rw [spelled, replaceFrom, if_pos occurs, replaceFrom_of_length_le (by simp), List.append_nil]

/-- The place of a name mentions no other name. -/
theorem not_infix_placeholder (capitals : InCapitals name) (more : InCapitals other)
    (differ : name ≠ other) : ¬ placeholder name <:+: placeholder other := by
  have spelled (name : String) :
      placeholder name = '{' :: '{' :: (name.toList ++ '}' :: ['}']) := by simp [placeholder]
  have ends {name : String} (capitals : InCapitals name) (rest : List Char) :
      (name.toList ++ '}' :: rest).takeWhile Char.isUpper = name.toList :=
    takeWhile_row capitals (by simp)
  have braceless : '{' ∉ other.toList ++ '}' :: ['}'] := by
    intro isMember
    rcases List.mem_append.1 isMember with isMember | isMember
    · exact absurd (more _ isMember) (by decide)
    · exact absurd isMember (by decide)
  rw [spelled name, spelled other, List.infix_cons_iff, List.infix_cons_iff, not_or, not_or]
  refine ⟨?_, ?_, ?_⟩
  · rw [List.cons_prefix_cons, List.cons_prefix_cons]
    rintro ⟨-, -, rest, same⟩
    have names := congrArg (List.takeWhile Char.isUpper) same
    rw [List.append_assoc, List.cons_append, ends capitals, ends more] at names
    exact differ (String.toList_inj.1 names)
  · intro occurs
    exact braceless ((List.cons_prefix_cons.1 occurs).2.subset List.mem_cons_self)
  · intro occurs
    exact braceless (occurs.subset List.mem_cons_self)

/-! ### The whole template -/

/-- What each place comes to hold when one name after the other is filled. -/
theorem fillEach_assembled (capitals : ∀ entry ∈ values, InCapitals entry.1)
    (apart : standApart row = true) :
    fillEach values (String.ofList (assembled inPlace row)) =
      String.ofList
        (assembled (fun name => (fillEach values (String.ofList (inPlace name))).toList) row) := by
  induction values generalizing inPlace with
  | nil => simp
  | cons entry later ih =>
      obtain ⟨name, value⟩ := entry
      have filled : fill name value (String.ofList (assembled inPlace row)) =
          String.ofList (assembled (fun other =>
            (fill name value (String.ofList (inPlace other))).toList) row) := by
        simp only [fill, String.toList_ofList]
        rw [replaceFrom_assembled (capitals _ List.mem_cons_self) value.toList apart]
      rw [fillEach_cons, filled,
        ih fun entry isMember => capitals entry (List.mem_cons_of_mem _ isMember)]
      simp only [String.ofList_toList, fillEach_cons]

/-- The place of a name comes to hold the value of the name, filled with those after it. -/
theorem fillEach_placeholder (capitals : ∀ entry ∈ values, InCapitals entry.1)
    (isName : name ∈ values.map Prod.fst) :
    (fillEach values (String.ofList (placeholder name))).toList = valueOf (settled values) name := by
  induction values with
  | nil => cases isName
  | cons entry later ih =>
      obtain ⟨first, value⟩ := entry
      have capital : InCapitals first := capitals _ List.mem_cons_self
      have capitals' : ∀ entry ∈ later, InCapitals entry.1 :=
        fun entry isMember => capitals entry (List.mem_cons_of_mem _ isMember)
      by_cases same : name = first
      · subst same
        have filled : fill name value (String.ofList (placeholder name)) = value := by
          rw [fill, String.toList_ofList, replaceFrom_placeholder_self, String.ofList_toList]
        rw [fillEach_cons, filled, valueOf, settled, List.lookup_cons_self, Option.getD_some]
      · have isLater : name ∈ later.map Prod.fst := (List.mem_cons.1 isName).resolve_left same
        obtain ⟨entry, isMember, named⟩ := List.mem_map.1 isLater
        have silent : ¬ Mentions (String.ofList (placeholder name)) first := by
          rw [Mentions, String.toList_ofList]
          exact not_infix_placeholder capital (named ▸ capitals' entry isMember) (Ne.symm same)
        have other : (name == first) = false := by simpa using same
        rw [fillEach_cons, fill_of_not_mentions silent, ih capitals' isLater, valueOf, valueOf,
          settled, List.lookup_cons, other]

/-- Filling one name after the other fills the places at once, each with its value as it is filled
with the later ones. -/
theorem fillEach_eq {template : String} (capitals : ∀ entry ∈ values, InCapitals entry.1)
    (apart : standApart (parts (values.map Prod.fst) template) = true) :
    fillEach values template = fillAtOnce (settled values) template := by
  have read : String.ofList (assembled placeholder (parts (values.map Prod.fst) template)) =
      template := by
    rw [parts, assembled_partsFrom, List.drop_zero, String.ofList_toList]
  calc fillEach values template
      = fillEach values
          (String.ofList (assembled placeholder (parts (values.map Prod.fst) template))) := by
        rw [read]
    _ = String.ofList (assembled (fun name =>
          (fillEach values (String.ofList (placeholder name))).toList)
          (parts (values.map Prod.fst) template)) := fillEach_assembled capitals apart
    _ = fillAtOnce (settled values) template := by
        rw [fillAtOnce, map_fst_settled]
        congr 1
        apply assembled_congr
        intro name isPart
        exact fillEach_placeholder capitals (mem_names_of_mem_partsFrom isPart)

/-! ### Values that stay as they are -/

theorem fillEach_of_not_mentions (silent : ∀ entry ∈ values, ¬ Mentions text entry.1) :
    fillEach values text = text := by
  induction values with
  | nil => rfl
  | cons entry later ih =>
      rw [fillEach_cons, fill_of_not_mentions (silent entry List.mem_cons_self)]
      exact ih fun entry isMember => silent entry (List.mem_cons_of_mem _ isMember)

/-- If no value mentions a later name, all stay as they are. -/
theorem settled_eq_self
    (silent : values.Pairwise fun earlier later => ¬ Mentions earlier.2 later.1) :
    settled values = values := by
  induction silent with
  | nil => rfl
  | cons first _ ih => rw [settled, fillEach_of_not_mentions first, ih]

end Gatehouse.Text
