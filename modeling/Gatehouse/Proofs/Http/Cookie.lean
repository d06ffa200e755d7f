import Gatehouse.Http.Cookie
import Gatehouse.Proofs.Data.Utf8
import Gatehouse.Proofs.Text.Blank
/-!
# Cookies that come back

A cookie whose name and value consist of plain characters is set under this name and with this value,
and it comes back as it was set: where a request names it, between other cookies and with any blanks
around, it is read with the same name and value.  A plain character can be seen, and none of the marks
of a cookie header is one.
-/

namespace Gatehouse

/-! ## Encoded texts -/

/-- Bytes without a percent sign stand for themselves. -/
theorem Percent.decode_of_notMem {bytes : Bytes} (none : 37 ∉ bytes) : decode bytes = bytes := by
  fun_induction decode bytes with
  | case1 high low rest => exact absurd List.mem_cons_self none
  | case2 high low rest => exact absurd List.mem_cons_self none
  | case3 b rest _ ih => rw [ih fun isMember => none (List.mem_cons_of_mem _ isMember)]
  | case4 => rfl

namespace Http

/-- The character can be seen and is none of the marks in a cookie header. -/
def IsPlain (c : Char) : Prop :=
  32 < c.toNat ∧ c.toNat < 127 ∧ c ≠ '%' ∧ c ≠ ';' ∧ c ≠ '='

instance : DecidablePred IsPlain := fun c => by unfold IsPlain; infer_instance

/-- All characters of a text are plain. -/
def AllPlain (text : String) : Prop := ∀ c ∈ text.toList, IsPlain c

instance : DecidablePred AllPlain := fun text => List.decidableBAll IsPlain text.toList

variable {text name value stretch : String} {headers : Headers}

theorem IsPlain.not_blank {c : Char} (plain : IsPlain c) : Text.isBlank c = false := by
  obtain ⟨low, high, _⟩ := plain
  simp only [Text.isBlank, Bool.or_eq_false_iff, Bool.and_eq_false_iff, decide_eq_false_iff_not]
  omega

/-- Plain texts stand for themselves. -/
theorem decodeText?_of_allPlain (plain : AllPlain text) : Percent.decodeText? text = some text := by
  have ascii : ∀ c ∈ text.toList, c.toNat ≤ 0x7F := fun c isMember => by
    have high := (plain c isMember).2.1
    omega
  have none : 37 ∉ Utf8.encode text := by
    rw [Utf8.encode_of_ascii ascii]
    intro isMember
    obtain ⟨c, isMember, same⟩ := List.mem_map.1 isMember
    have number := (Utf8.byte_eq_iff (n := c.toNat) (by have := ascii c isMember; omega) 37).1 same
    exact (plain c isMember).2.2.1 (Char.toNat_inj.1 number)
  rw [Percent.decodeText?, Percent.decode_of_notMem none, Utf8.text?_encode]

/-- Visible characters and blanks between them are read back from a header field. -/
theorem Headers.readable?_encode (visible : ∀ c ∈ text.toList, 32 ≤ c.toNat ∧ c.toNat < 127) :
    readable? (Utf8.encode text) = some text := by
  have ascii : ∀ c ∈ text.toList, c.toNat ≤ 0x7F := fun c isMember => by
    have high := (visible c isMember).2
    omega
  have value : ∀ c ∈ text.toList, (UInt8.ofNat c.toNat).toNat = c.toNat := fun c isMember => by
    have low := ascii c isMember
    exact Utf8.toNat_byte (by omega)
  have readable : (Utf8.encode text).all isReadable = true := by
    rw [Utf8.encode_of_ascii ascii, List.all_map, List.all_eq_true]
    intro c isMember
    have inRange := visible c isMember
    simp [isReadable, UInt8.le_iff_toNat_le, UInt8.lt_iff_toNat_lt, value c isMember, inRange]
  have same : text.toList.map ((fun b : UInt8 => Char.ofNat b.toNat) ∘
      fun c => UInt8.ofNat c.toNat) = text.toList := by
    refine (List.map_congr_left fun c isMember => ?_).trans (List.map_id _)
    rw [Function.comp_apply, value c isMember, Char.ofNat_toNat, id]
  rw [readable?, if_pos readable, Utf8.encode_of_ascii ascii, List.map_map, same,
    String.ofList_toList]

namespace Cookie

/-! ## One cookie -/

/-- A stretch that says a plain name and a plain value, with any blanks around, is read as these. -/
theorem pair?_of_trim_eq (plainName : AllPlain name) (isName : name ≠ "") (plain : AllPlain value)
    (same : Text.trim stretch = name ++ "=" ++ value) : pair? stretch = some (name, value) := by
  obtain ⟨before, after, split, blankBefore, blankAfter⟩ := Text.exists_blanks stretch
  have cut : Text.cut? '=' stretch.toList = some (before ++ name.toList, value.toList ++ after) := by
    have noSign : '=' ∉ before ++ name.toList := by
      intro isMember
      rcases List.mem_append.1 isMember with isMember | isMember
      · exact absurd (blankBefore _ isMember) (by decide)
      · exact absurd (plainName _ isMember) (by decide)
    have parts : stretch.toList = (before ++ name.toList) ++ '=' :: (value.toList ++ after) := by
      rw [split, same]
      simp
    rw [parts, Text.cut?_append noSign]
  have trimmedName : Text.trim (String.ofList (before ++ name.toList)) = name := by
    rw [Text.trim_append_left blankBefore, String.ofList_toList]
    exact Text.trim_of_forall_not fun c isMember => (plainName c isMember).not_blank
  have trimmedValue : Text.trim (String.ofList (value.toList ++ after)) = value := by
    rw [Text.trim_append_right (fun c isMember => (plain c isMember).not_blank) blankAfter,
      String.ofList_toList]
  have notEmpty : ¬ name.isEmpty = true := by simpa using isName
  simp only [pair?, cut, trimmedName, trimmedValue, if_neg notEmpty,
    decodeText?_of_allPlain plainName, decodeText?_of_allPlain plain]
  rfl

/-- Apart from the equals sign between them, a plain name and a plain value are plain. -/
theorem isPlain_or_eq_of_mem (plainName : AllPlain name) (plain : AllPlain value) :
    ∀ c ∈ (name ++ "=" ++ value).toList, IsPlain c ∨ c = '=' := by
  intro c isMember
  simp only [String.toList_append, List.mem_append] at isMember
  rcases isMember with (isMember | isMember) | isMember
  · exact .inl (plainName c isMember)
  · exact .inr (List.mem_singleton.1 isMember)
  · exact .inl (plain c isMember)

theorem semicolon_ne_of_mem (plainName : AllPlain name) (plain : AllPlain value) :
    ∀ c ∈ (name ++ "=" ++ value).toList, decide (c = ';') = false := by
  intro c isMember
  rcases isPlain_or_eq_of_mem plainName plain c isMember with isPlain | rfl
  · exact decide_eq_false isPlain.2.2.2.1
  · decide

/-- A stretch that says nothing but a plain name and a plain value is read as these. -/
theorem pair?_append (plainName : AllPlain name) (isName : name ≠ "") (plain : AllPlain value) :
    pair? (name ++ "=" ++ value) = some (name, value) := by
  refine pair?_of_trim_eq plainName isName plain (Text.trim_of_forall_not fun c isMember => ?_)
  rcases isPlain_or_eq_of_mem plainName plain c isMember with isPlain | rfl
  · exact isPlain.not_blank
  · decide

/-! ## Setting a cookie -/

/-- The name and the value that a header field sets, if it has both: they stand in front of its first
semicolon, and what is behind it is said about the cookie. -/
def set? (field : String) : Option (String × String) := (Text.split ';' field).head?.bind pair?

/-- Nothing behind the first semicolon has a part in the name and the value. -/
theorem set?_append (whole : ∀ c ∈ stretch.toList, decide (c = ';') = false) (rest : String) :
    set? (stretch ++ ";" ++ rest) = pair? stretch := by
  have parts : (stretch ++ ";" ++ rest).toList = stretch.toList ++ ';' :: rest.toList := by simp
  rw [set?, Text.split, parts, Text.splitWhere_append whole (decide_eq_true rfl), List.map_cons,
    String.ofList_toList, List.head?_cons, Option.bind_some]

/-- The field that sets a cookie starts with its name and its value. -/
theorem Setting.exists_text_eq (cookie : Setting) :
    ∃ rest, cookie.text = cookie.name ++ "=" ++ cookie.value ++ ";" ++ rest := by
  have starts : "; HttpOnly; SameSite=Lax" = ";" ++ " HttpOnly; SameSite=Lax" := by decide
  unfold text
  rw [starts]
  simp only [String.append_assoc, String.append_right_inj]
  exact ⟨_, rfl⟩

/-- A plain cookie is set under its name and with its value. -/
theorem set?_text {cookie : Setting} (plainName : AllPlain cookie.name) (isName : cookie.name ≠ "")
    (plain : AllPlain cookie.value) : set? cookie.text = some (cookie.name, cookie.value) := by
  obtain ⟨rest, starts⟩ := cookie.exists_text_eq
  rw [starts, set?_append (semicolon_ne_of_mem plainName plain),
    pair?_append plainName isName plain]

/-! ## All cookies -/

/-- Of several cookies with a name the last one is found. -/
theorem get?_eq_some_iff :
    get? headers name = some value ↔
      ∃ before after, all headers = before ++ (name, value) :: after ∧
        ∀ pair ∈ after, pair.1 ≠ name := by
  rw [get?, List.lookup_eq_some_iff]
  constructor
  · rintro ⟨after, before, cookies, others⟩
    refine ⟨before.reverse, after.reverse, ?_, ?_⟩
    · simpa using congrArg List.reverse cookies
    · intro pair isMember
      exact Ne.symm (bne_iff_ne.1 (others pair (List.mem_reverse.1 isMember)))
  · rintro ⟨before, after, cookies, others⟩
    refine ⟨after.reverse, before.reverse, by simp [cookies], ?_⟩
    intro pair isMember
    exact bne_iff_ne.2 (Ne.symm (others pair (List.mem_reverse.1 isMember)))

/-- A cookie with a name and a value comes with a request, and no other one with that name. -/
def Only (headers : Headers) (name value : String) : Prop :=
  ∃ before after, all headers = before ++ (name, value) :: after ∧
    ∀ pair ∈ before ++ after, pair.1 ≠ name

theorem Only.get? (only : Only headers name value) : get? headers name = some value := by
  obtain ⟨before, after, cookies, others⟩ := only
  refine get?_eq_some_iff.2 ⟨before, after, cookies, ?_⟩
  exact fun pair isMember => others pair (List.mem_append.2 (.inr isMember))

/-- A cookie header with one plain cookie is read as it was set. -/
theorem read_encode (plainName : AllPlain name) (isName : name ≠ "") (plain : AllPlain value) :
    Headers.readable? (Utf8.encode (name ++ "=" ++ value)) = some (name ++ "=" ++ value) ∧
      (Text.split ';' (name ++ "=" ++ value)).filterMap pair? = [(name, value)] := by
  have visible : ∀ c ∈ (name ++ "=" ++ value).toList, 32 ≤ c.toNat ∧ c.toNat < 127 := by
    intro c isMember
    rcases isPlain_or_eq_of_mem plainName plain c isMember with ⟨low, high, _⟩ | rfl
    · omega
    · decide
  -- The whole header is one stretch.
  have whole : Text.split ';' (name ++ "=" ++ value) = [name ++ "=" ++ value] := by
    rw [Text.split, Text.splitWhere_of_forall_not (semicolon_ne_of_mem plainName plain),
      List.map_singleton, String.ofList_toList]
  refine ⟨Headers.readable?_encode visible, ?_⟩
  rw [whole, List.filterMap_cons, pair?_append plainName isName plain, List.filterMap_nil]

/-- Cookies that come in a header each are read as they were set. -/
theorem all_of_encode {pairs : List (String × String)}
    (plain : ∀ pair ∈ pairs, AllPlain pair.1 ∧ pair.1 ≠ "" ∧ AllPlain pair.2)
    (given : headers.all "cookie" = pairs.map fun pair => Utf8.encode (pair.1 ++ "=" ++ pair.2)) :
    all headers = pairs := by
  rw [all, given]
  clear given
  induction pairs with
  | nil => rfl
  | cons pair rest ih =>
      obtain ⟨plainName, isName, plainValue⟩ := plain pair List.mem_cons_self
      obtain ⟨readable, cookies⟩ := read_encode plainName isName plainValue
      rw [List.map_cons, List.filterMap_cons, readable, List.flatMap_cons, cookies,
        ih fun pair isMember => plain pair (List.mem_cons_of_mem _ isMember)]
      rfl

/-- A cookie that comes alone in the one cookie header is read as it was set. -/
theorem only_of_encode (plainName : AllPlain name) (isName : name ≠ "") (plain : AllPlain value)
    (one : headers.all "cookie" = [Utf8.encode (name ++ "=" ++ value)]) :
    Only headers name value := by
  have cookies : all headers = [(name, value)] := by
    apply all_of_encode _ one
    rintro _ (_ | ⟨_, isMember⟩)
    · exact ⟨plainName, isName, plain⟩
    · cases isMember
  exact ⟨[], [], cookies, List.forall_mem_nil _⟩

end Cookie

end Http

end Gatehouse
