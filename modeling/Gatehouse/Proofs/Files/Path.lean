import Gatehouse.Files.Path
import Gatehouse.Proofs.Text.Blank
/-!
# Names on the way of a path

A slash in a path ends a name and begins the next one, so that the names of a path are those before
the slash and then those behind it.  The directory of a path has the same names but the last, single
dots apart: these go nowhere, and the parent of a path drops them where they stand at the end.
-/

namespace Gatehouse.Path

open Text

/-- The names between the slashes of a text. -/
def names (text : List Char) : List String :=
  ((splitWhere (· = '/') text).map String.ofList).filter fun name => !name.isEmpty

theorem steps_eq (path : String) :
    steps path = names path.toList ++ if path.toList.getLast? = some '/' then ["."] else [] := by
  unfold steps
  split
  · rfl
  · rw [List.append_nil]
    rfl

theorem names_nil : names [] = [] := rfl

theorem names_slash (before after : List Char) :
    names (before ++ '/' :: after) = names before ++ names after := by
  have isEnd : (fun c : Char => decide (c = '/')) '/' = true := by decide
  rw [names, splitWhere_break isEnd, List.map_append, List.filter_append]
  rfl

theorem names_concat_slash (before : List Char) : names (before ++ ['/']) = names before := by
  rw [names_slash, names_nil, List.append_nil]

/-- A name between slashes. -/
structure IsName (name : String) : Prop where
  nonempty : name ≠ ""
  whole : '/' ∉ name.toList

theorem IsName.relative {name : String} (isName : IsName name) : isAbsolute name = false :=
  decide_eq_false fun isStart => isName.whole (List.mem_of_head? isStart)

theorem isName_of_mem_names {text : List Char} {name : String} (isMember : name ∈ names text) :
    IsName name := by
  obtain ⟨isSpelled, nonempty⟩ := List.mem_filter.1 isMember
  obtain ⟨part, isPart, rfl⟩ := List.mem_map.1 isSpelled
  refine ⟨by simpa using nonempty, fun isSlash => ?_⟩
  rw [String.toList_ofList] at isSlash
  simpa using forall_not_of_mem_splitWhere isPart '/' isSlash

theorem IsName.names_eq {name : String} (isName : IsName name) : names name.toList = [name] := by
  have noBreak : ∀ c ∈ name.toList, decide (c = '/') = false := fun c isMember =>
    decide_eq_false (ne_of_mem_of_not_mem isMember isName.whole)
  rw [names, splitWhere_of_forall_not noBreak, List.map_singleton, String.ofList_toList]
  exact List.filter_cons_of_pos (by simpa using isName.nonempty)

/-- A path whose last step is no dot does not end with a slash. -/
theorem steps_eq_names {path : String} (noDot : (steps path).getLast? ≠ some ".") :
    steps path = names path.toList ∧ path.toList.getLast? ≠ some '/' := by
  rw [steps_eq] at noDot ⊢
  split
  · rename_i ends
    rw [if_pos ends] at noDot
    exact absurd List.getLast?_concat noDot
  · rename_i noEnd
    exact ⟨List.append_nil _, noEnd⟩

/-! ## The directory of a path -/

/-- Names that lead somewhere else. -/
def moves (steps : List String) : List String := steps.filter (· ≠ ".")

theorem moves_append (first rest : List String) : moves (first ++ rest) = moves first ++ moves rest :=
  List.filter_append ..

theorem moves_dot : moves ["."] = [] := by decide

theorem moves_steps (path : String) : moves (steps path) = moves (names path.toList) := by
  rw [steps_eq, moves_append]
  split
  · rw [moves_dot, List.append_nil]
  · exact List.append_nil _

/-- What is trimmed from the end of a path leads nowhere. -/
theorem moves_trimEnd (reversed : List Char) :
    moves (steps (String.ofList (trimEnd reversed).reverse)) = moves (names reversed.reverse) := by
  fun_induction trimEnd reversed with
  | case1 => decide
  | case2 rest _ ih => rw [ih, List.reverse_cons, names_concat_slash]
  | case3 rest ih =>
      have lastDot : names (rest.reverse ++ ['/'] ++ ['.']) = names rest.reverse ++ ["."] := by
        rw [List.append_assoc, List.singleton_append, names_slash]
        rfl
      rw [ih, List.reverse_cons, List.reverse_cons, List.reverse_cons, lastDot, moves_append,
        moves_dot, List.append_nil, names_concat_slash]
  | case4 path noSlash noRest _ =>
      have noEnd : path.reverse.getLast? ≠ some '/' := by
        rw [List.getLast?_reverse]
        cases path with
        | nil => exact nofun
        | cons c rest =>
            rintro ⟨⟩
            exact noRest rest rfl
      rw [steps_eq, String.toList_ofList, if_neg noEnd, List.append_nil]

theorem trimEnd_suffix (reversed : List Char) : trimEnd reversed <:+ reversed := by
  fun_induction trimEnd reversed with
  | case1 => exact List.suffix_refl _
  | case2 rest _ ih => exact ih.trans (List.suffix_cons _ _)
  | case3 rest ih => exact ih.trans (List.suffix_cons _ _)
  | case4 => exact List.suffix_refl _

/-- Nothing is trimmed from a path that ends in a name. -/
theorem trimEnd_of_name {path : String} (noDot : (steps path).getLast? ≠ some ".") :
    trimEnd path.toList.reverse = path.toList.reverse := by
  obtain ⟨same, noEnd⟩ := steps_eq_names noDot
  rw [← List.head?_reverse] at noEnd
  cases reversed : path.toList.reverse with
  | nil => rfl
  | cons c more =>
      rw [reversed] at noEnd
      have noSlash : c ≠ '/' := fun isSlash => noEnd (congrArg some isSlash)
      unfold trimEnd
      split
      · rename_i shape
        exact absurd (List.cons.inj shape).1 noSlash
      · rename_i shape
        exact absurd (List.cons.inj shape).1 noSlash
      · rename_i rest shape
        have whole : path.toList = rest.reverse ++ '/' :: ['.'] := by
          rw [← List.reverse_reverse path.toList, reversed, shape]
          simp
        have lastDot : names ['.'] = ["."] := by decide
        rw [same, whole, names_slash, lastDot] at noDot
        exact absurd List.getLast?_concat noDot
      · rfl

/-- What stands before the last name of a path is nothing or ends with a slash. -/
theorem exists_name_of_steps {path : String} (noDot : (steps path).getLast? ≠ some ".")
    (nonempty : path ≠ "") :
    ∃ front name, IsName name ∧ path.toList = front ++ name.toList ∧
      (front = [] ∨ ∃ more, front = more ++ ['/']) := by
  have noEnd := (steps_eq_names noDot).2
  have pieces := List.takeWhile_append_dropWhile (p := fun c => decide (c ≠ '/'))
    (l := path.toList.reverse)
  have noSlash : '/' ∉ path.toList.reverse.takeWhile fun c => decide (c ≠ '/') := by
    intro isMember
    have differs := List.all_eq_true.1 List.all_takeWhile '/' isMember
    exact absurd differs (by decide)
  have stops := List.head?_dropWhile_not (fun c => decide (c ≠ '/')) path.toList.reverse
  generalize path.toList.reverse.takeWhile (fun c => decide (c ≠ '/')) = name at pieces noSlash
  generalize path.toList.reverse.dropWhile (fun c => decide (c ≠ '/')) = rest at pieces stops
  have whole : path.toList = rest.reverse ++ name.reverse := by
    rw [← List.reverse_append, pieces, List.reverse_reverse]
  have before : rest.reverse = [] ∨ ∃ more, rest.reverse = more ++ ['/'] := by
    cases rest with
    | nil => exact .inl rfl
    | cons c more =>
        have isSlash : c = '/' := by simpa using stops
        exact .inr ⟨more.reverse, by rw [isSlash, List.reverse_cons]⟩
  have named : name.reverse ≠ [] := by
    intro isEmpty
    rw [isEmpty, List.append_nil] at whole
    obtain none | ⟨more, ends⟩ := before
    · exact nonempty (String.toList_eq_nil_iff.1 (whole.trans none))
    · rw [whole, ends] at noEnd
      exact noEnd List.getLast?_concat
  refine ⟨rest.reverse, String.ofList name.reverse, ⟨?_, ?_⟩, ?_, before⟩
  · exact fun isEmpty => named (String.ofList_eq_empty_iff.1 isEmpty)
  · rwa [String.toList_ofList, List.mem_reverse]
  · rwa [String.toList_ofList]

/-- The parent of a path leads where the path leads before its last name. -/
theorem moves_steps_parent {path parent : String} (noDot : (steps path).getLast? ≠ some ".")
    (isParent : parent? path = some parent) :
    moves (steps parent) = moves (steps path).dropLast ∧ parent.toList <+: path.toList := by
  have nonempty : path ≠ "" := by
    rintro rfl
    cases isParent
  obtain ⟨front, name, isName, whole, before⟩ := exists_name_of_steps noDot nonempty
  have lastStep : (steps path).dropLast = names front := by
    rw [(steps_eq_names noDot).1, whole]
    obtain rfl | ⟨more, rfl⟩ := before
    · rw [List.nil_append, isName.names_eq]
      rfl
    · rw [List.append_assoc, List.singleton_append, names_slash, isName.names_eq,
        List.dropLast_concat, names_concat_slash]
  have skipped : path.toList.reverse.dropWhile (fun c => decide (c ≠ '/')) = front.reverse := by
    have isLetter : ∀ c ∈ name.toList.reverse, decide (c ≠ '/') = true := fun c isMember =>
      decide_eq_true (ne_of_mem_of_not_mem (List.mem_reverse.1 isMember) isName.whole)
    rw [whole, List.reverse_append, List.dropWhile_append_of_pos isLetter]
    obtain rfl | ⟨more, rfl⟩ := before
    · rfl
    · rw [List.reverse_append, List.reverse_singleton, List.singleton_append]
      exact List.dropWhile_cons_of_neg (by decide)
  have shape : parent = String.ofList (trimEnd front.reverse).reverse := by
    rw [parent?, trimEnd_of_name noDot] at isParent
    split at isParent
    · cases isParent
    · cases isParent
    · rw [skipped] at isParent
      split at isParent
      · rename_i isEmpty
        rw [isEmpty]
        exact (Option.some.inj isParent).symm
      · exact (Option.some.inj isParent).symm
  rw [shape, moves_trimEnd, List.reverse_reverse, lastStep, String.toList_ofList, whole]
  refine ⟨rfl, (List.reverse_prefix.2 (trimEnd_suffix _)).trans ?_⟩
  rw [List.reverse_reverse]
  exact List.prefix_append _ _

end Gatehouse.Path
