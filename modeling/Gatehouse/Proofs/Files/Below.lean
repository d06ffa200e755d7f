import Gatehouse.Proofs.Files.Replaced
/-!
# Below a directory

A path that goes on from a directory takes the names of both, whether it is put together name by name
or at once.  Where nothing but directories and files stands below the directory, it leads straight
down: to the place with these names and nowhere else.
-/

namespace Gatehouse

namespace Path

open Text

/-! ## Paths that go on from a directory -/

/-- Slashes at the start of a path lead nowhere. -/
theorem names_dropWhile_slash (text : List Char) :
    names (text.dropWhile (· = '/')) = names text := by
  induction text with
  | nil => rfl
  | cons c rest ih =>
      by_cases isSlash : c = '/'
      · subst isSlash
        rw [List.dropWhile_cons_of_pos (by decide), ih]
        exact (names_slash [] rest).symm
      · rw [List.dropWhile_cons_of_neg (by simpa using isSlash)]

/-- The path of a directory with a slash at its end. -/
def opened (directory : String) : List Char :=
  if directory.toList.getLast? = some '/' then directory.toList else directory.toList ++ ['/']

theorem names_opened_append (directory : String) (rest : List Char) :
    names (opened directory ++ rest) = names directory.toList ++ names rest := by
  unfold opened
  split
  · rename_i isEnd
    obtain ⟨front, whole⟩ := List.getLast?_eq_some_iff.1 isEnd
    rw [whole, List.append_assoc, List.singleton_append, names_slash, names_concat_slash]
  · rw [List.append_assoc, List.singleton_append, names_slash]

section

variable {directory path : String}

theorem toList_join (relative : isAbsolute path = false) (nonempty : directory ≠ "") :
    (join directory path).toList = opened directory ++ path.toList := by
  have isEmpty : directory.isEmpty = false := by simpa using nonempty
  rw [join, relative, isEmpty, if_neg (by decide), opened]
  split
  · rw [String.toList_append]
  · rw [String.toList_append, String.toList_append]
    rfl

theorem join_ne_empty (relative : isAbsolute path = false) (nonempty : directory ≠ "")
    (some : path ≠ "") : join directory path ≠ "" := by
  intro isEmpty
  have whole := toList_join relative nonempty
  rw [isEmpty] at whole
  exact some (by simpa using (List.append_eq_nil_iff.1 whole.symm).2)

/-- A path that goes on from a directory takes the names of both. -/
theorem steps_join (relative : isAbsolute path = false) (nonempty : directory ≠ "")
    (some : path ≠ "") :
    steps (join directory path) = names directory.toList ++ steps path := by
  have isEnd : (opened directory ++ path.toList).getLast? = path.toList.getLast? := by
    rw [List.getLast?_append, Option.or_of_isSome (by simpa using some)]
  rw [steps_eq, steps_eq path, toList_join relative nonempty, names_opened_append, isEnd,
    List.append_assoc]

/-- The path that leads along some names. -/
def joined (names : List String) : String :=
  String.ofList (['/'].intercalate (names.map String.toList))

variable {row : List String}

theorem splitWhere_joined (isRow : ∀ name ∈ row, IsName name) (some : row ≠ []) :
    splitWhere (· = '/') (joined row).toList = row.map String.toList := by
  rw [joined, String.toList_ofList]
  refine splitWhere_intercalate (by decide) (by simpa using some) ?_
  intro part isPart c isMember
  obtain ⟨name, isName, rfl⟩ := List.mem_map.1 isPart
  exact decide_eq_false (ne_of_mem_of_not_mem isMember (isRow name isName).whole)

theorem names_joined (isRow : ∀ name ∈ row, IsName name) (some : row ≠ []) :
    names (joined row).toList = row := by
  have same : (row.map String.toList).map String.ofList = row := by simp
  rw [names, splitWhere_joined isRow some, same]
  exact List.filter_eq_self.2 fun name isName => by simpa using (isRow name isName).nonempty

/-- Such a path has these names and no others, and it does not end with a slash. -/
theorem steps_joined (isRow : ∀ name ∈ row, IsName name) (some : row ≠ []) :
    steps (joined row) = row := by
  have noEnd : (joined row).toList.getLast? ≠ Option.some '/' := by
    intro isEnd
    obtain ⟨front, whole⟩ := List.getLast?_eq_some_iff.1 isEnd
    have parts := splitWhere_joined isRow some
    rw [whole, splitWhere_break (by decide)] at parts
    have isPart : [] ∈ row.map String.toList := by
      rw [← parts]
      exact List.mem_append_right _ List.mem_cons_self
    obtain ⟨name, isName, isEmpty⟩ := List.mem_map.1 isPart
    exact (isRow name isName).nonempty (by simpa using isEmpty)
  rw [steps_eq, if_neg noEnd, List.append_nil, names_joined isRow some]

theorem isAbsolute_joined (isRow : ∀ name ∈ row, IsName name) (some : row ≠ []) :
    isAbsolute (joined row) = false := by
  refine decide_eq_false fun isStart => ?_
  obtain ⟨rest, whole⟩ := List.head?_eq_some_iff.1 isStart
  have parts := splitWhere_joined isRow some
  rw [whole, splitWhere, if_pos (by decide)] at parts
  have isPart : [] ∈ row.map String.toList := parts ▸ List.mem_cons_self
  obtain ⟨name, isName, isEmpty⟩ := List.mem_map.1 isPart
  exact (isRow name isName).nonempty (by simpa using isEmpty)

theorem joined_cons (name next : String) (more : List String) :
    (joined (name :: next :: more)).toList =
      name.toList ++ '/' :: (joined (next :: more)).toList := by
  simp only [joined, String.toList_ofList, List.map_cons, List.intercalate_cons_cons,
    List.append_assoc, List.singleton_append]

/-- A name that goes on from a directory is opened by one slash. -/
theorem opened_join {name : String} (nonempty : directory ≠ "") (isName : IsName name) :
    opened (join directory name) = opened directory ++ name.toList ++ ['/'] := by
  have noEnd : (join directory name).toList.getLast? ≠ Option.some '/' := by
    rw [toList_join isName.relative nonempty, List.getLast?_append,
      Option.or_of_isSome (by simpa using isName.nonempty)]
    exact fun isEnd => isName.whole (List.mem_of_getLast? isEnd)
  rw [opened, if_neg noEnd, toList_join isName.relative nonempty]

theorem joined_ne_empty (isRow : ∀ name ∈ row, IsName name) (some : row ≠ []) :
    joined row ≠ "" := by
  intro isEmpty
  have same := names_joined isRow some
  rw [isEmpty] at same
  exact some same.symm

/-- The last name of such a path is the last one in the row. -/
theorem name?_join_joined (nonempty : directory ≠ "") (isRow : ∀ name ∈ row, IsName name)
    (some : row ≠ []) (noDots : moves row = row) :
    name? (join directory (joined row)) = row.getLast? := by
  have isLast : name? (join directory (joined row)) =
      (moves (names directory.toList) ++ row).getLast? := by
    rw [← noDots, ← moves_append, noDots]
    conv => rhs; rw [← steps_joined isRow some]
    rw [← steps_join (isAbsolute_joined isRow some) nonempty (joined_ne_empty isRow some)]
    rfl
  rw [isLast, List.getLast?_append, Option.or_of_isSome (by simpa using some)]

/-- Going on name by name is going on along all of them. -/
theorem foldl_join (nonempty : directory ≠ "") (isRow : ∀ name ∈ row, IsName name)
    (some : row ≠ []) : row.foldl join directory = join directory (joined row) := by
  induction row generalizing directory with
  | nil => contradiction
  | cons name rest ih =>
      obtain ⟨isName, isRest⟩ := List.forall_mem_cons.1 isRow
      cases rest with
      | nil =>
          have single : joined [name] = name := by
            rw [joined, List.map_singleton, List.intercalate_singleton, String.ofList_toList]
          rw [List.foldl_cons, List.foldl_nil, single]
      | cons next more =>
          have isSome : next :: more ≠ [] := List.cons_ne_nil _ _
          have middle := join_ne_empty isName.relative nonempty isName.nonempty
          rw [List.foldl_cons, ih middle isRest isSome]
          refine String.toList_inj.1 ?_
          rw [toList_join (isAbsolute_joined isRest isSome) middle, opened_join nonempty isName,
            toList_join (isAbsolute_joined isRow some) nonempty, joined_cons]
          simp

theorem intercalate_sublist {separator : List Char} {few parts : List (List Char)}
    (isPart : few.Sublist parts) :
    (separator.intercalate few).Sublist (separator.intercalate parts) := by
  induction isPart with
  | slnil => exact List.Sublist.refl _
  | @cons few parts part isPart ih =>
      cases parts with
      | nil =>
          cases isPart
          exact List.nil_sublist _
      | cons next more =>
          rw [List.intercalate_cons_cons]
          exact ih.trans (List.sublist_append_right _ _)
  | @cons_cons few parts part isPart ih =>
      cases parts with
      | nil =>
          cases isPart
          exact List.Sublist.refl _
      | cons next more =>
          cases few with
          | nil =>
              rw [List.intercalate_singleton, List.intercalate_cons_cons, List.append_assoc]
              exact List.sublist_append_left _ _
          | cons first others =>
              rw [List.intercalate_cons_cons, List.intercalate_cons_cons]
              exact (List.Sublist.refl _).append ih

/-- The path along the names of a text is a part of the text. -/
theorem joined_sublist (text : List Char) : (joined (moves (names text))).toList.Sublist text := by
  have isPart : ((moves (names text)).map String.toList).Sublist (splitWhere (· = '/') text) := by
    have whole : ((splitWhere (· = '/') text).map String.ofList).map String.toList =
        splitWhere (· = '/') text := by simp
    rw [← whole]
    exact (List.filter_sublist.trans List.filter_sublist).map _
  rw [joined, String.toList_ofList]
  conv => rhs; rw [← intercalate_splitWhere '/' text]
  exact intercalate_sublist isPart

end

end Path

namespace FileTree

variable {tree : FileTree} {base front here place : Place} {links : Nat} {steps : List String}

/-- A directory below which there are directories and files only, each of them in a directory and
with a name that is not too long. -/
structure Unlinked (tree : FileTree) (base : Place) : Prop where
  isDirectory : tree.at? base = some .directory
  noLink : ∀ {names target}, tree.at? (base ++ names) ≠ some (.link target)
  above : ∀ {names name entry}, tree.at? (base ++ names ++ [name]) = some entry →
    tree.at? (base ++ names) = some .directory
  short : ∀ {names name entry}, tree.at? (base ++ names ++ [name]) = some entry →
    (Utf8.encode name).length ≤ nameLimit

theorem Unlinked.ne_nil_of_file {names : List String} {content : Bytes}
    (unlinked : tree.Unlinked base) (found : tree.at? (base ++ names) = some (.file content)) :
    names ≠ [] := by
  rintro rfl
  rw [List.append_nil, unlinked.isDirectory] at found
  cases found

/-- Whatever has something below it is a directory. -/
theorem Unlinked.at?_of_append {more : List String} {entry : FileEntry}
    (unlinked : tree.Unlinked base) (found : tree.at? (base ++ front ++ more) = some entry)
    (nonempty : more ≠ []) : tree.at? (base ++ front) = some .directory := by
  induction more generalizing front with
  | nil => contradiction
  | cons name rest ih =>
      cases rest with
      | nil => exact unlinked.above found
      | cons next others =>
          have isPart : base ++ front ++ name :: next :: others =
              base ++ (front ++ [name]) ++ next :: others := by simp
          rw [isPart] at found
          have isDirectory := ih found (List.cons_ne_nil _ _)
          rw [← List.append_assoc] at isDirectory
          exact unlinked.above isDirectory

/-- What steps may end at: a directory, or a file unless a dot comes last. -/
def Stands (tree : FileTree) (place : Place) (steps : List String) : Prop :=
  tree.at? place = some .directory ∨ steps.getLast? ≠ some "." ∧ tree.isFile place = true

theorem isFile_iff : tree.isFile place = true ↔ ∃ content, tree.at? place = some (.file content) := by
  unfold isFile
  constructor
  · intro found
    split at found
    · exact ⟨_, ‹_›⟩
    · cases found
  · rintro ⟨content, found⟩
    rw [found]

theorem Stands.exists_at? (stands : tree.Stands place steps) :
    ∃ entry, tree.at? place = some entry := by
  rcases stands with found | ⟨_, found⟩
  · exact ⟨_, found⟩
  · obtain ⟨content, found⟩ := isFile_iff.1 found
    exact ⟨_, found⟩

theorem stands_cons {step : String} (noDot : step ≠ ".") :
    tree.Stands place (step :: steps) ↔ tree.Stands place steps := by
  have same : (step :: steps).getLast? ≠ some "." ↔ steps.getLast? ≠ some "." := by
    rw [List.getLast?_cons]
    cases steps.getLast? <;> simp [noDot]
  rw [Stands, same, Stands]

/-- A dot leads nowhere from a directory. -/
theorem stands_dot (isDirectory : tree.at? here = some .directory)
    (isPlace : place = here ++ Path.moves steps) :
    tree.Stands place ("." :: steps) ↔ tree.Stands place steps := by
  cases steps with
  | nil =>
      have same : tree.at? place = some .directory := by
        rw [isPlace]
        exact (List.append_nil here).symm ▸ isDirectory
      exact iff_of_true (.inl same) (.inl same)
  | cons next rest => rw [Stands, Stands, List.getLast?_cons_cons]

/-- Where steps lead to something, the first of them leads to a directory, or to a file at which they
end. -/
theorem Unlinked.first_of_stands {step : String} (unlinked : tree.Unlinked base)
    (stands : tree.Stands (base ++ front ++ step :: Path.moves steps) steps) :
    tree.at? (base ++ front ++ [step]) = some .directory ∨
      steps = [] ∧ tree.isFile (base ++ front ++ [step]) = true := by
  cases moved : Path.moves steps with
  | nil =>
      rw [moved] at stands
      refine stands.imp_right fun ⟨noDot, isFile⟩ => ⟨?_, isFile⟩
      -- All steps are dots, so there is no last one.
      have dots : ∀ step ∈ steps, step = "." := by simpa [Path.moves] using moved
      refine List.getLast?_eq_none_iff.1 (Option.eq_none_iff_forall_not_mem.2 fun last isLast => ?_)
      obtain rfl := dots last (List.mem_of_getLast? isLast)
      exact noDot isLast
  | cons next more =>
      rw [moved] at stands
      obtain ⟨entry, found⟩ := stands.exists_at?
      have isPart : base ++ front ++ step :: next :: more =
          base ++ (front ++ [step]) ++ next :: more := by simp
      rw [isPart] at found
      have isDirectory := unlinked.at?_of_append found (List.cons_ne_nil _ _)
      rw [← List.append_assoc] at isDirectory
      exact .inl isDirectory

/-- Steps that do not lead back lead straight down. -/
theorem Unlinked.follow_eq_ok_iff (unlinked : tree.Unlinked base) (noBack : ".." ∉ steps)
    (isDirectory : tree.at? (base ++ front) = some .directory) :
    tree.follow links (base ++ front) steps = .ok place ↔
      place = base ++ front ++ Path.moves steps ∧ tree.Stands place steps := by
  induction steps generalizing front with
  | nil =>
      rw [follow]
      constructor
      · rintro ⟨⟩
        exact ⟨(List.append_nil _).symm, .inl isDirectory⟩
      · rintro ⟨rfl, _⟩
        exact congrArg Except.ok (List.append_nil _).symm
  | cons step rest ih =>
      obtain ⟨notBack, ahead⟩ := not_or.1 (mt List.mem_cons.2 noBack)
      by_cases isDot : step = "."
      · subst isDot
        rw [follow, if_pos rfl, ih ahead isDirectory]
        exact and_congr_right fun isPlace => (stands_dot isDirectory isPlace).symm
      have kept : Path.moves (step :: rest) = step :: Path.moves rest :=
        List.filter_cons_of_pos (by simpa using isDot)
      rw [follow, if_neg isDot, if_neg (Ne.symm notBack), stands_cons isDot, kept]
      by_cases long : nameLimit < (Utf8.encode step).length
      · rw [if_pos long]
        refine iff_of_false (by rintro ⟨⟩) ?_
        rintro ⟨rfl, stands⟩
        rcases unlinked.first_of_stands stands with found | ⟨_, found⟩
        · exact absurd (unlinked.short found) (Nat.not_le.2 long)
        · obtain ⟨_, found⟩ := isFile_iff.1 found
          exact absurd (unlinked.short found) (Nat.not_le.2 long)
      rw [if_neg long]
      cases found : tree.at? (base ++ front ++ [step]) with
      | none =>
          refine iff_of_false (by rintro ⟨⟩) ?_
          rintro ⟨rfl, stands⟩
          rcases unlinked.first_of_stands stands with isThere | ⟨_, isThere⟩
          · cases found.symm.trans isThere
          · obtain ⟨_, isThere⟩ := isFile_iff.1 isThere
            cases found.symm.trans isThere
      | some entry =>
          cases entry with
          | directory =>
              dsimp only
              rw [List.append_assoc] at found ⊢
              rw [ih ahead found]
              simp
          | file content =>
              dsimp only
              by_cases isLast : rest = []
              · subst isLast
                rw [List.isEmpty_nil, if_pos rfl]
                constructor
                · rintro ⟨⟩
                  exact ⟨rfl, .inr ⟨by simp, isFile_iff.2 ⟨content, found⟩⟩⟩
                · rintro ⟨rfl, _⟩
                  rfl
              · rw [if_neg (by simpa using isLast)]
                refine iff_of_false (by rintro ⟨⟩) ?_
                rintro ⟨rfl, stands⟩
                rcases unlinked.first_of_stands stands with isThere | ⟨ends, _⟩
                · cases found.symm.trans isThere
                · exact isLast ends
          | link target =>
              rw [List.append_assoc] at found
              exact absurd found unlinked.noLink

/-- The names of a path lead to the directory to which the path leads. -/
theorem follow_names {root : String} (resolved : tree.resolve root = .ok base)
    (isDirectory : tree.at? base = some .directory) :
    root ≠ "" ∧ tree.follow linkLimit [] (Path.names root.toList) = .ok base := by
  unfold resolve at resolved
  split at resolved
  · cases resolved
  rename_i isChecked
  refine ⟨?_, ?_⟩
  · rintro rfl
    cases isChecked
  · have leads := leads_of_follow resolved isDirectory
    rw [Path.steps_eq] at leads
    obtain ⟨middle, used, left, sum, before, after⟩ := leads.exists_of_append
    have whole := before.mono (Nat.le.intro sum)
    split at after
    · cases after.of_dot
      exact whole.follow
    · cases after
      exact whole.follow

/-- A path that goes on from such a directory leads straight down from there. -/
theorem Unlinked.resolve_join_eq_ok_iff {root path : String} (unlinked : tree.Unlinked base)
    (resolved : tree.resolve root = .ok base) (relative : Path.isAbsolute path = false)
    (nonempty : path ≠ "") (noBack : ".." ∉ Path.names path.toList) :
    tree.resolve (Path.join root path) = .ok place ↔
      checked (Path.join root path) = .ok () ∧
        place = base ++ Path.moves (Path.names path.toList) ∧
        tree.Stands place (Path.steps path) := by
  obtain ⟨isRoot, found⟩ := follow_names resolved unlinked.isDirectory
  obtain ⟨left, goesOn⟩ := exists_follow_append (.refl tree) found unlinked.isDirectory
  have ahead : ".." ∉ Path.steps path := by
    rw [Path.steps_eq, List.mem_append, not_or]
    refine ⟨noBack, ?_⟩
    split <;> decide
  have down := @Unlinked.follow_eq_ok_iff tree base [] place left _ unlinked ahead
    ((List.append_nil base).symm ▸ unlinked.isDirectory)
  rw [List.append_nil, Path.moves_steps] at down
  unfold resolve
  cases isChecked : checked (Path.join root path) with
  | error fault =>
      refine iff_of_false ?_ ?_
      · rintro ⟨⟩
      · rintro ⟨⟨⟩, _⟩
  | ok =>
      dsimp only
      rw [Path.steps_join relative isRoot nonempty, goesOn, down]
      exact (and_iff_right rfl).symm

end FileTree

end Gatehouse
