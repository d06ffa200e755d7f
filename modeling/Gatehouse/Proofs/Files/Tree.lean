import Gatehouse.Files.Tree
/-!
# Files that grow

Adding to the end of a file leaves every way through the tree as it was, so the file is found again
where it was found.  The same holds of a file that is made where its path would put it: the way to
its directory leads past the place where nothing has been.
-/

namespace Gatehouse.FileTree

variable {tree : FileTree} {place other here directory : Place} {entry : FileEntry}
  {path name : String} {content before more : Bytes}

/-! ## What stands at a place -/

theorem ne_nil_of_at? (isFile : tree.at? place = some (.file content)) : place ≠ [] := by
  rintro rfl
  cases isFile

theorem at?_put_self (notRoot : place ≠ []) : (tree.put place entry).at? place = some entry := by
  rw [at?, if_neg (by simpa using notRoot), put, List.lookup_cons_self]

theorem lookup_filter_ne (entries : List (Place × FileEntry)) (apart : other ≠ place) :
    (entries.filter fun entry => entry.1 ≠ place).lookup other = entries.lookup other := by
  induction entries with
  | nil => rfl
  | cons head rest ih =>
      obtain ⟨key, value⟩ := head
      by_cases same : key = place
      · rw [List.filter_cons_of_neg (by simp [same]), ih, List.lookup_cons,
          beq_false_of_ne (same ▸ apart)]
      · rw [List.filter_cons_of_pos (by simp [same]), List.lookup_cons, List.lookup_cons, ih]

theorem at?_put_of_ne (apart : other ≠ place) :
    (tree.put place entry).at? other = tree.at? other := by
  rw [at?, at?, put, List.lookup_cons, beq_false_of_ne apart, lookup_filter_ne _ apart]

/-! ## Ways through the tree -/

/-- What a way depends on at a place: all but the content of a file. -/
def bare? : Option FileEntry → Option FileEntry
  | some (.file _) => some (.file [])
  | found => found

theorem eq_of_bare?_eq {found other : Option FileEntry} (same : bare? found = bare? other)
    (noFile : ∀ content, other ≠ some (.file content)) : found = other := by
  have whole : bare? other = other := by
    unfold bare?
    split
    · exact absurd rfl (noFile _)
    · rfl
  rw [whole] at same
  unfold bare? at same
  split at same
  · exact absurd same.symm (noFile [])
  · exact same

theorem exists_file_of_bare?_eq {found : Option FileEntry}
    (same : bare? found = bare? (some (.file content))) : ∃ other, found = some (.file other) := by
  unfold bare? at same
  split at same
  · exact ⟨_, rfl⟩
  · exact ⟨[], same⟩

/-- Ways do not depend on what is in files. -/
theorem follow_congr {changed : FileTree}
    (same : ∀ place, bare? (changed.at? place) = bare? (tree.at? place)) (links : Nat)
    (here : Place) (steps : List String) :
    changed.follow links here steps = tree.follow links here steps := by
  have kept {place : Place} {found : Option FileEntry} (isFound : tree.at? place = found)
      (noFile : ∀ content, found ≠ some (.file content)) : changed.at? place = found :=
    isFound ▸ eq_of_bare?_eq (same place) (isFound ▸ noFile)
  have file {place : Place} {content : Bytes} (isFile : tree.at? place = some (.file content)) :
      ∃ other, changed.at? place = some (.file other) :=
    exists_file_of_bare?_eq (isFile ▸ same place)
  fun_induction tree.follow links here steps with
  | case1 => rw [follow]
  | case2 _ _ _ ih => rw [follow, if_pos rfl, ih]
  | case3 _ _ _ _ ih => rw [follow, if_neg (by decide), if_pos rfl, ih]
  | case4 _ _ _ _ noDot noBack long => rw [follow, if_neg noDot, if_neg noBack, if_pos long]
  | case5 _ _ _ _ noDot noBack short isFree =>
      simp only [follow, noDot, noBack, short, kept isFree nofun, if_false]
  | case6 _ _ _ _ noDot noBack short isDirectory ih =>
      simp only [follow, noDot, noBack, short, kept isDirectory nofun, if_false, ih]
  | case7 _ _ _ _ noDot noBack short _ isFile isLast =>
      obtain ⟨_, isFile⟩ := file isFile
      simp only [follow, noDot, noBack, short, isFile, isLast, if_false, if_true]
  | case8 _ _ _ _ noDot noBack short _ isFile notLast =>
      obtain ⟨_, isFile⟩ := file isFile
      simp only [follow, noDot, noBack, short, isFile, if_false]
      rw [if_neg notLast]
  | case9 _ _ _ noDot noBack short _ isLink =>
      simp only [follow, noDot, noBack, short, kept isLink nofun, if_false]
  | case10 _ _ _ noDot noBack short _ isLink _ ih =>
      simp only [follow, noDot, noBack, short, kept isLink nofun, if_false]
      exact ih

/-- The directories and links of one tree stand in another one too. -/
def KeepsWays (tree changed : FileTree) : Prop :=
  ∀ place entry, tree.at? place = some entry → (∀ content, entry ≠ .file content) →
    changed.at? place = some entry

theorem KeepsWays.refl (tree : FileTree) : tree.KeepsWays tree := fun _ _ isFound _ => isFound

/-- Ways stay where something new stands at a place where no way led. -/
theorem keepsWays_put (noWay : ∀ entry, tree.at? place = some entry → ∃ content, entry = .file content) :
    tree.KeepsWays (tree.put place entry) := by
  intro other found isFound noFile
  rw [at?_put_of_ne, isFound]
  rintro rfl
  obtain ⟨content, isFile⟩ := noWay found isFound
  exact noFile content isFile

/-- A way to a directory is the start of longer ways, also in another tree that keeps the ways. -/
theorem exists_follow_append {changed : FileTree} (keeps : tree.KeepsWays changed) {links : Nat}
    {here : Place} {steps : List String} (found : tree.follow links here steps = .ok directory)
    (isDirectory : tree.at? directory = some .directory) :
    ∃ left, ∀ rest, changed.follow links here (steps ++ rest) =
      changed.follow left directory rest := by
  fun_induction tree.follow links here steps with
  | case1 links =>
      cases found
      exact ⟨links, fun _ => rfl⟩
  | case2 _ _ _ ih =>
      obtain ⟨left, follows⟩ := ih found
      exact ⟨left, fun rest => by rw [List.cons_append, follow, if_pos rfl, follows]⟩
  | case3 _ _ _ _ ih =>
      obtain ⟨left, follows⟩ := ih found
      exact ⟨left, fun rest => by
        rw [List.cons_append, follow, if_neg (by decide), if_pos rfl, follows]⟩
  | case4 => cases found
  | case5 => cases found
  | case6 _ _ _ _ noDot noBack short isStep ih =>
      obtain ⟨left, follows⟩ := ih found
      refine ⟨left, fun rest => ?_⟩
      simp only [List.cons_append, follow, noDot, noBack, short, keeps _ _ isStep nofun, if_false,
        follows]
  | case7 _ _ _ _ _ _ _ _ isFile =>
      cases found
      rw [isFile] at isDirectory
      cases isDirectory
  | case8 => cases found
  | case9 => cases found
  | case10 _ _ _ noDot noBack short _ isLink _ ih =>
      obtain ⟨left, follows⟩ := ih found
      refine ⟨left, fun rest => ?_⟩
      simp only [List.cons_append, follow, noDot, noBack, short, keeps _ _ isLink nofun, if_false]
      rw [← List.append_assoc]
      exact follows rest

/-! ## Adding to a file -/

/-- The path leads to a file with the content, or to a place for a new file, where nothing is. -/
inductive Holds (tree : FileTree) (path : String) : Bytes → Prop where
  | file {content : Bytes} (read : tree.read path = .ok content) : Holds tree path content
  | free {place : Place} (missing : tree.resolve path = .error .missing)
      (target : tree.target path = .ok place) (free : tree.at? place = none) : Holds tree path []

theorem read_eq_ok : tree.read path = .ok content ↔
    ∃ place, tree.resolve path = .ok place ∧ tree.at? place = some (.file content) := by
  unfold read
  constructor
  · intro read
    split at read
    · cases read
    · rename_i place resolved
      split at read
      · rename_i isFile
        cases read
        exact ⟨place, resolved, isFile⟩
      · cases read
  · rintro ⟨place, resolved, isFile⟩
    simp only [resolved, isFile]

theorem resolve_put_file (there : tree.at? place = some (.file before)) (path : String) :
    (tree.put place (.file content)).resolve path = tree.resolve path := by
  have same (other : Place) :
      bare? ((tree.put place (.file content)).at? other) = bare? (tree.at? other) := by
    by_cases isPlace : other = place
    · subst isPlace
      rw [at?_put_self (ne_nil_of_at? there), there]
      rfl
    · rw [at?_put_of_ne isPlace]
  unfold resolve
  split
  · rfl
  · exact follow_congr same _ _ _

/-- The parts of a path that would put a file at a place. -/
theorem of_target_eq_ok (target : tree.target path = .ok place) :
    checked path = .ok () ∧ ∃ directory name, place = directory ++ [name] ∧
      Path.steps path = (Path.steps path).dropLast ++ [name] ∧ name ≠ "." ∧ name ≠ ".." ∧
      ¬ nameLimit < (Utf8.encode name).length ∧
      tree.follow linkLimit [] (Path.steps path).dropLast = .ok directory ∧
      tree.at? directory = some .directory := by
  unfold FileTree.target at target
  split at target
  · cases target
  · cases target
  · rename_i name isChecked isLast
    split at target
    · cases target
    · rename_i noDots
      split at target
      · cases target
      · rename_i short
        split at target
        · cases target
        · rename_i directory found
          split at target
          · rename_i isDirectory
            cases target
            simp only [Bool.or_eq_true, decide_eq_true_eq, not_or] at noDots
            refine ⟨isChecked, directory, name, rfl, ?_, noDots.1, noDots.2, short, found,
              isDirectory⟩
            obtain ⟨front, steps⟩ := List.getLast?_eq_some_iff.1 isLast
            rw [steps, List.dropLast_concat]
          · cases target

/-- A path that would put a file at a place still does so where the ways are kept. -/
theorem KeepsWays.target {changed : FileTree} (keeps : tree.KeepsWays changed)
    (target : tree.target path = .ok place) : changed.target path = .ok place := by
  obtain ⟨isChecked, directory, name, rfl, steps, noDot, noBack, short, found, isDirectory⟩ :=
    of_target_eq_ok target
  obtain ⟨left, follows⟩ := exists_follow_append keeps found isDirectory
  have same := follows []
  rw [List.append_nil, follow] at same
  have stays : changed.at? directory = some .directory :=
    keeps directory .directory isDirectory fun _ => FileEntry.noConfusion
  rw [FileTree.target, isChecked, steps, List.getLast?_concat, List.dropLast_concat, same]
  simp [noDot, noBack, short, stays]

/-- A path leads to the file that stands where it would put one. -/
theorem resolve_of_target (target : tree.target path = .ok place)
    (isFile : tree.at? place = some (.file content)) : tree.resolve path = .ok place := by
  obtain ⟨isChecked, directory, name, rfl, steps, noDot, noBack, short, found, isDirectory⟩ :=
    of_target_eq_ok target
  obtain ⟨left, follows⟩ := exists_follow_append (.refl tree) found isDirectory
  rw [resolve, isChecked]
  dsimp only
  rw [steps, follows]
  simp only [follow, noDot, noBack, short, isFile, if_false, List.isEmpty_nil, if_true]

/-- A file that is made where its path would put it is found there. -/
theorem resolve_put_new (target : tree.target path = .ok place) (free : tree.at? place = none) :
    (tree.put place (.file content)).resolve path = .ok place := by
  have notRoot : place ≠ [] := by
    rintro rfl
    cases free
  have keeps : tree.KeepsWays (tree.put place (.file content)) :=
    keepsWays_put fun _ isFound => by
      rw [free] at isFound
      cases isFound
  exact resolve_of_target (keeps.target target) (at?_put_self notRoot)

/-- What is added to a file is found at its end. -/
theorem Holds.append (holds : tree.Holds path content) (more : Bytes) :
    ∃ after, tree.append path more = .ok after ∧ after.read path = .ok (content ++ more) := by
  cases holds with
  | file read =>
      obtain ⟨place, resolved, isFile⟩ := read_eq_ok.1 read
      refine ⟨tree.put place (.file (content ++ more)), ?_, read_eq_ok.2 ⟨place, ?_, ?_⟩⟩
      · simp only [FileTree.append, resolved, isFile]
      · rw [resolve_put_file isFile, resolved]
      · exact at?_put_self (ne_nil_of_at? isFile)
  | @free place missing target free =>
      obtain ⟨_, directory, name, same, _⟩ := of_target_eq_ok target
      refine ⟨tree.put place (.file more), ?_, read_eq_ok.2 ⟨place, ?_, ?_⟩⟩
      · simp [FileTree.append, missing, replace, target, free]
      · exact resolve_put_new target free
      · exact at?_put_self (by simp [same])

end Gatehouse.FileTree
