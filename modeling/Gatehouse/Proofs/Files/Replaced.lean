import Mathlib.Data.List.Flatten
import Gatehouse.Proofs.Files.Path
import Gatehouse.Proofs.Files.Tree
/-!
# Files that are replaced

A file that took the place of whatever stood at its path is found by that path, as long as the path
still names a place for a file: a link that stood there is gone, and a path that needed it on the way
to its own directory leads nowhere now.  All directories on the way are there, so replacing the
file once more makes none and changes nothing else.
-/

namespace Gatehouse.FileTree

variable {tree : FileTree} {here place directory : Place} {path : String} {links : Nat}
  {content before : Bytes}

/-! ## Directories on the way -/

/-- A place with nothing but directories on the way to it. -/
def Open (tree : FileTree) (place : Place) : Prop :=
  ∀ front, front <+: place → tree.at? front = some .directory

theorem open_root (tree : FileTree) : tree.Open [] := fun _ isFront =>
  List.prefix_nil.1 isFront ▸ rfl

theorem Open.isDirectory (isOpen : tree.Open place) : tree.at? place = some .directory :=
  isOpen place (List.prefix_refl place)

theorem Open.dropLast (isOpen : tree.Open place) : tree.Open place.dropLast := fun _ isFront =>
  isOpen _ (isFront.trans (List.dropLast_prefix place))

theorem Open.concat {name : String} (isOpen : tree.Open place)
    (isDirectory : tree.at? (place ++ [name]) = some .directory) : tree.Open (place ++ [name]) := by
  intro front isFront
  rcases List.prefix_concat_iff.1 isFront with rfl | isFront
  · exact isDirectory
  · exact isOpen front isFront

/-- Some steps lead from a directory to a directory, through at most so many links. -/
inductive Leads (tree : FileTree) : Nat → Place → List String → Place → Prop where
  | done {links : Nat} {here : Place} : tree.Leads links here [] here
  | dot {links : Nat} {here place : Place} {rest : List String}
      (leads : tree.Leads links here rest place) : tree.Leads links here ("." :: rest) place
  | back {links : Nat} {here place : Place} {rest : List String}
      (leads : tree.Leads links here.dropLast rest place) : tree.Leads links here (".." :: rest) place
  | down {links : Nat} {here place : Place} {step : String} {rest : List String} (noDot : step ≠ ".")
      (noBack : step ≠ "..") (short : ¬ nameLimit < (Utf8.encode step).length)
      (isDirectory : tree.at? (here ++ [step]) = some .directory)
      (leads : tree.Leads links (here ++ [step]) rest place) : tree.Leads links here (step :: rest) place
  | link {links : Nat} {here place : Place} {step target : String} {rest : List String}
      (noDot : step ≠ ".") (noBack : step ≠ "..")
      (short : ¬ nameLimit < (Utf8.encode step).length)
      (isLink : tree.at? (here ++ [step]) = some (.link target))
      (leads : tree.Leads links (if Path.isAbsolute target then [] else here)
        (Path.steps target ++ rest) place) : tree.Leads (links + 1) here (step :: rest) place

theorem leads_of_follow {steps : List String} (found : tree.follow links here steps = .ok place)
    (isDirectory : tree.at? place = some .directory) : tree.Leads links here steps place := by
  fun_induction tree.follow links here steps with
  | case1 =>
      cases found
      exact .done
  | case2 _ _ _ ih => exact .dot (ih found)
  | case3 _ _ _ _ ih => exact .back (ih found)
  | case4 => cases found
  | case5 => cases found
  | case6 _ _ _ _ noDot noBack short isStep ih => exact .down noDot noBack short isStep (ih found)
  | case7 _ _ _ _ _ _ _ _ isFile =>
      cases found
      rw [isFile] at isDirectory
      cases isDirectory
  | case8 => cases found
  | case9 => cases found
  | case10 _ _ _ noDot noBack short _ isLink _ ih => exact .link noDot noBack short isLink (ih found)

namespace Leads

variable {steps first rest : List String} {middle : Place}

theorem follow (leads : tree.Leads links here steps place) :
    tree.follow links here steps = .ok place := by
  induction leads with
  | done => rw [FileTree.follow]
  | dot _ ih => rw [FileTree.follow, if_pos rfl, ih]
  | back _ ih => rw [FileTree.follow, if_neg (by decide), if_pos rfl, ih]
  | down noDot noBack short isStep _ ih =>
      simp only [FileTree.follow, noDot, noBack, short, isStep, if_false, ih]
  | link noDot noBack short isLink _ ih =>
      simp only [FileTree.follow, noDot, noBack, short, isLink, if_false]
      exact ih

/-- More links may be allowed than a way leads through. -/
theorem mono {more : Nat} (leads : tree.Leads links here steps place) (le : links ≤ more) :
    tree.Leads more here steps place := by
  induction leads generalizing more with
  | done => exact .done
  | dot _ ih => exact .dot (ih le)
  | back _ ih => exact .back (ih le)
  | down noDot noBack short isStep _ ih => exact .down noDot noBack short isStep (ih le)
  | link noDot noBack short isLink _ ih =>
      cases more with
      | zero => exact absurd le (Nat.not_succ_le_zero _)
      | succ more => exact .link noDot noBack short isLink (ih (Nat.le_of_succ_le_succ le))

/-- A way goes on where another one ends. -/
theorem append {more : Nat} (leads : tree.Leads links here first middle)
    (goesOn : tree.Leads more middle rest place) :
    tree.Leads (links + more) here (first ++ rest) place := by
  induction leads with
  | done => exact goesOn.mono (Nat.le_add_left _ _)
  | dot _ ih => exact .dot (ih goesOn)
  | back _ ih => exact .back (ih goesOn)
  | down noDot noBack short isStep _ ih => exact .down noDot noBack short isStep (ih goesOn)
  | link noDot noBack short isLink _ ih =>
      have goesOn := ih goesOn
      rw [List.append_assoc] at goesOn
      rw [Nat.succ_add]
      exact .link noDot noBack short isLink goesOn

/-- A way can be cut in two anywhere. -/
theorem exists_of_append (leads : tree.Leads links here (first ++ rest) place) :
    ∃ middle used left, used + left = links ∧ tree.Leads used here first middle ∧
      tree.Leads left middle rest place := by
  generalize whole : first ++ rest = steps at leads
  induction leads generalizing first with
  | @done links here =>
      obtain ⟨rfl, rfl⟩ := List.append_eq_nil_iff.1 whole
      exact ⟨here, 0, links, Nat.zero_add _, .done, .done⟩
  | @dot links here _ _ leads ih =>
      rcases List.append_eq_cons_iff.1 whole with ⟨rfl, rfl⟩ | ⟨first, rfl, rfl⟩
      · exact ⟨here, 0, links, Nat.zero_add _, .done, .dot leads⟩
      · obtain ⟨middle, used, left, sum, before, after⟩ := ih rfl
        exact ⟨middle, used, left, sum, .dot before, after⟩
  | @back links here _ _ leads ih =>
      rcases List.append_eq_cons_iff.1 whole with ⟨rfl, rfl⟩ | ⟨first, rfl, rfl⟩
      · exact ⟨here, 0, links, Nat.zero_add _, .done, .back leads⟩
      · obtain ⟨middle, used, left, sum, before, after⟩ := ih rfl
        exact ⟨middle, used, left, sum, .back before, after⟩
  | @down links here _ _ _ noDot noBack short isStep leads ih =>
      rcases List.append_eq_cons_iff.1 whole with ⟨rfl, rfl⟩ | ⟨first, rfl, rfl⟩
      · exact ⟨here, 0, links, Nat.zero_add _, .done, .down noDot noBack short isStep leads⟩
      · obtain ⟨middle, used, left, sum, before, after⟩ := ih rfl
        exact ⟨middle, used, left, sum, .down noDot noBack short isStep before, after⟩
  | @link links here _ _ _ _ noDot noBack short isLink leads ih =>
      rcases List.append_eq_cons_iff.1 whole with ⟨rfl, rfl⟩ | ⟨first, rfl, rfl⟩
      · exact ⟨here, 0, _, Nat.zero_add _, .done, .link noDot noBack short isLink leads⟩
      · obtain ⟨middle, used, left, sum, before, after⟩ := ih (List.append_assoc _ _ _)
        exact ⟨middle, used + 1, left, by omega, .link noDot noBack short isLink before, after⟩

theorem exists_of_cons {step : String} (leads : tree.Leads links here (step :: rest) place) :
    ∃ middle used left, used + left = links ∧ tree.Leads used here [step] middle ∧
      tree.Leads left middle rest place :=
  exists_of_append leads

theorem of_dot (leads : tree.Leads links here ("." :: rest) place) :
    tree.Leads links here rest place := by
  generalize whole : "." :: rest = steps at leads
  cases leads with
  | done => cases whole
  | dot leads =>
      cases whole
      exact leads
  | back => exact absurd (List.cons.inj whole).1 (by decide)
  | down noDot => exact absurd (List.cons.inj whole).1.symm noDot
  | link noDot => exact absurd (List.cons.inj whole).1.symm noDot

/-- A way stays a way without its single dots. -/
theorem moves (leads : tree.Leads links here steps place) :
    tree.Leads links here (Path.moves steps) place := by
  induction steps generalizing links here with
  | nil => exact leads
  | cons step rest ih =>
      by_cases isDot : step = "."
      · subst isDot
        exact ih leads.of_dot
      · obtain ⟨middle, used, left, rfl, before, after⟩ := leads.exists_of_cons
        have kept : Path.moves (step :: rest) = [step] ++ Path.moves rest :=
          List.filter_cons_of_pos (by simpa using isDot)
        rw [kept]
        exact before.append (ih after)

theorem isOpen (leads : tree.Leads links here steps place) (isOpen : tree.Open here) :
    tree.Open place := by
  induction leads with
  | done => exact isOpen
  | dot _ ih => exact ih isOpen
  | back _ ih => exact ih isOpen.dropLast
  | down _ _ _ isStep _ ih => exact ih (isOpen.concat isStep)
  | link _ _ _ _ _ ih =>
      refine ih ?_
      split
      · exact tree.open_root
      · exact isOpen

/-- No directory is missing on a way that leads to one. -/
theorem makeWay (leads : tree.Leads links here (Path.moves steps) place) (le : links ≤ linkLimit)
    (isOpen : tree.Open here) : tree.makeWay here steps = .ok tree := by
  induction steps generalizing links here with
  | nil => rfl
  | cons step rest ih =>
      by_cases isDot : step = "."
      · subst isDot
        have stays : tree.follow linkLimit here ["."] = .ok here := Leads.follow (.dot .done)
        simp only [FileTree.makeWay, stays, isOpen.isDirectory, if_true]
        exact ih leads le isOpen
      · have kept : Path.moves (step :: rest) = step :: Path.moves rest :=
          List.filter_cons_of_pos (by simpa using isDot)
        rw [kept] at leads
        obtain ⟨middle, used, left, rfl, before, after⟩ := leads.exists_of_cons
        have isMiddle := before.isOpen isOpen
        have goes := (before.mono (Nat.le_trans (Nat.le_add_right _ _) le)).follow
        simp only [FileTree.makeWay, goes, isMiddle.isDirectory, if_true]
        exact ih after (Nat.le_trans (Nat.le_add_left _ _) le) isMiddle

end Leads

/-- A path that a tree can hold stays one when something is left out of it. -/
theorem checked_of_sublist {part whole : String} (isPart : part.toList.Sublist whole.toList)
    (nonempty : ¬ part.isEmpty = true) (isChecked : checked whole = .ok ()) :
    checked part = .ok () := by
  unfold checked at isChecked ⊢
  split at isChecked
  · cases isChecked
  · rename_i noNul
    split at isChecked
    · cases isChecked
    · rename_i short
      have partNoNul : ¬ part.toList.contains '\x00' = true := fun hasNul =>
        noNul (List.contains_iff_mem.2 (isPart.subset (List.contains_iff_mem.1 hasNul)))
      have partShort : ¬ pathLimit < (Utf8.encode part).length := fun long =>
        short (Nat.lt_of_lt_of_le long (isPart.flatMap _).length_le)
      rw [if_neg partNoNul, if_neg partShort, if_neg nonempty]

/-- A path that names a place for a file has all its directories. -/
theorem makeDirectory_parent {parent : String} (target : tree.target path = .ok place)
    (isParent : Path.parent? path = some parent) : tree.makeDirectory parent = .ok tree := by
  obtain ⟨isChecked, directory, name, rfl, steps, noDot, noBack, short, found, isDirectory⟩ :=
    of_target_eq_ok target
  have lastNoDot : (Path.steps path).getLast? ≠ some "." := by
    rw [steps, List.getLast?_concat]
    exact fun isDot => noDot (Option.some.inj isDot)
  obtain ⟨same, isFront⟩ := Path.moves_steps_parent lastNoDot isParent
  have leads := (leads_of_follow found isDirectory).moves
  rw [← same] at leads
  unfold makeDirectory
  split
  · rfl
  · rename_i nonempty
    rw [checked_of_sublist isFront.sublist nonempty isChecked]
    exact leads.makeWay (Nat.le_refl _) tree.open_root

/-! ## Replacing a file -/

theorem put_put {first second : FileEntry} :
    (tree.put place first).put place second = tree.put place second := by
  simp [put, List.filter_filter]

theorem exists_of_replace {changed : FileTree} (replaced : tree.replace path content = .ok changed) :
    ∃ place, tree.target path = .ok place ∧ tree.at? place ≠ some .directory ∧
      changed = tree.put place (.file content) := by
  unfold replace at replaced
  split at replaced
  · cases replaced
  · rename_i place target
    split at replaced
    · cases replaced
    · rename_i noDirectory
      exact ⟨place, target, noDirectory, (Except.ok.inj replaced).symm⟩

/-- A path that names a place for a file.  A path can lose it by the file that is put there: where
`way` was a link to a directory, `way/../way` named a place as long as the link stood. -/
def Admits (tree : FileTree) (path : String) : Prop := ∃ place, tree.target path = .ok place

/-- A file took its place: it is found there, and replacing it by itself changes nothing. -/
structure Keeps (tree : FileTree) (path : String) (content : Bytes) : Prop where
  read : tree.read path = .ok content
  replace : tree.replace path content = .ok tree
  parent : ∀ parent, Path.parent? path = some parent → tree.makeDirectory parent = .ok tree

/-- A file that took the place of whatever was there is kept, if its path names a place still. -/
theorem keeps_of_replace {changed : FileTree} (replaced : tree.replace path content = .ok changed)
    (admits : changed.Admits path) : changed.Keeps path content := by
  obtain ⟨place, target, noDirectory, rfl⟩ := exists_of_replace replaced
  obtain ⟨other, still⟩ := admits
  have notRoot : place ≠ [] := by
    rintro rfl
    exact noDirectory rfl
  have isFile : (tree.put place (.file content)).at? place = some (.file content) :=
    at?_put_self notRoot
  have keeps : (tree.put place (.file content)).KeepsWays tree := by
    intro somewhere entry isFound noFile
    have apart : somewhere ≠ place := by
      rintro rfl
      rw [isFile] at isFound
      exact noFile content (Option.some.inj isFound).symm
    rwa [at?_put_of_ne apart] at isFound
  obtain rfl : place = other := Except.ok.inj (target.symm.trans (keeps.target still))
  refine ⟨read_eq_ok.2 ⟨place, resolve_of_target still isFile, isFile⟩, ?_, ?_⟩
  · rw [FileTree.replace, still]
    simp only [isFile, put_put]
    rfl
  · exact fun parent isParent => makeDirectory_parent still isParent

/-- The path names its place still where no link stood there. -/
theorem admits_put {entry : FileEntry} (target : tree.target path = .ok place)
    (noWay : ∀ entry, tree.at? place = some entry → ∃ content, entry = .file content) :
    (tree.put place entry).Admits path :=
  ⟨place, (keepsWays_put noWay).target target⟩

end Gatehouse.FileTree
