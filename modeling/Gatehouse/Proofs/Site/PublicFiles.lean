import Gatehouse.Proofs.Files.Below
import Gatehouse.Proofs.Site.Handling
/-!
# Public files

The gate takes the path of a request as it is spelled, and the file is served for the path with its
escapes decoded.  Where the path has no escapes and is spelled straight, both take it for the same
file.  With an escape in it the gate looks for a file with the escape in its name.
-/

namespace Gatehouse.Site

open Access (Gate)

variable {tree : FileTree} {root path : String} {base : Gatehouse.Place}

/-! ## Paths of requests -/

/-- A path without the slashes at its start. -/
def relative (path : String) : String := String.ofList (path.toList.dropWhile (· = '/'))

theorem isAbsolute_relative (path : String) : Path.isAbsolute (relative path) = false := by
  refine decide_eq_false fun isStart => ?_
  rw [relative, String.toList_ofList] at isStart
  have stops := List.head?_dropWhile_not (fun c => decide (c = '/')) path.toList
  rw [isStart] at stops
  simp at stops

theorem names_relative (path : String) :
    Path.names (relative path).toList = Path.names path.toList := by
  rw [relative, String.toList_ofList, Path.names_dropWhile_slash]

/-- Among the parts of a path between its slashes are the names and nothing else, unless it is
empty. -/
theorem mem_split_iff {name : String} (nonempty : name ≠ "") :
    name ∈ Text.split '/' path ↔ name ∈ Path.names path.toList := by
  rw [Path.names, List.mem_filter]
  exact (and_iff_left (by simpa using nonempty)).symm

/-! ## What the gate looks for -/

/-- The path, as it is spelled, leads down to a file. -/
structure Spells (tree : FileTree) (root : String) (base : Gatehouse.Place) (path : String) : Prop where
  down : Gate.goesDown (relative path) = true
  ends : (Path.steps (relative path)).getLast? ≠ some "."
  fits : FileTree.checked (Path.join root (relative path)) = .ok ()
  isFile : tree.isFile (base ++ Path.moves (Path.names path.toList)) = true

theorem goesDown_iff :
    Gate.goesDown path = true ↔
      path ≠ "" ∧ (Text.split '/' path).head? ≠ some "." ∧ ".." ∉ Path.names path.toList := by
  rw [← mem_split_iff (by decide)]
  simp [Gate.goesDown, and_assoc]

/-- The gate takes a path for a public file exactly if the path is spelled as one. -/
theorem isPublicFile_iff {gate : Gate} (isSet : gate.publicFiles = some root)
    (resolved : tree.resolve root = .ok base) (unlinked : tree.Unlinked base) :
    gate.isPublicFile tree path = true ↔ Spells tree root base path := by
  have leads {place : Gatehouse.Place} (down : Gate.goesDown (relative path) = true) :=
    @FileTree.Unlinked.resolve_join_eq_ok_iff tree base place root _ unlinked resolved
      (isAbsolute_relative path) (goesDown_iff.1 down).1 (goesDown_iff.1 down).2.2
  rw [names_relative] at leads
  rw [Gate.isPublicFile, isSet]
  dsimp only
  rw [← relative, resolved, Bool.and_eq_true]
  constructor
  · rintro ⟨down, found⟩
    split at found
    · rename_i isRoot reached
      cases isRoot
      obtain ⟨fits, rfl, stands⟩ := (leads down).1 reached
      have isFile := (Bool.and_eq_true_iff.1 found).2
      rcases stands with isDirectory | ⟨ends, _⟩
      · obtain ⟨_, found⟩ := FileTree.isFile_iff.1 isFile
        cases isDirectory.symm.trans found
      · exact ⟨down, ends, fits, isFile⟩
    · cases found
  · rintro ⟨down, ends, fits, isFile⟩
    rw [(leads down).2 ⟨fits, rfl, .inr ⟨ends, isFile⟩⟩]
    refine ⟨down, Bool.and_eq_true_iff.2 ⟨?_, isFile⟩⟩
    exact List.isPrefixOf_iff_prefix.2 (List.prefix_append _ _)

/-- No path with two dots for a name is taken for a public file, whatever stands in the tree. -/
theorem isPublicFile_of_back (gate : Gate) (tree : FileTree) (back : ".." ∈ Text.split '/' path) :
    gate.isPublicFile tree path = false := by
  have up : Gate.goesDown (relative path) = false := by
    refine Bool.eq_false_iff.2 fun down => (goesDown_iff.1 down).2.2 ?_
    rw [names_relative]
    exact (mem_split_iff (by decide)).1 back
  unfold Gate.isPublicFile
  split
  · rfl
  · dsimp only
    rw [← relative, up, Bool.false_and]

/-! ## What is served -/

/-- The names that a path has when its escapes are decoded. -/
theorem namesBelow?_eq {decoded : String}
    (isDecoded : Percent.decodeText? (relative path) = some decoded) :
    namesBelow? path =
      if Path.isAbsolute decoded = true ∨ ".." ∈ Path.names decoded.toList then none
      else some (Path.moves (Path.names decoded.toList)) := by
  have kept : ((Text.split '/' decoded).filter fun name => !name.isEmpty && name ≠ ".") =
      Path.moves (Path.names decoded.toList) := by
    rw [Path.moves, Path.names, List.filter_filter]
    exact List.filter_congr fun name _ => Bool.and_comm _ _
  rw [namesBelow?, ← relative, isDecoded]
  dsimp only
  simp only [Bool.or_eq_true, List.contains_iff_mem, mem_split_iff (by decide : ".." ≠ ""), kept]

theorem namesBelow?_eq_some {names : List String} (named : namesBelow? path = some names) :
    (∀ name ∈ names, Path.IsName name) ∧ ".." ∉ names ∧ Path.moves names = names := by
  cases isDecoded : Percent.decodeText? (relative path) with
  | none =>
      rw [namesBelow?, ← relative, isDecoded] at named
      cases named
  | some decoded =>
      rw [namesBelow?_eq isDecoded] at named
      split at named
      · cases named
      · rename_i straight
        cases named
        refine ⟨fun name isMember => Path.isName_of_mem_names ((List.mem_filter.1 isMember).1),
          fun back => straight (.inr ((List.mem_filter.1 back).1)), ?_⟩
        rw [Path.moves, Path.moves, List.filter_filter]
        exact List.filter_congr fun name _ => Bool.and_self _

/-- A file that a path names, with its escapes decoded, is served under that path. -/
theorem publicFile_eq {names : List String} {content : Bytes} {method : String}
    {target : Http.Target} (unlinked : tree.Unlinked base) (resolved : tree.resolve root = .ok base)
    (isRetrieval : Http.isRetrieval method = true) (named : namesBelow? target.path = some names)
    (fits : FileTree.checked (Path.join root (Path.joined names)) = .ok ())
    (found : tree.at? (base ++ names) = some (.file content)) :
    publicFile tree root method target =
      ⟨200, [("content-type", Http.MediaType.ofName (names.getLast?.getD ""))], content⟩ := by
  obtain ⟨isRow, noBack, kept⟩ := namesBelow?_eq_some named
  have nonempty := unlinked.ne_nil_of_file found
  obtain ⟨isRoot, _⟩ := FileTree.follow_names resolved unlinked.isDirectory
  have noDot : names.getLast? ≠ some "." := fun isLast => by
    have isMember := List.mem_of_getLast? isLast
    rw [← kept] at isMember
    exact absurd (List.mem_filter.1 isMember).2 (by decide)
  have back : ".." ∉ Path.names (Path.joined names).toList := by
    rwa [Path.names_joined isRow nonempty]
  have reached : tree.resolve (Path.join root (Path.joined names)) = .ok (base ++ names) := by
    refine (unlinked.resolve_join_eq_ok_iff resolved (Path.isAbsolute_joined isRow nonempty)
      (Path.joined_ne_empty isRow nonempty) back).2 ⟨fits, ?_, .inr ⟨?_, ?_⟩⟩
    · rw [Path.names_joined isRow nonempty, kept]
    · rwa [Path.steps_joined isRow nonempty]
    · exact FileTree.isFile_iff.2 ⟨content, found⟩
  have noDirectory : tree.isDirectory (Path.join root (Path.joined names)) = false := by
    simp only [FileTree.isDirectory, reached, found]
    rfl
  have read : tree.read (Path.join root (Path.joined names)) = .ok content :=
    FileTree.read_eq_ok.2 ⟨_, reached, found⟩
  rw [publicFile, if_pos isRetrieval, named]
  dsimp only
  rw [Path.foldl_join isRoot isRow nonempty, noDirectory, Bool.not_false, if_pos rfl,
    fileResponse, read, Path.name?_join_joined isRoot isRow nonempty kept]

/-! ## Where both agree -/

/-- The path has no escapes, does not begin or end with a dot for a name nor end with a slash, and is
not too long. -/
structure Straight (root path : String) : Prop where
  decoded : Percent.decodeText? (relative path) = some (relative path)
  starts : (Text.split '/' (relative path)).head? ≠ some "."
  ends : (Path.steps (relative path)).getLast? ≠ some "."
  fits : FileTree.checked (Path.join root (relative path)) = .ok ()

/-- The path names a file when its escapes are decoded. -/
def NamesFile (tree : FileTree) (base : Gatehouse.Place) (path : String) : Prop :=
  ∃ names, namesBelow? path = some names ∧ tree.isFile (base ++ names) = true

theorem Straight.namesBelow?_eq (straight : Straight root path) :
    namesBelow? path =
      if ".." ∈ Path.names path.toList then none
      else some (Path.moves (Path.names path.toList)) := by
  rw [Site.namesBelow?_eq straight.decoded, isAbsolute_relative, names_relative]
  simp

/-- A path that is spelled straight is spelled as a file exactly if it names one. -/
theorem Straight.spells_iff (straight : Straight root path) (unlinked : tree.Unlinked base) :
    Spells tree root base path ↔ NamesFile tree base path := by
  unfold NamesFile
  rw [straight.namesBelow?_eq]
  constructor
  · intro spells
    have noBack := (goesDown_iff.1 spells.down).2.2
    rw [names_relative] at noBack
    exact ⟨_, if_neg noBack, spells.isFile⟩
  · rintro ⟨names, named, isFile⟩
    split at named
    · cases named
    rename_i noBack
    cases named
    refine ⟨goesDown_iff.2 ⟨?_, straight.starts, ?_⟩, straight.ends, straight.fits, isFile⟩
    · intro isEmpty
      have noNames := names_relative path
      rw [isEmpty] at noNames
      obtain ⟨content, found⟩ := FileTree.isFile_iff.1 isFile
      refine unlinked.ne_nil_of_file found ?_
      rw [← noNames]
      rfl
    · rwa [names_relative]

/-- The path by which the file is opened is no longer than the one that is spelled. -/
theorem Straight.checked_joined {names : List String} (straight : Straight root path)
    (isRoot : root ≠ "") (named : namesBelow? path = some names) (nonempty : names ≠ []) :
    FileTree.checked (Path.join root (Path.joined names)) = .ok () := by
  obtain ⟨isRow, _, _⟩ := namesBelow?_eq_some named
  have isRelative := Path.isAbsolute_joined isRow nonempty
  have isPart : (Path.joined names).toList.Sublist (relative path).toList := by
    rw [straight.namesBelow?_eq, ← names_relative] at named
    split at named
    · cases named
    · rw [← Option.some.inj named]
      exact Path.joined_sublist _
  refine FileTree.checked_of_sublist ?_ ?_ straight.fits
  · rw [Path.toList_join isRelative isRoot, Path.toList_join (isAbsolute_relative path) isRoot]
    exact (List.Sublist.refl _).append isPart
  · simpa using Path.join_ne_empty isRelative isRoot (Path.joined_ne_empty isRow nonempty)

/-- A path that is spelled straight and names a file is answered with that file. -/
theorem Straight.exists_publicFile_eq {method : String} {target : Http.Target}
    (straight : Straight root target.path) (unlinked : tree.Unlinked base)
    (resolved : tree.resolve root = .ok base) (isRetrieval : Http.isRetrieval method = true)
    (namesFile : NamesFile tree base target.path) :
    ∃ names content, namesBelow? target.path = some names ∧
      tree.at? (base ++ names) = some (.file content) ∧
      publicFile tree root method target =
        ⟨200, [("content-type", Http.MediaType.ofName (names.getLast?.getD ""))], content⟩ := by
  obtain ⟨names, named, isFile⟩ := namesFile
  obtain ⟨content, found⟩ := FileTree.isFile_iff.1 isFile
  have isRoot := (FileTree.follow_names resolved unlinked.isDirectory).1
  have nonempty := unlinked.ne_nil_of_file found
  exact ⟨names, content, named, found, publicFile_eq unlinked resolved isRetrieval named
    (straight.checked_joined isRoot named nonempty) found⟩

/-! ## Requests for files -/

theorem admission_eq_publicFile_iff {gate : Gate} {method : String} {headers : Http.Headers}
    {client : Option Address} {now : Instant} :
    gate.admission tree method path headers client now = .publicFile ↔
      Http.isRetrieval method = true ∧ gate.isPublicFile tree path = true := by
  rw [Gate.admission, ← Bool.and_eq_true]
  split
  · rename_i isPublic
    exact iff_of_true rfl isPublic
  · rename_i notPublic
    refine iff_of_false ?_ notPublic
    split
    · exact nofun
    · split <;> exact nofun

namespace Handling

variable {handling : Handling}

/-- The request fetches something, and the directory of public files is there and holds nothing but
directories and files. -/
structure Publishes (handling : Handling) (base : Gatehouse.Place) : Prop where
  isRetrieval : Http.isRetrieval handling.request.method = true
  isSet : handling.site.gate.publicFiles = some handling.site.settings.staticDirectory
  resolved : handling.tree.resolve handling.site.settings.staticDirectory = .ok base
  unlinked : handling.tree.Unlinked base

theorem Publishes.admission_iff (publishes : handling.Publishes base) :
    handling.admission = .publicFile ↔
      Spells handling.tree handling.site.settings.staticDirectory base
        handling.request.target.path := by
  rw [admission, admission_eq_publicFile_iff, and_iff_right publishes.isRetrieval,
    isPublicFile_iff publishes.isSet publishes.resolved publishes.unlinked]

theorem respond_of_publicFile (isPublic : handling.admission = .publicFile)
    (elsewhere : handling.request.target.path ≠ logoutPath)
    (noPlace : Place.ofPath? handling.request.target.path = none) :
    handling.site.respond handling.tree handling.request handling.now handling.id =
      .done (handling.site.unchanged
        (publicFile handling.tree handling.site.settings.staticDirectory handling.request.method
          handling.request.target)) := by
  unfold respond
  dsimp only
  rw [if_neg elsewhere, ← admission, isPublic]
  dsimp only
  rw [admitted, noPlace]

/-- Whoever is admitted for a public file gets it, unless the path has another meaning. -/
theorem handled_of_publicFile (happens : handling.Happens)
    (isPublic : handling.admission = .publicFile)
    (elsewhere : handling.request.target.path ≠ logoutPath)
    (noPlace : Place.ofPath? handling.request.target.path = none) :
    handling.handled = sent handling.request (handling.site.unchanged
      (publicFile handling.tree handling.site.settings.staticDirectory handling.request.method
        handling.request.target)) := by
  obtain ⟨answer, responded, isSent⟩ := happens_iff.1 happens
  rw [respond_of_publicFile isPublic elsewhere noPlace] at responded
  obtain ⟨rfl, _⟩ := Dialogue.ends_done.1 responded
  exact isSent

theorem denied_of_unknown
    (unknown : ∀ name, ¬ handling.site.gate.Vouches handling.request handling.now name)
    (notPublic : handling.admission ≠ .publicFile) : handling.admission = .denied := by
  cases decided : handling.admission with
  | publicFile => exact absurd decided notPublic
  | token name => exact absurd (Gate.vouches_of_token decided) (unknown name)
  | allowList name => exact absurd (Gate.vouches_of_allowList decided) (unknown name)
  | denied => rfl

/-- Whom the gate does not know and who is not admitted for a public file is asked for a login. -/
theorem refuses_of_not_publicFile (happens : handling.Happens)
    (isRetrieval : Http.isRetrieval handling.request.method = true)
    (unknown : ∀ name, ¬ handling.site.gate.Vouches handling.request handling.now name)
    (elsewhere : handling.request.target.path ≠ logoutPath)
    (notPublic : handling.admission ≠ .publicFile) :
    Refuses handling.site handling.handled := by
  have denied := denied_of_unknown unknown notPublic
  refine refuses_of_unwelcome happens ⟨elsewhere, denied, fun subject afterReset exchanges => ?_⟩
  rw [exchanges.isPost] at isRetrieval
  exact absurd isRetrieval (by decide)

end Handling

/-- Public files, as the gate admits them and as they are served.  No path with two dots for a name
is ever admitted.  Below a directory without links a request is admitted exactly if its path leads
to a file as it is spelled, and whoever is unknown is refused otherwise.  Where the path is spelled
straight, this is the case exactly if the path names a file when its escapes are decoded, and then
that file is served. -/
theorem public_files_agree {handling : Handling} (happens : handling.Happens) :
    (".." ∈ Text.split '/' handling.request.target.path → handling.admission ≠ .publicFile) ∧
    ∀ base, handling.Publishes base →
      (handling.admission = .publicFile ↔
        Spells handling.tree handling.site.settings.staticDirectory base
          handling.request.target.path) ∧
      ((∀ name, ¬ handling.site.gate.Vouches handling.request handling.now name) →
        handling.request.target.path ≠ logoutPath → handling.admission ≠ .publicFile →
          Refuses handling.site handling.handled) ∧
      (Straight handling.site.settings.staticDirectory handling.request.target.path →
        (handling.admission = .publicFile ↔
          NamesFile handling.tree base handling.request.target.path) ∧
        (handling.admission = .publicFile → handling.request.target.path ≠ logoutPath →
          Place.ofPath? handling.request.target.path = none →
            ∃ names content, namesBelow? handling.request.target.path = some names ∧
              handling.tree.at? (base ++ names) = some (.file content) ∧
              handling.handled = sent handling.request (handling.site.unchanged
                ⟨200, [("content-type", Http.MediaType.ofName (names.getLast?.getD ""))],
                  content⟩))) := by
  refine ⟨fun back isPublic => ?_, fun base publishes => ⟨publishes.admission_iff, ?_, ?_⟩⟩
  · have found := (admission_eq_publicFile_iff.1 isPublic).2
    rw [isPublicFile_of_back _ _ back] at found
    cases found
  · exact Handling.refuses_of_not_publicFile happens publishes.isRetrieval
  · intro straight
    have agree : handling.admission = .publicFile ↔
        NamesFile handling.tree base handling.request.target.path :=
      publishes.admission_iff.trans (straight.spells_iff publishes.unlinked)
    refine ⟨agree, fun isPublic elsewhere noPlace => ?_⟩
    obtain ⟨names, content, named, found, served⟩ := straight.exists_publicFile_eq
      publishes.unlinked publishes.resolved publishes.isRetrieval (agree.1 isPublic)
    refine ⟨names, content, named, found, ?_⟩
    rw [Handling.handled_of_publicFile happens isPublic elsewhere noPlace, served]

/-! ### A file, and a name with a blank in it -/

namespace Shelf

open Login (now id)

/-- What is in the file. -/
def content : Bytes := Utf8.encode "text"

/-- A tree with one public file. -/
def shelf (name : String) : FileTree :=
  ⟨[(["static"], .directory), (["static", name], .file content)]⟩

/-- A site with public files at which nobody has signed in. -/
def site : Site := { Login.site with
  settings := { Login.site.settings with staticDirectory := "static" }
  gate := { Login.site.gate with publicFiles := some "static" } }

/-- A request for a path. -/
def request (path : String) : Http.Request := ⟨"GET", ⟨"", some path⟩, [], none, []⟩

/-- The handling of such a request, which asks nobody for anything. -/
def handling (name path : String) (handled : Handled) : Handling where
  site := site
  tree := shelf name
  request := request path
  now := now
  id := id
  moments := []
  handled := handled

theorem resolve_static (name : String) : (shelf name).resolve "static" = .ok ["static"] := by
  have isChecked : FileTree.checked "static" = .ok () := rfl
  have steps : Path.steps "static" = ["static"] := by decide
  have found : (shelf name).at? ["static"] = some .directory := rfl
  have short : ¬ FileTree.nameLimit < (Utf8.encode "static").length := by decide
  simp [FileTree.resolve, isChecked, steps, FileTree.follow, found, short]

theorem at?_shelf {name : String} {names : List String} {entry : FileEntry}
    (found : (shelf name).at? (["static"] ++ names) = some entry) :
    names = [] ∧ entry = .directory ∨ names = [name] ∧ entry = .file content := by
  rw [FileTree.at?, if_neg (by simp), shelf, List.lookup_cons] at found
  split at found
  · rename_i isRoot
    cases found
    exact .inl ⟨by simpa using isRoot, rfl⟩
  · rw [List.lookup_cons] at found
    split at found
    · rename_i isName
      cases found
      exact .inr ⟨by simpa using isName, rfl⟩
    · cases found

theorem at?_shelf_concat {name other : String} {names : List String} {entry : FileEntry}
    (found : (shelf name).at? (["static"] ++ names ++ [other]) = some entry) :
    names = [] ∧ other = name := by
  rw [List.append_assoc] at found
  rcases at?_shelf found with ⟨isEmpty, _⟩ | ⟨single, _⟩
  · exact absurd isEmpty (by simp)
  · rw [← List.nil_append [name]] at single
    exact List.append_singleton_inj.1 single

theorem unlinked_shelf {name : String} (short : (Utf8.encode name).length ≤ FileTree.nameLimit) :
    (shelf name).Unlinked ["static"] where
  isDirectory := rfl
  noLink found := by
    rcases at?_shelf found with ⟨_, isLink⟩ | ⟨_, isLink⟩ <;> cases isLink
  above found := by
    obtain ⟨rfl, _⟩ := at?_shelf_concat found
    rfl
  short found := by
    obtain ⟨_, rfl⟩ := at?_shelf_concat found
    exact short

section

variable {name path : String} {handled : Handled}

theorem publishes_handling (short : (Utf8.encode name).length ≤ FileTree.nameLimit) :
    (handling name path handled).Publishes ["static"] :=
  ⟨rfl, rfl, resolve_static name, unlinked_shelf short⟩

theorem not_vouches_request (path other : String) :
    ¬ site.gate.Vouches (request path) now other :=
  Gate.not_vouches rfl rfl

theorem happens_of_respond {answer : Handled}
    (responded : site.respond (shelf name) (request path) now id = .done answer) :
    (handling name path (sent (request path) answer)).Happens := by
  refine Handling.happens_iff.2 ⟨answer, ?_, rfl⟩
  have ended : (site.respond (shelf name) (request path) now id).Ends Moment.Follows [] answer
      [] := by
    rw [responded]
    exact .done _ _
  exact ended

end

/-- The answer with the file. -/
def served : Handled :=
  sent (request "/a.txt") (site.unchanged
    (publicFile (shelf "a.txt") "static" "GET" (request "/a.txt").target))

theorem spells_plain : Spells (shelf "a.txt") "static" ["static"] "/a.txt" :=
  ⟨by decide, by decide, rfl, by decide⟩

theorem straight_plain : Straight "static" "/a.txt" :=
  ⟨by decide +kernel, by decide, by decide, rfl⟩

theorem admission_plain (handled : Handled) :
    (handling "a.txt" "/a.txt" handled).admission = .publicFile :=
  (publishes_handling (by decide)).admission_iff.2 spells_plain

theorem happens_served : (handling "a.txt" "/a.txt" served).Happens :=
  happens_of_respond (Handling.respond_of_publicFile (admission_plain served) (by decide) (by decide))

/-- A file without anything special about its name is served. -/
theorem public_files_agree_plain :
    (handling "a.txt" "/a.txt" served).Happens ∧
      (handling "a.txt" "/a.txt" served).Publishes ["static"] ∧ Straight "static" "/a.txt" ∧
      (handling "a.txt" "/a.txt" served).admission = .publicFile ∧
      NamesFile (shelf "a.txt") ["static"] "/a.txt" ∧
      served = site.unchanged ⟨200, [("content-type", "text/plain")], content⟩ := by
  have publishes : (handling "a.txt" "/a.txt" served).Publishes ["static"] :=
    publishes_handling (by decide)
  obtain ⟨_, _, agrees⟩ := (public_files_agree happens_served).2 _ publishes
  obtain ⟨agree, serves⟩ := agrees straight_plain
  obtain ⟨names, other, named, found, answered⟩ :=
    serves (admission_plain served) (by decide) (by decide)
  refine ⟨happens_served, publishes, straight_plain, admission_plain served,
    agree.1 (admission_plain served), ?_⟩
  have isName : namesBelow? "/a.txt" = some ["a.txt"] := by decide +kernel
  obtain rfl := Option.some.inj (isName.symm.trans named)
  have isContent : (shelf "a.txt").at? ["static", "a.txt"] = some (.file content) := rfl
  obtain rfl := FileEntry.file.inj (Option.some.inj (isContent.symm.trans found))
  exact answered

/-- The page for whoever has to sign in. -/
def refused : Handled :=
  site.unchanged (challengePage (Access.Page.login "/a%20b.txt" "" none))

theorem not_spells_escaped : ¬ Spells (shelf "a b.txt") "static" ["static"] "/a%20b.txt" :=
  fun spells => absurd spells.isFile (by decide)

theorem admission_escaped (handled : Handled) :
    (handling "a b.txt" "/a%20b.txt" handled).admission = .denied := by
  have publishes : (handling "a b.txt" "/a%20b.txt" handled).Publishes ["static"] :=
    publishes_handling (by decide)
  exact Handling.denied_of_unknown (not_vouches_request _)
    (mt publishes.admission_iff.1 not_spells_escaped)

theorem happens_refused : (handling "a b.txt" "/a%20b.txt" refused).Happens :=
  happens_of_respond
    ((Handling.respond_of_denied (by decide) (admission_escaped refused)).trans rfl)

/-- A file with a blank in its name is named by a path with an escape, and it would be served for
that path.  But the gate does not admit it; it would admit a file with the escape in its name, which
that path does not name. -/
theorem escaped_name_is_denied :
    (handling "a b.txt" "/a%20b.txt" refused).Happens ∧
      (handling "a b.txt" "/a%20b.txt" refused).Publishes ["static"] ∧
      (∀ other, ¬ site.gate.Vouches (request "/a%20b.txt") now other) ∧
      NamesFile (shelf "a b.txt") ["static"] "/a%20b.txt" ∧
      publicFile (shelf "a b.txt") "static" "GET" (request "/a%20b.txt").target =
        ⟨200, [("content-type", "text/plain")], content⟩ ∧
      (handling "a b.txt" "/a%20b.txt" refused).admission = .denied ∧
      (handling "a%20b.txt" "/a%20b.txt" refused).admission = .publicFile ∧
      ¬ NamesFile (shelf "a%20b.txt") ["static"] "/a%20b.txt" := by
  have names : namesBelow? "/a%20b.txt" = some ["a b.txt"] := by decide +kernel
  have spells : Spells (shelf "a%20b.txt") "static" ["static"] "/a%20b.txt" :=
    ⟨by decide, by decide, rfl, by decide⟩
  have named : namesBelow? (request "/a%20b.txt").target.path = some ["a b.txt"] := by
    decide +kernel
  have fits : FileTree.checked (Path.join "static" (Path.joined ["a b.txt"])) = .ok () := rfl
  have served := publicFile_eq (unlinked_shelf (by decide)) (resolve_static "a b.txt")
    (by decide : Http.isRetrieval "GET" = true) named fits rfl
  refine ⟨happens_refused, publishes_handling (by decide), not_vouches_request _,
    ⟨_, names, rfl⟩, served,
    admission_escaped refused, (publishes_handling (by decide)).admission_iff.2 spells, ?_⟩
  rintro ⟨other, named, isFile⟩
  obtain rfl := Option.some.inj (names.symm.trans named)
  exact absurd isFile (by decide)

end Shelf

end Gatehouse.Site
