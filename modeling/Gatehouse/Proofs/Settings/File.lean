import Gatehouse.Proofs.Files.Replaced
import Gatehouse.Proofs.Settings.Document
import Gatehouse.Settings.File
/-!
# Saving and loading settings

Settings that were loaded once, from whatever file and in whatever environment, are saved as a text
from which they are loaded again.  The environment must not change them on the way, and the file has
to be found where it was put.
-/

namespace Gatehouse

/-! ## Writing files -/

namespace FileTree

variable {tree after : FileTree} {path text : String}

theorem exists_of_settle {result : Except PathFault FileTree}
    (settled : tree.settle result = (.ok (), after)) : result = .ok after := by
  cases result with
  | error fault => cases settled
  | ok changed =>
      cases settled
      rfl

/-- What is written takes its place in a tree with all directories on the way. -/
theorem exists_of_write (written : (FileTalk.write path text).run answer tree = (.ok (), after)) :
    ∃ made : FileTree, made.replace path (Utf8.encode text) = .ok after := by
  unfold FileTalk.write at written
  split at written
  · exact ⟨tree, exists_of_settle written⟩
  · rename_i parent _
    simp only [Dialogue.run, answer] at written
    cases isMade : tree.makeDirectory parent with
    | error fault =>
        rw [isMade] at written
        cases written
    | ok made =>
        rw [isMade] at written
        exact ⟨made, exists_of_settle written⟩

/-- Writing what is there changes nothing. -/
theorem run_write_of_keeps (keeps : tree.Keeps path (Utf8.encode text)) :
    (FileTalk.write path text).run answer tree = (.ok (), tree) := by
  unfold FileTalk.write
  split
  · simp only [Dialogue.run, answer, keeps.replace, settle]
  · rename_i parent isParent
    simp only [Dialogue.run, answer, keeps.parent parent isParent, keeps.replace, settle]

end FileTree

namespace Configuration

variable {environment : Environment} {path : Option String} {settings : Configuration}

/-- Settings that loading can give. -/
def Loadable (settings : Configuration) : Prop :=
  ∃ environment path tree, ((load environment path).run FileTree.answer tree).1 = .ok settings

/-! ## Settings in force -/

/-- The environment changes no more than the secret and the address. -/
theorem interval_of_override {changed : Configuration}
    (isChanged : settings.override environment = .ok changed) :
    changed.diagnosticInterval = settings.diagnosticInterval := by
  unfold override at isChanged
  dsimp only at isChanged
  split at isChanged
  · cases isChanged
    rfl
  · split at isChanged
    · cases isChanged
      rfl
    · cases isChanged

theorem fits_of_effective {effective : Configuration}
    (interval : settings.diagnosticInterval ≤ Word.greatest64)
    (isEffective : settings.effective environment = .ok effective) : effective.Fits := by
  unfold Configuration.effective at isEffective
  split at isEffective
  · cases isEffective
  · rename_i changed isChanged
    split at isEffective
    · cases isEffective
    · rename_i accepted
      cases isEffective
      exact ⟨accepted, interval_of_override isChanged ▸ interval⟩

/-- Settings that fit are in force as they are where the environment sets nothing. -/
theorem effective_of_fits (noAddress : environment.get? "SLEUTH_LISTEN_ADDR" = none)
    (noSecret : environment.nonEmpty? "SLEUTH_SESSION_SECRET" = none) (fits : settings.Fits) :
    settings.effective environment = .ok settings := by
  have same : settings.override environment = .ok settings := by
    simp only [override, noAddress, noSecret]
    rfl
  simp only [Configuration.effective, same, fits.accepted]

/-! ## Settings in files -/

theorem interval_of_ofFile {file : String} {content : Except PathFault Bytes}
    (isRead : ofFile file content = .ok settings) :
    settings.diagnosticInterval ≤ Word.greatest64 := by
  unfold ofFile at isRead
  split at isRead
  · cases isRead
    exact fits_standard.interval
  · cases isRead
  · split at isRead
    · cases isRead
    · split at isRead
      · rename_i parsed
        cases isRead
        exact interval_of_parse? parsed
      · cases isRead

theorem fits_of_conclude {read : Except ConfigurationError Configuration}
    {concluded : Configuration}
    (interval : ∀ settings, read = .ok settings → settings.diagnosticInterval ≤ Word.greatest64)
    (isConcluded : conclude environment read = .ok concluded) : concluded.Fits := by
  unfold conclude at isConcluded
  split at isConcluded
  · cases isConcluded
  · rename_i settings
    cases isEffective : settings.effective environment with
    | error violation =>
        rw [isEffective] at isConcluded
        cases isConcluded
    | ok effective =>
        rw [isEffective] at isConcluded
        cases isConcluded
        exact fits_of_effective (interval settings rfl) isEffective

theorem Loadable.fits (loadable : settings.Loadable) : settings.Fits := by
  obtain ⟨environment, path, tree, isLoaded⟩ := loadable
  unfold load at isLoaded
  split at isLoaded
  · exact fits_of_conclude (fun _ same => Except.ok.inj same ▸ fits_standard.interval) isLoaded
  · exact fits_of_conclude (fun _ => interval_of_ofFile) isLoaded

/-- What a file with the text of settings comes to. -/
theorem conclude_ofFile_text (noAddress : environment.get? "SLEUTH_LISTEN_ADDR" = none)
    (noSecret : environment.nonEmpty? "SLEUTH_SESSION_SECRET" = none) (fits : settings.Fits)
    (file : String) :
    conclude environment (ofFile file (.ok (Utf8.encode settings.text))) = .ok settings := by
  simp only [ofFile, Utf8.text?_encode, parse?_text fits, conclude,
    effective_of_fits noAddress noSecret fits]
  rfl

/-! ## Saving -/

/-- The file at which settings are looked for, or are put. -/
def place? (environment : Environment) (path : Option String) : Option String :=
  path.orElse fun _ => Location.configurationFile? environment

theorem load_of_place? {file : String} (isPlace : place? environment path = some file)
    (tree : FileTree) : (load environment path).run FileTree.answer tree =
      (conclude environment (ofFile file (tree.read file)), tree) := by
  unfold place? at isPlace
  simp only [load, isPlace]
  rfl

theorem save_of_place? {file : String} (isPlace : place? environment path = some file)
    (tree : FileTree) : (save environment path settings).run FileTree.answer tree =
      match (FileTalk.write file settings.text).run FileTree.answer tree with
      | (.error fault, after) => (.error (.unwritable fault.message), after)
      | (.ok (), after) => (.ok file, after) := by
  unfold place? at isPlace
  simp only [save, isPlace]
  rw [Dialogue.run_bind]
  rcases (FileTalk.write file settings.text).run FileTree.answer tree with ⟨_ | _, after⟩ <;> rfl

/-- Settings that are saved are in the file whose path is given. -/
theorem exists_of_save {tree saved : FileTree} {file : String}
    (isSaved : (save environment path settings).run FileTree.answer tree = (.ok file, saved)) :
    place? environment path = some file ∧
      ∃ made : FileTree, made.replace file (Utf8.encode settings.text) = .ok saved := by
  cases isPlace : place? environment path with
  | none =>
      unfold place? at isPlace
      simp only [save, isPlace] at isSaved
      cases isSaved
  | some other =>
      rw [save_of_place? isPlace] at isSaved
      split at isSaved
      · cases isSaved
      · rename_i written
        cases isSaved
        exact ⟨rfl, FileTree.exists_of_write written⟩

/-! ## Loading what was saved -/

/-- Where a file without a directory of its own is put in the empty tree. -/
theorem target_empty : FileTree.empty.target "config.json" = .ok ["config.json"] := by
  have isChecked : FileTree.checked "config.json" = .ok () := rfl
  have steps : Path.steps "config.json" = ["config.json"] := by decide
  have short : ¬ FileTree.nameLimit < (Utf8.encode "config.json").length := by decide
  rw [FileTree.target, isChecked, steps]
  simp [FileTree.follow, short]
  rfl

theorem replace_empty (content : Bytes) : FileTree.empty.replace "config.json" content =
    .ok (FileTree.empty.put ["config.json"] (.file content)) := by
  rw [FileTree.replace, target_empty]
  rfl

/-- The settings that can be loaded are those that fit. -/
theorem loadable_iff_fits : settings.Loadable ↔ settings.Fits := by
  refine ⟨Loadable.fits, fun fits => ?_⟩
  have keeps := FileTree.keeps_of_replace (replace_empty (Utf8.encode settings.text))
    (FileTree.admits_put target_empty nofun)
  refine ⟨⟨[], none⟩, some "config.json", FileTree.empty.put ["config.json"]
    (.file (Utf8.encode settings.text)), ?_⟩
  rw [load_of_place? rfl, keeps.read, conclude_ofFile_text rfl rfl fits]

/-- **Saving and loading loses nothing.**  Settings that can be loaded are saved as a text of their
own, are loaded from the file as they were, and saving them once more changes nothing.  The path
that named a place for the file has to name one still. -/
theorem load_after_save {tree saved : FileTree} {file : String}
    (noAddress : environment.get? "SLEUTH_LISTEN_ADDR" = none)
    (noSecret : environment.nonEmpty? "SLEUTH_SESSION_SECRET" = none)
    (loadable : settings.Loadable)
    (isSaved : (save environment path settings).run FileTree.answer tree = (.ok file, saved))
    (admits : saved.Admits file) :
    (load environment path).run FileTree.answer saved = (.ok settings, saved) ∧
      (save environment path settings).run FileTree.answer saved = (.ok file, saved) ∧
        saved.read file = .ok (Utf8.encode settings.text) := by
  obtain ⟨isPlace, made, replaced⟩ := exists_of_save isSaved
  have keeps := FileTree.keeps_of_replace replaced admits
  refine ⟨?_, ?_, keeps.read⟩
  · rw [load_of_place? isPlace, keeps.read,
      conclude_ofFile_text noAddress noSecret loadable.fits]
  · rw [save_of_place? isPlace, FileTree.run_write_of_keeps keeps]

/-- Settings with a zone, with host bits, with characters that are escaped or have more than one byte,
and with numbers at their bounds. -/
def various : Configuration := { standard with
  listenAddress := .v6 0xfe80_0000_0000_0000_0000_0000_0000_0001#128 7 443
  trustedProxies := [.v4 (Address.ofOctets 10 1 2 3) 8 (Nat.le_add_right 8 24),
    .v6 1#128 128 (Nat.le_refl 128)]
  backend := .softwareNat
  sessionSecret := some "\"\\ \n\x00 ß \u2028"
  directoryFile := some "/srv/données.json"
  resetLifetime := 0
  initialResetHours := 87600
  diagnosticInterval := Word.greatest64 }

theorem load_after_save_various : ∃ saved,
    (save ⟨[], none⟩ (some "config.json") various).run FileTree.answer FileTree.empty =
        (.ok "config.json", saved) ∧
      (load ⟨[], none⟩ (some "config.json")).run FileTree.answer saved = (.ok various, saved) := by
  have written : (FileTalk.write "config.json" various.text).run FileTree.answer FileTree.empty =
      (.ok (), FileTree.empty.put ["config.json"] (.file (Utf8.encode various.text))) := by
    have parent : Path.parent? "config.json" = some "" := by decide
    simp only [FileTalk.write, parent, Dialogue.run, FileTree.answer]
    change (FileTree.empty.settle (FileTree.empty.replace "config.json" _)) = _
    rw [replace_empty]
    rfl
  have isSaved : (save ⟨[], none⟩ (some "config.json") various).run FileTree.answer FileTree.empty =
      (.ok "config.json",
        FileTree.empty.put ["config.json"] (.file (Utf8.encode various.text))) := by
    rw [save_of_place? rfl, written]
  exact ⟨_, isSaved, (load_after_save rfl rfl (loadable_iff_fits.2 ⟨by decide, by decide⟩) isSaved
    (FileTree.admits_put target_empty nofun)).1⟩

end Configuration

end Gatehouse
