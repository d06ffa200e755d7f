import Gatehouse.Directory.Opening
import Gatehouse.Machine
import Gatehouse.Settings.Location
import Gatehouse.Site.Basic
/-!
# Starting a site

A site starts with the directory in its file and the backend that comes up for the operator's
preference.
-/

namespace Gatehouse

namespace Configuration

/-- The path of the file in which the store of the directory is kept. -/
def storeFile? (settings : Configuration) (environment : Environment) : Option String :=
  settings.directoryFile.orElse fun _ => Location.storeFile? environment

/-- The path of the audit log, if one is kept. -/
def auditLog? (settings : Configuration) (environment : Environment) : Option String :=
  if settings.auditEnabled then Location.auditFile? environment else none

end Configuration

namespace Site

/-- A site that has been started. -/
structure Started where
  site : Site
  /-- The file of the directory's store. -/
  path : String
  store : Store
  /-- The file of the audit log, if one is kept. -/
  auditLog : Option String

/-- A fault at the opening of the directory as one at the start. -/
def openingError : Directory.OpeningFault → StartupError
  | .place path fault => .directoryUnavailable (path ++ ": " ++ fault.message)
  | .store cause => .directoryUnavailable cause.message
  | .roles cause => .directoryUnavailable cause.message

/-- Bring up the backend that the operator prefers. -/
def selectBackend (host : Elevation.Host) (preference : Firewall.Preference)
    (external : BitVec 32) : MachineTalk Firewall.Backend :=
  let available := fun program => host.hasBinary (Elevation.programPath host.environment program)
  MachineTalk.ofFilter host (Firewall.Selection.select available external preference)

/-- Start a site. -/
def start (host : Elevation.Host) (settings : Configuration) :
    MachineTalk (Except StartupError Started) :=
  match settings.storeFile? host.environment with
  | none => .done (.error .noDataDirectory)
  | some path =>
      (MachineTalk.ofFiles (Directory.openAt path)).bind fun
        | .error fault => .done (.error (openingError fault))
        | .ok store =>
            (selectBackend host settings.backend settings.natAddress).bind fun backend =>
              match assemble settings backend with
              | .error error => .done (.error error)
              | .ok site =>
                  .done (.ok ⟨site, path, store, settings.auditLog? host.environment⟩)

end Site

end Gatehouse
