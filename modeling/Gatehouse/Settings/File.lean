import Gatehouse.Files.Call
import Gatehouse.Settings.Configuration
import Gatehouse.Settings.Location
/-!
# The configuration file

Settings are read from a file and written to one.  A missing file stands for the standard settings;
one that cannot be read or understood is an error, because it may hold the secret.
-/

namespace Gatehouse

/-- Why settings cannot be read or written. -/
inductive ConfigurationError where
  | unreadable (path detail : String)
  | malformed (path : String)
  | invalid (violation : Configuration.Violation)
  /-- There is no directory for the file. -/
  | noPlace
  | unwritable (detail : String)
deriving DecidableEq, Repr

/-- The text of such an error. -/
def ConfigurationError.message : ConfigurationError → String
  | .unreadable path detail => "Failed to read " ++ path ++ ": " ++ detail
  | .malformed path => "Invalid configuration in " ++ path ++ ": the file holds no settings"
  | .invalid violation => "Invalid value for " ++ violation.key ++ ": " ++ violation.message
  | .noPlace => "No configuration directory could be determined"
  | .unwritable detail => "Failed to write configuration: " ++ detail

namespace Configuration

/-- The settings in a file, which may be missing. -/
def ofFile (path : String) : Except PathFault Bytes → Except ConfigurationError Configuration
  | .error .missing => .ok standard
  | .error fault => .error (.unreadable path fault.message)
  | .ok content =>
      match Utf8.text? content with
      | none => .error (.unreadable path "stream did not contain valid UTF-8")
      | some text =>
          match parse? text with
          | some settings => .ok settings
          | none => .error (.malformed path)

/-- The settings that are in force, after those of a file. -/
def conclude (environment : Environment) :
    Except ConfigurationError Configuration → Except ConfigurationError Configuration
  | .error error => .error error
  | .ok settings => (settings.effective environment).mapError .invalid

/-- Load the settings from the file at `path`, or from the usual one. -/
def load (environment : Environment) (path : Option String) :
    FileTalk (Except ConfigurationError Configuration) :=
  match path.orElse fun _ => Location.configurationFile? environment with
  | none => .done (conclude environment (.ok standard))
  | some path =>
      .ask (.read path) fun content => .done (conclude environment (ofFile path content))

/-- Save settings, and give the path of the file. -/
def save (environment : Environment) (path : Option String) (settings : Configuration) :
    FileTalk (Except ConfigurationError String) :=
  match path.orElse fun _ => Location.configurationFile? environment with
  | none => .done (.error .noPlace)
  | some path =>
      (FileTalk.write path settings.text).bind fun
        | .error fault => .done (.error (.unwritable fault.message))
        | .ok () => .done (.ok path)

end Configuration

end Gatehouse
