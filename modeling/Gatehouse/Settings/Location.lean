import Gatehouse.Environment
import Gatehouse.Files.Path
/-!
# Where the program keeps its files

Configuration, data and state have a directory each below the home directory, where the variables of
the desktop standard can move them.  One variable of the program's own puts all three in one place.
-/

namespace Gatehouse.Location

/-- The variable that puts all files in one directory. -/
def rootVariable : String := "SLEUTH_DATA_DIR"

/-- The name of the program's directory among those of others. -/
def directoryName : String := "sleuth"

/-- A kind of file. -/
inductive Kind where
  | configuration
  | data
  | state
deriving DecidableEq, Repr

/-- The variable that moves the directories of a kind. -/
def Kind.variable : Kind → String
  | .configuration => "XDG_CONFIG_HOME"
  | .data => "XDG_DATA_HOME"
  | .state => "XDG_STATE_HOME"

/-- Where the directories of a kind are below the home directory. -/
def Kind.usual : Kind → String
  | .configuration => ".config"
  | .data => ".local/share"
  | .state => ".local/state"

/-- The directory that holds all programs' files of a kind.  A variable counts only if it names an
absolute path. -/
def shared (environment : Environment) (home : String) (kind : Kind) : String :=
  match (environment.get? kind.variable).filter Path.isAbsolute with
  | some path => path
  | none => Path.join home kind.usual

/-- The directory for files of a kind, if there is one. -/
def directory? (environment : Environment) (kind : Kind) : Option String :=
  match environment.nonEmpty? rootVariable with
  | some root => some root
  | none => environment.home?.map fun home => Path.join (shared environment home kind) directoryName

/-- The path of a file in the directory for its kind. -/
def file? (environment : Environment) (kind : Kind) (name : String) : Option String :=
  (directory? environment kind).map fun directory => Path.join directory name

/-- The path of the configuration. -/
def configurationFile? (environment : Environment) : Option String :=
  file? environment .configuration "config.json"

/-- The path of the directory's store, unless the configuration names another. -/
def storeFile? (environment : Environment) : Option String :=
  file? environment .data "directory.json"

/-- The path of the audit log. -/
def auditFile? (environment : Environment) : Option String :=
  file? environment .state "audit.log"

/-- The directories that are made when the program starts. -/
def directories (environment : Environment) : List String :=
  [Kind.configuration, .data, .state].filterMap (directory? environment)

end Gatehouse.Location
