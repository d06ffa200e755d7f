import Gatehouse.Data.Word
import Gatehouse.Environment
import Gatehouse.Firewall.Selection
import Gatehouse.Json.Record
import Gatehouse.Net.Network
/-!
# Configuration

Everything that an operator can set.  A document may leave out what it does not change.  Some
variables of the environment win over the document, and the result must keep within bounds that the
calendar can represent.
-/

namespace Gatehouse

/-- The settings of the program.  Lifetimes are in seconds. -/
structure Configuration where
  listenAddress : Endpoint
  /-- The directory of the files that everybody may fetch. -/
  staticDirectory : String
  /-- The lifetime of a grant to an address; a grant of no lifetime never ends. -/
  grantLifetime : Nat
  sessionLifetime : Nat
  /-- The lifetime of a ticket for choosing a new password. -/
  resetLifetime : Nat
  /-- Whether signing in also grants the address of the client. -/
  grantsAddress : Bool
  /-- Whether the session cookie is for encrypted connections only. -/
  secureCookie : Bool
  /-- The peers that are believed when they name the client behind them. -/
  trustedProxies : List Network
  backend : Firewall.Preference
  /-- The external address of software NAT. -/
  natAddress : BitVec 32
  sessionSecret : Option String
  logLevel : String
  logToFile : Bool
  /-- The file of the directory's store, unless it is in the usual place. -/
  directoryFile : Option String
  diagnosticInterval : Nat
  /-- Whether rules are removed when the program ends. -/
  flushOnShutdown : Bool
  /-- The hours that the owner of a new account has for choosing a password. -/
  initialResetHours : Int
  auditEnabled : Bool

namespace Configuration

/-- The settings of a program that nobody has configured. -/
def standard : Configuration where
  listenAddress := .v4 0 8080
  staticDirectory := "/usr/share/sleuth/static"
  grantLifetime := 3600
  sessionLifetime := 28800
  resetLifetime := 600
  grantsAddress := true
  secureCookie := false
  trustedProxies := []
  backend := .auto
  natAddress := Address.ofOctets 203 0 113 1
  sessionSecret := none
  logLevel := "info"
  logToFile := false
  directoryFile := none
  diagnosticInterval := 30
  flushOnShutdown := true
  initialResetHours := 24
  auditEnabled := true

instance : Inhabited Configuration := ⟨standard⟩

/-! ## Documents -/

/-- A number of 64 bits. -/
def readCount : Draft.Reader Nat := Draft.natural Word.greatest64

/-- A number of hours, of either sign. -/
def readHours : Draft.Reader Int := Draft.integer Word.leastSigned Word.greatestSigned

/-- An address of four octets. -/
def readAddress4 : Draft.Reader (BitVec 32) := Draft.spelled fun text => Address.parse4? text.toList

/-- How settings are read.  What is left out is as in the standard settings. -/
def fields : Draft.Fields Configuration :=
  Configuration.mk
    <$> .withDefault "listen_addr" (Draft.spelled Endpoint.parse?) standard.listenAddress
    <*> .withDefault "static_dir" Draft.text standard.staticDirectory
    <*> .withDefault "grant_ttl_secs" readCount standard.grantLifetime
    <*> .withDefault "session_ttl_secs" readCount standard.sessionLifetime
    <*> .withDefault "reset_ttl_secs" readCount standard.resetLifetime
    <*> .withDefault "grant_allow_list" Draft.boolean standard.grantsAddress
    <*> .withDefault "cookie_secure" Draft.boolean standard.secureCookie
    <*> .withDefault "trusted_proxies" (Draft.list (Draft.spelled Network.parse?))
      standard.trustedProxies
    <*> .withDefault "firewall_backend" (Draft.choice Firewall.Preference.ofName?) standard.backend
    <*> .withDefault "nat_external_ip" readAddress4 standard.natAddress
    <*> .withDefault "session_secret" (Draft.optional Draft.text) standard.sessionSecret
    <*> .withDefault "log_level" Draft.text standard.logLevel
    <*> .withDefault "log_to_file" Draft.boolean standard.logToFile
    <*> .withDefault "directory_path" (Draft.optional Draft.text) standard.directoryFile
    <*> .withDefault "diagnostic_interval_secs" readCount standard.diagnosticInterval
    <*> .withDefault "flush_on_shutdown" Draft.boolean standard.flushOnShutdown
    <*> .withDefault "initial_reset_hours" readHours standard.initialResetHours
    <*> .withDefault "audit_enabled" Draft.boolean standard.auditEnabled

/-- The document of settings, with all members in order. -/
def document (settings : Configuration) : Json := .object [
  ("listen_addr", .string settings.listenAddress.text),
  ("static_dir", .string settings.staticDirectory),
  ("grant_ttl_secs", .nat settings.grantLifetime),
  ("session_ttl_secs", .nat settings.sessionLifetime),
  ("reset_ttl_secs", .nat settings.resetLifetime),
  ("grant_allow_list", .bool settings.grantsAddress),
  ("cookie_secure", .bool settings.secureCookie),
  ("trusted_proxies", .array (settings.trustedProxies.map fun network => .string network.text)),
  ("firewall_backend", .string settings.backend.name),
  ("nat_external_ip", .string (Address.v4 settings.natAddress).text),
  ("session_secret", .ofText? settings.sessionSecret),
  ("log_level", .string settings.logLevel),
  ("log_to_file", .bool settings.logToFile),
  ("directory_path", .ofText? settings.directoryFile),
  ("diagnostic_interval_secs", .nat settings.diagnosticInterval),
  ("flush_on_shutdown", .bool settings.flushOnShutdown),
  ("initial_reset_hours", .int settings.initialResetHours),
  ("audit_enabled", .bool settings.auditEnabled)]

/-- The text of a file that holds settings. -/
def text (settings : Configuration) : String := settings.document.pretty

/-- The settings in the text of a file. -/
def parse? (text : String) : Option Configuration := (Draft.readText fields.read text).toOption

/-! ## Bounds -/

/-- A setting that is out of bounds. -/
structure Violation where
  key : String
  message : String
deriving DecidableEq, Repr

/-- The longest lifetime, in seconds. -/
def longestLifetime : Nat := 315360000

/-- The greatest number of hours for choosing a password. -/
def mostResetHours : Int := 87600

/-- What is wrong with a lifetime. -/
def lifetimeViolation? (key : String) (seconds : Nat) : Option Violation :=
  if longestLifetime < seconds then
    some ⟨key, Text.ofNat seconds ++ " exceeds the maximum of " ++ Text.ofNat longestLifetime ++
      " seconds"⟩
  else none

/-- What is wrong with settings: the first of their faults. -/
def violation? (settings : Configuration) : Option Violation :=
  (lifetimeViolation? "grant_ttl_secs" settings.grantLifetime)
    <|> (lifetimeViolation? "session_ttl_secs" settings.sessionLifetime)
    <|> (lifetimeViolation? "reset_ttl_secs" settings.resetLifetime)
    <|> (if settings.sessionLifetime = 0 then
        some ⟨"session_ttl_secs", "sessions need a non-zero lifetime"⟩ else none)
    <|> (if 0 ≤ settings.initialResetHours ∧ settings.initialResetHours ≤ mostResetHours then none
      else some ⟨"initial_reset_hours", "must be between 0 and " ++ Text.ofInt mostResetHours⟩)

/-! ## The environment -/

/-- The settings after those that the environment makes. -/
def override (environment : Environment) (settings : Configuration) :
    Except Violation Configuration :=
  let secret := (environment.nonEmpty? "SLEUTH_SESSION_SECRET").orElse fun _ =>
    settings.sessionSecret
  match environment.get? "SLEUTH_LISTEN_ADDR" with
  | none => .ok { settings with sessionSecret := secret }
  | some spelling =>
      match Endpoint.parse? spelling with
      | some address => .ok { settings with sessionSecret := secret, listenAddress := address }
      | none => .error ⟨"SLEUTH_LISTEN_ADDR", "invalid socket address syntax"⟩

/-- The settings that are in force: those of a document with what the environment changes, if they
keep within their bounds. -/
def effective (environment : Environment) (settings : Configuration) :
    Except Violation Configuration :=
  match settings.override environment with
  | .error violation => .error violation
  | .ok settings =>
      match settings.violation? with
      | some violation => .error violation
      | none => .ok settings

/-- The secret under which tokens are signed where nobody has set one. -/
def developmentSecret : String := "sleuth-development-secret-change-me"

/-- The secret under which tokens are signed. -/
def secret (settings : Configuration) : String :=
  (settings.sessionSecret.filter fun secret => !secret.isEmpty).getD developmentSecret

/-- The settings as they may be shown. -/
def redacted (settings : Configuration) : Configuration :=
  { settings with sessionSecret := settings.sessionSecret.map fun _ => "<redacted>" }

end Configuration

end Gatehouse
