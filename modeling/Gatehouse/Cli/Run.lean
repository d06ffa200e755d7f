import Gatehouse.Cli.Command
import Gatehouse.Firewall.Hint
import Gatehouse.Settings.File
import Gatehouse.Site.Start
/-!
# Running commands

A command prints lines and ends well or with an error.  Whatever it does goes through the machine,
so a run is one dialogue with it.
-/

namespace Gatehouse.Cli

/-- What a finished run leaves: its exit code and the lines that it printed. -/
structure Report where
  code : Nat
  output : List String
  errors : List String
deriving DecidableEq, Repr

namespace Report

/-- A run that ended well. -/
def done (output : List String) : Report := ⟨0, output, []⟩

/-- A run that ended with an error. -/
def failed (message : String) : Report := ⟨1, [], ["Error: " ++ message]⟩

/-- The report with warnings that came before. -/
def after (report : Report) (warnings : List String) : Report :=
  { report with errors := warnings ++ report.errors }

/-- How the program is used. -/
def usage : List String := [
  "Usage: sleuth [-c PATH] serve",
  "       sleuth [-c PATH] firewall [-b BACKEND] allow PROTOCOL PORT | revoke PROTOCOL PORT",
  "       sleuth [-c PATH] firewall [-b BACKEND] flush | status",
  "       sleuth [-c PATH] principal add NAME --password PASSWORD [--display-name NAME]",
  "              [--email ADDRESS] [--admin]",
  "       sleuth [-c PATH] principal list | reset NAME [--hours HOURS]",
  "       sleuth [-c PATH] config init [--force] | show"]

/-- The report on a command line that was not read to its end. -/
def ofStop : Stop → Report
  | .usage => ⟨2, [], usage⟩
  | .help => done usage
  | .version => done ["sleuth 0.4.0"]

end Report

/-- How a run ends: with a report, or with a site that is ready for requests. -/
inductive Outcome where
  | report (report : Report)
  | serving (warnings : List String) (started : Site.Started)

/-! ## The packet filter -/

/-- The lines about a backend and its rules. -/
def statusLines (backend : Firewall.Backend) : List String :=
  ["Backend: " ++ backend.name,
    "Enforcing: " ++ (if backend.enforces then "yes" else "no")] ++
    (if backend.rules.isEmpty then ["No rules"] else []) ++
    backend.rules.map fun rule => "  " ++ rule.text

/-- The text about a failure of the packet filter.  A complaint of a program is explained. -/
def failureText : Firewall.Error → String
  | .communication _ message _ _ =>
      let hint := Firewall.Hint.ofComplaint message
      hint.message ++ String.join (hint.suggestions.map fun line => "\n  hint: " ++ line)
  | error => error.message

/-- The line about a change that was made. -/
def changeLine (backend : Firewall.Backend) : Option Firewall.Rule → String
  | some rule => "✓ " ++ rule.text ++ " updated on " ++ backend.name
  | none => "✓ " ++ backend.name ++ " rules flushed"

/-- Make a change, and note it in the audit log. -/
def change (host : Elevation.Host) (settings : Configuration) (now : Instant) (kind : Audit.Kind)
    (rule : Option Firewall.Rule) (operation : Firewall.Talk (Firewall.Outcome Firewall.Backend)) :
    MachineTalk Report :=
  (MachineTalk.ofFilter host operation).bind fun outcome =>
    let (backend, result) := outcome
    let report := match result with
      | .ok () => Report.done [changeLine backend rule]
      | .error error => .failed (failureText error)
    let error := match result with
      | .ok () => none
      | .error error => some error.message
    match settings.auditLog? host.environment with
    | none => .done report
    | some log =>
        let event := Audit.Event.ofChange now kind backend.name rule "cli" error
        (MachineTalk.ofFiles (Audit.record log event)).bind fun _ => .done report

/-- Do something with the packet filter. -/
def runFilter (host : Elevation.Host) (settings : Configuration) (now : Instant)
    (preference : Option Firewall.Preference) (action : FilterAction) : MachineTalk Report :=
  (Site.selectBackend host (preference.getD settings.backend) settings.natAddress).bind
    fun backend =>
      match action with
      | .status => .done (.done (statusLines backend))
      | .flush => change host settings now .flushRules none backend.flush
      | .allow protocol port =>
          match Firewall.Rule.ofRequest protocol port with
          | .error error => .done (.failed error.message)
          | .ok rule =>
              let warnings := (Firewall.portWarning? rule.port).toList.map ("Warning: " ++ ·)
              (change host settings now .allowPort (some rule) (backend.allow rule)).bind
                fun report => .done (report.after warnings)
      | .revoke protocol port =>
          match Firewall.Rule.ofRequest protocol port with
          | .error error => .done (.failed error.message)
          | .ok rule => change host settings now .revokePort (some rule) (backend.revoke rule)

/-! ## Accounts -/

/-- A text with blanks after it, to a width. -/
def padded (width : Nat) (text : String) : String :=
  text ++ String.ofList (List.replicate (width - text.length) ' ')

/-- The line about an account. -/
def accountLine (now : Instant) (principal : Principal) : String :=
  let marks := (if principal.enabled then [] else ["disabled"]) ++
    (if principal.resetPending now then ["reset pending"] else [])
  "  " ++ padded 24 principal.name ++ " " ++ padded 8 principal.role ++ " " ++
    ", ".intercalate marks

/-- The lines about all accounts. -/
def accountLines (now : Instant) (principals : List Principal) : List String :=
  if principals.isEmpty then ["No principals"] else principals.map (accountLine now)

/-- The instant by which a password has to be chosen: at least an hour from now. -/
def deadline (now : Instant) (hours : Int) : Except DirectoryError Instant :=
  Directory.resetDeadline now (max hours 1)

/-- What is done with accounts, as an operation on the directory that ends with the lines to
print. -/
def accountOperation (settings : Configuration) (now : Instant) :
    AccountAction → Directory.Op (List String)
  | .list => Directory.andThen Directory.listPrincipals fun principals =>
      Directory.finish (accountLines now principals)
  | .add name password displayName email admin =>
      match deadline now settings.initialResetHours with
      | .error error => Directory.fail error
      | .ok deadline =>
          let principal := { Principal.ofName name password with
            displayName := displayName.getD name
            email := email.getD ""
            resetDeadline := some deadline
            role := if admin then adminRole else userRole }
          Directory.andThen (Directory.createPrincipal principal) fun _ =>
            Directory.finish ["✓ Created " ++ name ++ "; a new password is required before " ++
              Timestamp.plainText deadline]
  | .reset name hours =>
      match deadline now (hours.getD settings.initialResetHours) with
      | .error error => Directory.fail error
      | .ok deadline =>
          Directory.andThen (Directory.requireReset name (some deadline)) fun _ =>
            Directory.finish ["✓ " ++ name ++ " must choose a new password before " ++
              Timestamp.plainText deadline]

/-- The report on a directory that cannot be opened. -/
def openingReport : Directory.OpeningFault → Report
  | .place _ fault => .failed fault.message
  | .store cause => .failed (StartupError.directoryUnavailable cause.message).message
  | .roles cause => .failed cause.message

/-- Do something with accounts. -/
def runAccount (host : Elevation.Host) (settings : Configuration) (now : Instant)
    (action : AccountAction) : MachineTalk Report :=
  match settings.storeFile? host.environment with
  | none => .done (.failed StartupError.noDataDirectory.message)
  | some path =>
      MachineTalk.ofFiles ((Directory.openAt path).bind fun
        | .error fault => .done (openingReport fault)
        | .ok store =>
            (Directory.runAt path (accountOperation settings now action) store).bind fun outcome =>
              match outcome.1 with
              | .error error => .done (.failed error.message)
              | .ok lines => .done (.done lines))

/-! ## The configuration -/

/-- Write the standard settings to a file. -/
def writeSettings (host : Elevation.Host) (path : String) : FileTalk Report :=
  (Configuration.save host.environment (some path) .standard).bind fun
    | .error error => .done (.failed error.message)
    | .ok written => .done (.done ["✓ Wrote " ++ written])

/-- Do something with the configuration. -/
def runSettings (host : Elevation.Host) (settings : Configuration) (path : Option String) :
    SettingsAction → FileTalk Report
  | .show => .done (.done [settings.redacted.text])
  | .init force =>
      match path.orElse fun _ => Location.configurationFile? host.environment with
      | none => .done (.failed ConfigurationError.noPlace.message)
      | some path =>
          .ask (.probe path) fun present =>
            if present && !force then
              .done (.failed (path ++ " already exists (use --force to overwrite)"))
            else writeSettings host path

/-! ## Runs -/

/-- Make the directories of the program, and warn about the first that cannot be made. -/
def makeDirectories : List String → FileTalk (List String)
  | [] => .done []
  | path :: rest =>
      .ask (.makeDirectory path) fun
        | .ok () => makeDirectories rest
        | .error fault =>
            .done ["Warning: failed to create data directories: " ++ fault.message]

/-- The names of the levels of the program's own log; they also have the numbers from one on. -/
def logLevels : List String := ["error", "warn", "info", "debug", "trace"]

/-- Whether a text names a level of the log. -/
def isLogLevel (text : String) : Bool :=
  match Text.readNat? Word.greatest64 text.toList with
  | some number => 1 ≤ number && number ≤ logLevels.length
  | none => logLevels.contains (Text.toLowerAscii text)

/-- Start the program's own log, and give the warnings about it. -/
def startLog (host : Elevation.Host) (settings : Configuration) : FileTalk (List String) :=
  let warnings :=
    if isLogLevel settings.logLevel then []
    else ["Warning: unknown log level '" ++ settings.logLevel ++ "', using info"]
  let file? :=
    if settings.logToFile then Location.file? host.environment .state "sleuth.log" else none
  match file? with
  | none => .done warnings
  | some path =>
      .ask (.replace path "") fun
        | .ok () => .done warnings
        | .error _ =>
            .done (warnings ++ ["Warning: cannot open " ++ path ++ ", logging to stderr"])

/-- Do what a command says. -/
def perform (host : Elevation.Host) (settings : Configuration) (now : Instant)
    (command : Command) (warnings : List String) : MachineTalk Outcome :=
  let conclude (talk : MachineTalk Report) : MachineTalk Outcome :=
    talk.bind fun report => .done (.report (report.after warnings))
  match command.action with
  | .filter preference action => conclude (runFilter host settings now preference action)
  | .account action => conclude (runAccount host settings now action)
  | .settings action =>
      conclude (MachineTalk.ofFiles (runSettings host settings command.configuration action))
  | .serve =>
      (Site.start host settings).bind fun
        | .error error => .done (.report ((Report.failed error.message).after warnings))
        | .ok started => .done (.serving warnings started)

/-- Run a command line. -/
def run (host : Elevation.Host) (now : Instant) (arguments : List String) : MachineTalk Outcome :=
  match Command.parse arguments with
  | .error stop => .done (.report (.ofStop stop))
  | .ok command =>
      (MachineTalk.ofFiles (makeDirectories (Location.directories host.environment))).bind
        fun early =>
          (MachineTalk.ofFiles (Configuration.load host.environment command.configuration)).bind fun
            | .error error => .done (.report ((Report.failed error.message).after early))
            | .ok settings =>
                (MachineTalk.ofFiles (startLog host settings)).bind fun late =>
                  perform host settings now command (early ++ late)

end Gatehouse.Cli
