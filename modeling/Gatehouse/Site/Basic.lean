import Gatehouse.Access.Gate
import Gatehouse.Audit
import Gatehouse.Directory.Operations
import Gatehouse.Firewall.Backend
import Gatehouse.Settings.Configuration
/-!
# The site

A site is what is kept between requests: the settings, what decides about admission, and the session
with the packet filter.  The directory and the programs of the packet filter are outside of it, and
it talks to them in one dialogue.
-/

namespace Gatehouse

/-- What is kept between requests. -/
structure Site where
  settings : Configuration
  gate : Access.Gate
  backend : Firewall.Backend

/-- Why a site cannot be set up. -/
inductive StartupError where
  /-- The store of the directory cannot be used. -/
  | directoryUnavailable (detail : String)
  /-- There is no place for the store. -/
  | noDataDirectory
  | secret (cause : Access.TokenError)
deriving DecidableEq, Repr

/-- The text of such an error. -/
def StartupError.message : StartupError → String
  | .directoryUnavailable detail => "Directory unavailable: " ++ detail
  | .noDataDirectory => "No data directory could be determined"
  | .secret cause => "Invalid session secret: " ++ cause.message

namespace Site

/-- What a site asks of its surroundings. -/
inductive Call where
  /-- A call to the store of the directory. -/
  | store (call : StoreCall)
  /-- A run of a packet-filter program. -/
  | filter (command : Firewall.Command)

/-- The answer to a call. -/
abbrev Call.Answer : Call → Type
  | .store call => call.Answer
  | .filter _ => Firewall.Reply

/-- A computation of a site. -/
abbrev Talk (α : Type) := Dialogue Call Call.Answer α

/-- A computation on the directory as one of the site. -/
def visit {α : Type} (visit : Visit α) : Talk α :=
  visit.relay fun call => .question (.store call)

/-- A computation with the packet filter as one of the site. -/
def filter {α : Type} (talk : Firewall.Talk α) : Talk α :=
  talk.relay fun command => .question (.filter command)

/-- What the handling of a request leaves: the response, the events for the audit log, and the site
afterwards. -/
structure Handled where
  response : Http.Response
  events : List Audit.Event
  site : Site

/-- Leave the site as it is, without an event. -/
def unchanged (site : Site) (response : Http.Response) : Handled := ⟨response, [], site⟩

/-- Set up a site with a backend that has come up. -/
def assemble (settings : Configuration) (backend : Firewall.Backend) : Except StartupError Site :=
  match Access.Issuer.ofSecret (Utf8.encode settings.secret)
      (Span.saturating settings.sessionLifetime) (Span.saturating settings.resetLifetime) with
  | .error cause => .error (.secret cause)
  | .ok issuer =>
      .ok {
        settings := settings
        gate := {
          issuer := issuer
          allowList := .ofLifetime (Span.saturating settings.grantLifetime)
          trustedProxies := settings.trustedProxies
          publicFiles := some settings.staticDirectory }
        backend := backend }

/-- Shut a site down: remove the rules where that is set, whether or not it succeeds, and end the
session with the packet filter. -/
def shutdown (site : Site) : Firewall.Talk Site :=
  if site.settings.flushOnShutdown then
    site.backend.flush.bind fun outcome => .done { site with backend := outcome.1.close }
  else .done { site with backend := site.backend.close }

end Site

end Gatehouse
