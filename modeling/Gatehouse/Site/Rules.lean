import Gatehouse.Data.Word
import Gatehouse.Http.MediaType
import Gatehouse.Site.Basic
/-!
# Port rules over the network

Whoever is admitted may see the rules that are in force.  Administrators may change them, and every
change that is tried leaves an event.
-/

namespace Gatehouse.Site

/-- Why a request about rules is refused. -/
inductive RulesError where
  | forbidden
  | unauthenticated
  | firewall (cause : Firewall.Error)
  | directory (cause : DirectoryError)

namespace RulesError

/-- The text of such an error. -/
def message : RulesError → String
  | .forbidden => "administrator role required"
  | .unauthenticated => "not authenticated"
  | .firewall cause => cause.message
  | .directory cause => cause.message

/-- The status for a failure of the packet filter. -/
def firewallStatus : Firewall.Error → Nat
  | .validation _ _ => 400
  | .unsupportedProtocol _ => 400
  | .notImplemented _ _ => 501
  | .unsupported _ _ => 501
  | .communication _ _ _ _ => 502
  | .partialBatch _ _ => 502
  | .unavailable _ => 503
  | _ => 500

/-- The status for an error. -/
def status : RulesError → Nat
  | .forbidden => 403
  | .unauthenticated => 401
  | .firewall cause => firewallStatus cause
  | .directory _ => 503

/-- The response for an error. -/
def response (error : RulesError) : Http.Response :=
  .json error.status (.ofMembers [("error", .string error.message)])

end RulesError

/-! ## Requests -/

/-- The change of one rule that a request asks for. -/
structure RuleRequest where
  protocol : String
  port : Nat
deriving DecidableEq, Repr

namespace RuleRequest

/-- How such a request is read. -/
def fields : Draft.Fields RuleRequest :=
  RuleRequest.mk <$> .required "protocol" Draft.text
    <*> .required "port" (Draft.natural Word.greatest32)

/-- The change that the body of a request asks for, or the response to a body that cannot be
used. -/
def ofRequest (request : Http.Request) : Except Http.Response RuleRequest :=
  if !Http.MediaType.isJson request.headers then
    .error (.rejection 415 "The body has to be a JSON document")
  else if Http.bodyLimit < request.body.length then
    .error (.rejection 413 "The body is too long")
  else
    match Draft.readBytes fields.read request.body with
    | .ok change => .ok change
    | .error .text => .error (.rejection 400 "The body is no JSON document")
    | .error .shape => .error (.rejection 422 "The body asks for no rule")

end RuleRequest

/-! ## Responses -/

/-- The document of a rule. -/
def ruleDocument (rule : Firewall.Rule) : Json := .object [
  ("protocol", .string rule.protocol.name), ("port", .nat rule.port.toNat)]

/-- The document about a backend and its rules. -/
def statusDocument (backend : Firewall.Backend) : Json := .object [
  ("backend", .string backend.name), ("enforcing", .bool backend.enforces),
  ("rules", .array (backend.rules.map ruleDocument))]

/-- The response that shows the rules in force. -/
def showRules (site : Site) (principal : Option String) : Http.Response :=
  match principal with
  | none => RulesError.unauthenticated.response
  | some _ => .json 200 (statusDocument site.backend)

/-! ## Changes -/

/-- Go on with the name of an administrator. -/
def asAdministrator (site : Site) (principal : Option String) (next : String → Talk Handled) :
    Talk Handled :=
  match principal with
  | none => .done (site.unchanged RulesError.unauthenticated.response)
  | some name =>
      (visit (Directory.isAdmin name)).bind fun
        | .error cause => .done (site.unchanged (RulesError.directory cause).response)
        | .ok false => .done (site.unchanged RulesError.forbidden.response)
        | .ok true => next name

/-- Change the rules by an operation on the backend. -/
def change (site : Site) (now : Instant) (actor : String) (kind : Audit.Kind)
    (rule : Option Firewall.Rule) (operation : Firewall.Talk (Firewall.Outcome Firewall.Backend)) :
    Talk Handled :=
  (filter operation).bind fun outcome =>
    let (backend, result) := outcome
    let error := match result with
      | .error cause => some cause.message
      | .ok () => none
    let response := match result with
      | .error cause => (RulesError.firewall cause).response
      | .ok () => .json 200 (statusDocument backend)
    .done ⟨response, [.ofChange now kind backend.name rule actor error],
      { site with backend := backend }⟩

/-- Change one rule as a request asks. -/
def changeRule (site : Site) (request : Http.Request) (principal : Option String) (now : Instant)
    (kind : Audit.Kind)
    (operation : Firewall.Rule → Firewall.Talk (Firewall.Outcome Firewall.Backend)) :
    Talk Handled :=
  match RuleRequest.ofRequest request with
  | .error response => .done (site.unchanged response)
  | .ok asked =>
      site.asAdministrator principal fun actor =>
        match Firewall.Rule.ofRequest asked.protocol asked.port with
        | .error cause => .done (site.unchanged (RulesError.firewall cause).response)
        | .ok rule => site.change now actor kind (some rule) (operation rule)

/-- Remove all rules. -/
def flushRules (site : Site) (principal : Option String) (now : Instant) : Talk Handled :=
  site.asAdministrator principal fun actor =>
    site.change now actor .flushRules none site.backend.flush

end Gatehouse.Site
