import Gatehouse.Access.FormEntries
import Gatehouse.Access.Page
import Gatehouse.Site.Basic
/-!
# What a client meets that is not admitted

A browser gets the page of the sign-in exchange, and whoever asks for documents gets a document.  A
form posted to any place goes on with the exchange.  When it ends well, the client gets a session
token in a cookie, and its address may be granted access too.
-/

namespace Gatehouse.Site

open Access

/-! ## The client's wishes -/

/-- Whether a client asks for documents rather than pages. -/
def asksForDocuments (headers : Http.Headers) : Bool :=
  headers.contains "authorization" ||
    ((headers.text? "accept").filter fun accept => Text.contains accept "application/json").isSome

/-- The place to which a client goes after signing in: where it wanted to go, if that is a place
here. -/
def returnPlace (target : Http.Target) : String :=
  match target.resource with
  | none => "/"
  | some resource =>
      match resource.toList with
      | '/' :: '/' :: _ => "/"
      | '/' :: '\\' :: _ => "/"
      | '/' :: _ => resource
      | _ => "/"

/-! ## Responses -/

/-- A document for a client that is not admitted. -/
def refusal (members : List (String × Json)) : Http.Response := .json 401 (.ofMembers members)

/-- A document that says nothing but that the client is not admitted. -/
def unauthorized : Http.Response := refusal [("error", .string "unauthorized")]

/-- A page for a client that is not admitted.  It is not to be kept. -/
def challengePage (text : String) : Http.Response :=
  (Http.Response.page 401 text).withHeader "cache-control" "no-store"

/-- The cookie that holds a session token. -/
def sessionCookie (site : Site) (token : String) : Http.Cookie.Setting where
  name := Access.Gate.sessionCookie
  value := token
  secure := site.settings.secureCookie
  maxAge := site.gate.issuer.sessionLifetime.seconds
  expires := none

/-- The cookie that takes the session token away: an empty one that has ended a year ago. -/
def removalCookie (site : Site) (now : Instant) : Http.Cookie.Setting :=
  let year := (Span.ofSeconds? (-31536000)).getD .zero
  { site.sessionCookie "" with maxAge := 0, expires := some ((now.add? year).getD now) }

/-- A response that sets a cookie. -/
def withCookie (response : Http.Response) (cookie : Http.Cookie.Setting) : Http.Response :=
  response.withHeader "set-cookie" cookie.text

/-! ## The exchange -/

/-- Open a session for a subject. -/
def openSession (site : Site) (subject : String) (client : Option Address) (now : Instant)
    (id : Uuid) : String × Site :=
  let token := site.gate.issuer.issueSession subject now id
  match client with
  | none => (token, site)
  | some client =>
      if site.settings.grantsAddress then
        let allowList := site.gate.allowList.grant client subject now
        (token, { site with gate := { site.gate with allowList := allowList } })
      else (token, site)

/-- The response to a step of the exchange for a client that asks for documents. -/
def outcomeDocument : Outcome → Http.Response
  | .prompt none => unauthorized
  | .prompt (some error) => refusal [("error", .string error)]
  | .rejected _ => refusal [("error", .string Exchange.invalidCredentials)]
  | .reset username ticket error => refusal [
      ("error", .string (error.getD "password reset required")),
      ("username", .string username), ("reset_token", .string ticket)]
  | .granted _ _ => unauthorized

/-- The page for a step of the exchange. -/
def outcomePage (form : Form) (place : String) : Outcome → Http.Response
  | .prompt error => challengePage (Access.Page.login place form.username error)
  | .rejected username =>
      challengePage (Access.Page.login place username (some Exchange.invalidCredentials))
  | .reset username ticket error =>
      challengePage (Access.Page.reset place username ticket error)
  | .granted _ _ => challengePage (Access.Page.login place form.username none)

/-- The response to a client that has signed in. -/
def welcome (documents : Bool) (place subject token : String) : Http.Response :=
  if documents then
    .json 200 (.ofMembers [("token", .string token), ("subject", .string subject)])
  else .seeOther place

/-- The events of a step of the exchange. -/
def outcomeEvents (client : Address) (now : Instant) : Outcome → List Audit.Event
  | .rejected username => [.ofAccess now .loginFailed username client]
  | .granted subject afterReset =>
      [.ofAccess now (if afterReset then .passwordReset else .login) subject client]
  | _ => []

/-- What a step of the exchange leads to. -/
def concluded (site : Site) (request : Http.Request) (form : Form) (client : Option Address)
    (now : Instant) (id : Uuid) (outcome : Outcome) : Handled :=
  let documents := asksForDocuments request.headers
  let place := returnPlace request.target
  let events := outcomeEvents (client.getD .unspecified) now outcome
  match outcome with
  | .granted subject _ =>
      let (token, site) := site.openSession subject client now id
      ⟨withCookie (welcome documents place subject token) (site.sessionCookie token), events, site⟩
  | outcome =>
      ⟨if documents then outcomeDocument outcome else outcomePage form place outcome, events, site⟩

/-- Meet a request that is not admitted.  `id` marks the token that it may lead to. -/
def challenge (site : Site) (request : Http.Request) (client : Option Address) (now : Instant)
    (id : Uuid) : Talk Handled :=
  if request.method = "POST" then
    let form := Form.ofRequest request
    (visit (Exchange.run site.gate.issuer form now id)).bind fun outcome =>
      .done (site.concluded request form client now id outcome)
  else if asksForDocuments request.headers then .done (site.unchanged unauthorized)
  else
    .done (site.unchanged
      (challengePage (Access.Page.login (returnPlace request.target) "" none)))

/-! ## Signing out -/

/-- The path that ends a session. -/
def logoutPath : String := "/logout"

/-- End the session and the grant of a client. -/
def logout (site : Site) (request : Http.Request) (client : Option Address) (now : Instant) :
    Handled :=
  let granted := client.bind fun client => site.gate.allowList.admits? client now
  let subject := (site.gate.sessionSubject? request.headers now).orElse fun _ =>
    granted.map fun grant => grant.subject
  let allowList := match client with
    | some client => site.gate.allowList.revoke client
    | none => site.gate.allowList
  let events := match subject with
    | some subject => [.ofAccess now .logout subject (client.getD .unspecified)]
    | none => []
  ⟨withCookie (.redirect 303 "/") (site.removalCookie now), events,
    { site with gate := { site.gate with allowList := allowList } }⟩

end Gatehouse.Site
