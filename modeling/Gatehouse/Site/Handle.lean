import Gatehouse.Site.Challenge
import Gatehouse.Site.PublicFiles
import Gatehouse.Site.Rules
/-!
# Handling requests

Every request meets the gate first.  What is admitted goes to its place.
-/

namespace Gatehouse.Site

/-- The places that are no files. -/
inductive Place where
  | index
  | rules
  | allow
  | revoke
  | flush
deriving DecidableEq, Repr

namespace Place

/-- The place with a path. -/
def ofPath? (path : String) : Option Place :=
  if path = "/" then some .index
  else if path = "/api/firewall" then some .rules
  else if path = "/api/firewall/allow" then some .allow
  else if path = "/api/firewall/revoke" then some .revoke
  else if path = "/api/firewall/flush" then some .flush
  else none

/-- Whether a place is there to be looked at. -/
def isShown : Place → Bool
  | .index => true
  | .rules => true
  | _ => false

/-- Whether a method can be used on a place. -/
def allows (place : Place) (method : String) : Bool :=
  if place.isShown then Http.isRetrieval method else method = "POST"

/-- The methods that can be used on a place. -/
def methods (place : Place) : String := if place.isShown then fileMethods else "POST"

end Place

/-- The index page for a principal. -/
def indexResponse (site : Site) (principal : Option String) : Http.Response :=
  match principal with
  | none => .bare 401
  | some name => .page 200 (Access.Page.index name site.backend.name)

/-- Handle a request to a place. -/
def atPlace (site : Site) (place : Place) (request : Http.Request) (principal : Option String)
    (now : Instant) : Talk Handled :=
  match place with
  | .index => .done (site.unchanged (site.indexResponse principal))
  | .rules => .done (site.unchanged (site.showRules principal))
  | .allow => site.changeRule request principal now .allowPort site.backend.allow
  | .revoke => site.changeRule request principal now .revokePort site.backend.revoke
  | .flush => site.flushRules principal now

/-- Handle a request that is admitted, for a principal unless it fetches a public file. -/
def admitted (site : Site) (tree : FileTree) (request : Http.Request) (principal : Option String)
    (now : Instant) : Talk Handled :=
  match Place.ofPath? request.target.path with
  | none =>
      .done (site.unchanged
        (publicFile tree site.settings.staticDirectory request.method request.target))
  | some place =>
      if place.allows request.method then site.atPlace place request principal now
      else .done (site.unchanged (.methodNotAllowed place.methods))

/-- Handle a request up to its whole response. -/
def respond (site : Site) (tree : FileTree) (request : Http.Request) (now : Instant) (id : Uuid) :
    Talk Handled :=
  let client := site.gate.client? request.peer request.headers
  if request.target.path = logoutPath then .done (site.logout request client now)
  else
    let path := request.target.path
    match site.gate.admission tree request.method path request.headers client now with
    | .publicFile => site.admitted tree request none now
    | .token name => site.admitted tree request (some name) now
    | .allowList name => site.admitted tree request (some name) now
    | .denied => site.challenge request client now id

/-- Handle a request.  `tree` holds the public files, and `id` marks the token that the request may
lead to.  A request for the head alone gets no body. -/
def handle (site : Site) (tree : FileTree) (request : Http.Request) (now : Instant) (id : Uuid) :
    Talk Handled :=
  (site.respond tree request now id).bind fun handled =>
    if request.method = "HEAD" then
      .done { handled with response := handled.response.withoutBody }
    else .done handled

end Gatehouse.Site
