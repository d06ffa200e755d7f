import Gatehouse.Access.AllowList
import Gatehouse.Access.Token
import Gatehouse.Files.Tree
import Gatehouse.Http.Cookie
import Gatehouse.Http.Message
import Gatehouse.Net.Network
/-!
# Admission

A request is admitted when it fetches a public file, when it carries a session token that is still
good, or when it comes from an address that holds a live grant.  In this order the first reason
wins.
-/

namespace Gatehouse.Access

/-- What decides about admission. -/
structure Gate where
  issuer : Issuer
  allowList : AllowList
  /-- The peers that are believed when they name the client behind them. -/
  trustedProxies : List Network
  /-- The directory of the public files, if there are any. -/
  publicFiles : Option String

/-- Why a request is admitted, or that it is not. -/
inductive Admission where
  | publicFile
  | token (subject : String)
  | allowList (subject : String)
  | denied
deriving DecidableEq, Repr

namespace Gate

/-! ## The client behind a request -/

/-- Whether a peer is believed when it names a client. -/
def trusts (gate : Gate) (address : Address) : Bool :=
  gate.trustedProxies.any fun network => network.contains address

/-- The addresses that a forwarding header names, nearest last. -/
def hops? (value : String) : Option (List Address) :=
  (Text.split ',' value).mapM fun hop => Address.parse? (Text.trim hop).toList

/-- The client among the hops before a trusted peer: the nearest one that is not trusted itself, or
else the farthest. -/
def clientAmong (gate : Gate) (peer : Address) (hops : List Address) : Address :=
  match hops.reverse.find? fun hop => !gate.trusts hop with
  | some hop => hop
  | none => hops.head?.getD peer

/-- The address of the client that sent a request through `peer`.  What a peer says about the client
counts only if the peer is trusted and all that it says are addresses. -/
def client? (gate : Gate) (peer : Option Address) (headers : Http.Headers) : Option Address :=
  peer.map fun peer =>
    if gate.trusts peer then
      match (headers.text? "x-forwarded-for").bind hops? with
      | some hops => gate.clientAmong peer hops
      | none => peer
    else peer

/-! ## Public files -/

/-- Whether a relative path only goes down. -/
def goesDown (path : String) : Bool :=
  let names := Text.split '/' path
  !path.isEmpty && names.head? ≠ some "." && !names.contains ".."

/-- Whether a path names a file below the directory of public files, also after all links are
followed. -/
def isPublicFile (gate : Gate) (tree : FileTree) (path : String) : Bool :=
  match gate.publicFiles with
  | none => false
  | some root =>
      let relative := String.ofList (path.toList.dropWhile (· = '/'))
      goesDown relative &&
        match tree.resolve root, tree.resolve (Path.join root relative) with
        | .ok root, .ok place => root.isPrefixOf place && tree.isFile place
        | _, _ => false

/-! ## Sessions -/

/-- The name of the cookie that holds a session token. -/
def sessionCookie : String := "sleuth_session"

/-- The token in an authorization header. -/
def bearer? (headers : Http.Headers) : Option String := do
  let value ← headers.text? "authorization"
  let (scheme, token) ← Text.cut? ' ' value.toList
  if Text.toLowerAscii (String.ofList scheme) = "bearer" then some (Text.trim (String.ofList token))
  else none

/-- The session tokens that come with a request: the one in the cookie before the one in the
header. -/
def candidates (headers : Http.Headers) : List String :=
  ((Http.Cookie.get? headers sessionCookie).filter fun token => !token.isEmpty).toList ++
    (bearer? headers).toList

/-- The subject of the first session token that is good. -/
def sessionSubject? (gate : Gate) (headers : Http.Headers) (now : Instant) : Option String :=
  (candidates headers).findSome? fun token =>
    match Token.validate gate.issuer token .session now with
    | .ok claims => some claims.subject
    | .error _ => none

/-! ## The decision -/

/-- Decide about a request from a client. -/
def admission (gate : Gate) (tree : FileTree) (method path : String) (headers : Http.Headers)
    (client : Option Address) (now : Instant) : Admission :=
  if Http.isRetrieval method && gate.isPublicFile tree path then .publicFile
  else
    match gate.sessionSubject? headers now with
    | some subject => .token subject
    | none =>
        match client.bind fun client => gate.allowList.admits? client now with
        | some grant => .allowList grant.subject
        | none => .denied

end Gate

end Gatehouse.Access
