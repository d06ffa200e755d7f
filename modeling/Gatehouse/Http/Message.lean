import Gatehouse.Http.Headers
import Gatehouse.Http.Target
import Gatehouse.Json.Basic
import Gatehouse.Net.Address
/-!
# Requests and responses
-/

namespace Gatehouse.Http

/-- A request, and the address of the peer that sent it if it is known. -/
structure Request where
  method : String
  target : Target
  headers : Headers
  peer : Option Address
  body : Bytes
deriving Inhabited

/-- Whether a request with the given method only asks for something. -/
def isRetrieval (method : String) : Bool := method = "GET" || method = "HEAD"

/-- The longest body that is read, in bytes. -/
def bodyLimit : Nat := 2097152

/-- A response.  Each header field has a name of its own. -/
structure Response where
  status : Nat
  headers : List (String × String)
  body : Bytes
deriving DecidableEq, Repr, Inhabited

namespace Response

/-- A response with nothing but a status. -/
def bare (status : Nat) : Response := ⟨status, [], []⟩

/-- A response that holds a document. -/
def json (status : Nat) (document : Json) : Response :=
  ⟨status, [("content-type", "application/json")], Utf8.encode document.compact⟩

/-- A response that holds a page. -/
def page (status : Nat) (text : String) : Response :=
  ⟨status, [("content-type", "text/html; charset=utf-8")], Utf8.encode text⟩

/-- A response that says in plain text what cannot be used. -/
def rejection (status : Nat) (message : String) : Response :=
  ⟨status, [("content-type", "text/plain; charset=utf-8")], Utf8.encode message⟩

/-- A response that sends the client to another place. -/
def redirect (status : Nat) (location : String) : Response :=
  ⟨status, [("location", location)], []⟩

/-- The one character that the target of a request may have and a header field may not. -/
def deleteMark : Char := Char.ofNat 127

/-- A response that sends the client on to a place that another request has named. -/
def seeOther (location : String) : Response :=
  if location.toList.contains deleteMark then rejection 500 "failed to parse header value"
  else redirect 303 location

/-- A response to a method that the place does not know. -/
def methodNotAllowed (allowed : String) : Response := ⟨405, [("allow", allowed)], []⟩

/-- The response with one more header field. -/
def withHeader (response : Response) (name value : String) : Response :=
  { response with headers := response.headers ++ [(name, value)] }

/-- The response to a request that asks for the head alone. -/
def withoutBody (response : Response) : Response := { response with body := [] }

/-- The value of a header field. -/
def header? (response : Response) (name : String) : Option String := response.headers.lookup name

end Response

end Gatehouse.Http
