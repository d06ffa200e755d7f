import Gatehouse.Data.Percent
import Gatehouse.Http.Headers
import Gatehouse.Text.Blank
import Gatehouse.Time.MailDate
/-!
# Cookies

The cookies that come with a request, and the header field that sets one.
-/

namespace Gatehouse.Http.Cookie

/-! ## Cookies of a request -/

/-- The name and the value in one stretch of a cookie header, if it has both and they stand for
texts. -/
def pair? (stretch : String) : Option (String × String) :=
  match Text.cut? '=' stretch.toList with
  | none => none
  | some (name, value) =>
      let name := Text.trim (String.ofList name)
      if name.isEmpty then none
      else do
        let name ← Percent.decodeText? name
        let value ← Percent.decodeText? (Text.trim (String.ofList value))
        return (name, value)

/-- All cookies of a request, in order. -/
def all (headers : Headers) : List (String × String) :=
  ((headers.all "cookie").filterMap Headers.readable?).flatMap fun value =>
    (Text.split ';' value).filterMap pair?

/-- The value of the last cookie with a name. -/
def get? (headers : Headers) (name : String) : Option String := (all headers).reverse.lookup name

/-! ## Setting a cookie -/

/-- A cookie for all paths that scripts cannot see and that other sites' forms do not send. -/
structure Setting where
  name : String
  value : String
  secure : Bool
  /-- For how many seconds the cookie is kept. -/
  maxAge : Int
  /-- The instant at which the cookie ends, where that is said too. -/
  expires : Option Instant

/-- The value of the header field that sets a cookie. -/
def Setting.text (cookie : Setting) : String :=
  cookie.name ++ "=" ++ cookie.value ++ "; HttpOnly; SameSite=Lax" ++
    (if cookie.secure then "; Secure" else "") ++
    "; Path=/; Max-Age=" ++ Text.ofInt cookie.maxAge ++
    (match cookie.expires with
      | some instant => "; Expires=" ++ MailDate.text instant
      | none => "")

end Gatehouse.Http.Cookie
