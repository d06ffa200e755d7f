import Gatehouse.Data.Base64Url
import Gatehouse.Data.Sha256
import Gatehouse.Data.Word
import Gatehouse.Json.Record
import Gatehouse.Text.Blank
import Gatehouse.Time.Instant
import Gatehouse.Uuid
/-!
# Signed tokens

A token is three texts with dots between them: a header, the claims that the token carries, and a
signature of both under the secret of the issuer, each in base64.  Whoever presents a token is
believed up to its expiry.  A purpose in the claims keeps session tokens and tickets for a new
password apart.
-/

namespace Gatehouse.Access

/-- What a token is good for. -/
inductive Purpose where
  | session
  | passwordReset
deriving DecidableEq, Repr

namespace Purpose

/-- The name of a purpose. -/
def name : Purpose → String
  | .session => "session"
  | .passwordReset => "password_reset"

/-- The purpose with a name. -/
def ofName? (name : String) : Option Purpose :=
  [session, passwordReset].find? fun purpose => purpose.name = name

end Purpose

/-- What a token says. -/
structure Claims where
  subject : String
  /-- The second from which on the token is no longer valid. -/
  expiry : Int
  /-- The second in which the token was issued. -/
  issuedAt : Int
  id : Uuid
  purpose : Purpose
deriving DecidableEq

/-- Why a token is not accepted, or cannot be issued. -/
inductive TokenError where
  | malformed
  | unexpectedAlgorithm (name : String)
  | badSignature
  | expired
  | wrongPurpose
  | emptySecret
deriving DecidableEq, Repr

/-- The text of such an error. -/
def TokenError.message : TokenError → String
  | .malformed => "malformed token"
  | .unexpectedAlgorithm name => "unexpected token algorithm '" ++ name ++ "'"
  | .badSignature => "token signature mismatch"
  | .expired => "token expired"
  | .wrongPurpose => "token issued for a different purpose"
  | .emptySecret => "session secret must not be empty"

/-- The one who signs tokens. -/
structure Issuer where
  secret : Bytes
  secret_ne_nil : secret ≠ []
  sessionLifetime : Span
  resetLifetime : Span

namespace Token

/-! ## Documents -/

/-- The algorithm of the signatures. -/
def algorithm : String := "HS256"

/-- What a header says. -/
structure Header where
  algorithm : String
  type : String
deriving DecidableEq

/-- The header of every token issued. -/
def header : Header := ⟨algorithm, "JWT"⟩

/-- The document of a header. -/
def Header.document (header : Header) : Json :=
  .object [("alg", .string header.algorithm), ("typ", .string header.type)]

/-- How a header is read. -/
def Header.fields : Draft.Fields Header :=
  Header.mk <$> .required "alg" Draft.text <*> .required "typ" Draft.text

/-- A second in a token. -/
def readSecond : Draft.Reader Int := Draft.integer Word.leastSigned Word.greatestSigned

/-- The document of claims. -/
def claimsDocument (claims : Claims) : Json := .object [
  ("sub", .string claims.subject), ("exp", .int claims.expiry), ("iat", .int claims.issuedAt),
  ("jti", .string claims.id.text), ("purpose", .string claims.purpose.name)]

/-- How claims are read. -/
def claimsFields : Draft.Fields Claims :=
  Claims.mk <$> .required "sub" Draft.text <*> .required "exp" readSecond
    <*> .required "iat" readSecond <*> .required "jti" (Draft.spelled Uuid.parse?)
    <*> .required "purpose" (Draft.choice Purpose.ofName?)

/-! ## Signing -/

/-- A document as part of a token. -/
def part (json : Json) : List Char := Base64Url.encode (Utf8.encode json.compact)

/-- The signature under two parts. -/
def signature (issuer : Issuer) (header claims : List Char) : Bytes :=
  Sha256.hmac issuer.secret (Utf8.encode (String.ofList (header ++ '.' :: claims)))

/-- The token that says the given claims. -/
def sign (issuer : Issuer) (claims : Claims) : String :=
  let first := part header.document
  let second := part (claimsDocument claims)
  String.ofList
    (first ++ '.' :: second ++ '.' :: Base64Url.encode (signature issuer first second))

/-- The instant at which a token issued now expires: the end of the calendar at the latest. -/
def expiryAfter (lifetime : Span) (now : Instant) : Instant :=
  (now.add? lifetime).getD .last

/-- The claims of a token issued now. -/
def claimsFor (subject : String) (purpose : Purpose) (lifetime : Span) (now : Instant) (id : Uuid) :
    Claims where
  subject := subject
  expiry := (expiryAfter lifetime now).seconds
  issuedAt := now.seconds
  id := id
  purpose := purpose

/-! ## Validation -/

/-- Read a record from a part of a token. -/
def readPart? {α : Type} (fields : Draft.Fields α) (text : List Char) : Option α := do
  let bytes ← Base64Url.decode? text
  (Draft.readBytes fields.read bytes).toOption

/-- Accept a token for a purpose, or give the first of these faults: no three parts with a header,
an algorithm other than the expected one, no signature, a wrong signature, no claims, another
purpose, and an expiry that is past. -/
def validate (issuer : Issuer) (token : String) (purpose : Purpose) (now : Instant) :
    Except TokenError Claims :=
  match Text.splitWhere (· = '.') (Text.trim token).toList with
  | [first, second, third] =>
      match readPart? Header.fields first with
      | none => .error .malformed
      | some header =>
          if header.algorithm ≠ algorithm then .error (.unexpectedAlgorithm header.algorithm)
          else
            match Base64Url.decode? third with
            | none => .error .malformed
            | some found =>
                if found ≠ signature issuer first second then .error .badSignature
                else
                  match readPart? claimsFields second with
                  | none => .error .malformed
                  | some claims =>
                      if claims.purpose ≠ purpose then .error .wrongPurpose
                      else if claims.expiry ≤ now.seconds then .error .expired
                      else .ok claims
  | _ => .error .malformed

end Token

namespace Issuer

/-- The issuer with a secret, which must not be empty. -/
def ofSecret (secret : Bytes) (sessionLifetime resetLifetime : Span) :
    Except TokenError Issuer :=
  if nonempty : secret ≠ [] then .ok ⟨secret, nonempty, sessionLifetime, resetLifetime⟩
  else .error .emptySecret

/-- Issue a session token. -/
def issueSession (issuer : Issuer) (subject : String) (now : Instant) (id : Uuid) : String :=
  Token.sign issuer (Token.claimsFor subject .session issuer.sessionLifetime now id)

/-- Issue a ticket for choosing a new password. -/
def issueTicket (issuer : Issuer) (subject : String) (now : Instant) (id : Uuid) : String :=
  Token.sign issuer (Token.claimsFor subject .passwordReset issuer.resetLifetime now id)

end Issuer

end Gatehouse.Access
