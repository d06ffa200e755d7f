import Gatehouse.Access.Token
import Gatehouse.Directory.Operations
/-!
# The sign-in exchange

Somebody signs in with a name and a password.  When a new password has to be chosen first, the
answer is a ticket, and whoever presents it may set the password once more.  All refusals of
credentials look the same.
-/

namespace Gatehouse.Access

/-- The form that the pages of the exchange send. -/
structure Form where
  action : Option String
  username : String
  password : String
  newPassword : String
  confirmation : String
  ticket : Option String
deriving DecidableEq, Inhabited

/-- The form without entries. -/
def Form.blank : Form := ⟨none, "", "", "", "", none⟩

/-- How one step of the exchange ends. -/
inductive Outcome where
  /-- Ask for name and password, with a message if something went wrong. -/
  | prompt (error : Option String)
  /-- The credentials are not accepted. -/
  | rejected (username : String)
  /-- The credentials are right, and a new password has to be chosen with the ticket. -/
  | reset (username ticket : String) (error : Option String)
  | granted (subject : String) (afterReset : Bool)
deriving DecidableEq, Repr

/-- Why a step does not end as asked. -/
inductive Refusal where
  | credentials
  | directory (cause : DirectoryError)
  | ticket (cause : TokenError)
deriving DecidableEq, Repr

namespace Exchange

/-- What is said about credentials that are not accepted. -/
def invalidCredentials : String := "invalid username or password"

/-- What is said about a refusal on the page. -/
def Refusal.userMessage : Refusal → String
  | .credentials => invalidCredentials
  | .directory _ => "the directory is unavailable, please try again"
  | .ticket _ => "your reset session has expired, please sign in again"

/-- A step that may be refused. -/
abbrev Step := Visit (Except Refusal Outcome)

/-- Go on with the result of an operation on the directory, or refuse because it failed. -/
def andThen {α : Type} (op : Directory.Op α) (next : α → Step) : Step :=
  op.bind fun
    | .error cause => .done (.error (.directory cause))
    | .ok value => next value

/-- Refuse the credentials. -/
def refuse : Step := .done (.error .credentials)

/-- End with an outcome. -/
def conclude (outcome : Outcome) : Step := .done (.ok outcome)

/-- Sign in with name and password. -/
def signIn (issuer : Issuer) (form : Form) (now : Instant) (id : Uuid) : Step :=
  andThen (Directory.lookupPrincipal (Text.trim form.username)) fun
    | none => refuse
    | some principal =>
        if !principal.enabled || !principal.credentialMatches form.password then refuse
        else if principal.resetPending now then
          conclude (.reset principal.name (issuer.issueTicket principal.name now id) none)
        else conclude (.granted principal.name false)

/-- What is wrong with the new password in a form. -/
def passwordFault (form : Form) : Option String :=
  if form.newPassword.isEmpty then some "new password must not be empty"
  else if form.newPassword ≠ form.confirmation then some "passwords do not match"
  else none

/-- Choose a new password with a ticket. -/
def resetPassword (issuer : Issuer) (form : Form) (now : Instant) : Step :=
  let ticket := form.ticket.getD ""
  let username := Text.trim form.username
  match Token.validate issuer ticket .passwordReset now with
  | .error cause => .done (.error (.ticket cause))
  | .ok claims =>
      if !username.isEmpty && username ≠ claims.subject then refuse
      else
        andThen (Directory.lookupPrincipal claims.subject) fun
          | none => refuse
          | some principal =>
              if !principal.enabled || !principal.resetPending now then refuse
              else
                match passwordFault form with
                | some fault => conclude (.reset principal.name ticket (some fault))
                | none =>
                    andThen (Directory.setCredential principal.name form.newPassword) fun _ =>
                      conclude (.granted principal.name true)

/-- The outcome that a refusal amounts to. -/
def settle (form : Form) : Except Refusal Outcome → Outcome
  | .ok outcome => outcome
  | .error .credentials => .rejected form.username
  | .error refusal => .prompt (some (Refusal.userMessage refusal))

/-- One step of the exchange, as the form asks for it.  `id` marks the ticket, if one is given. -/
def run (issuer : Issuer) (form : Form) (now : Instant) (id : Uuid) : Visit Outcome :=
  if form.action = some "login" then
    (signIn issuer form now id).bind fun result => .done (settle form result)
  else if form.action = some "reset_password" then
    (resetPassword issuer form now).bind fun result => .done (settle form result)
  else .done (.prompt none)

end Exchange

end Gatehouse.Access
