import Gatehouse.Text.Markup
/-!
# Pages

The pages for signing in and for choosing a new password, and the index page.  Each is a template
with named places, which are filled one name after the other; everything that is filled in is
escaped.
-/

namespace Gatehouse.Access.Page

open Text (fill escapeMarkup)

/-- Lines as one text, each with its end. -/
def lines (rows : List String) : String := String.join (rows.map (· ++ "\n"))

/-- The template of the page for signing in. -/
def loginTemplate : String := lines [
  "<!doctype html>",
  "<html lang=\"en\">",
  "<head>",
  "<meta charset=\"utf-8\">",
  "<meta name=\"viewport\" content=\"width=device-width, initial-scale=1\">",
  "<title>Sign in</title>",
  "<link rel=\"stylesheet\" href=\"/sleuth.css\">",
  "</head>",
  "<body>",
  "<main class=\"card\">",
  "<h1>Sign in</h1>",
  "\x7b\x7bERROR\x7d\x7d",
  "<form method=\"post\" action=\"\x7b\x7bACTION\x7d\x7d\">",
  "<input type=\"hidden\" name=\"sleuth_action\" value=\"login\">",
  "<label>Username <input name=\"username\" value=\"\x7b\x7bUSERNAME\x7d\x7d\" " ++
    "autocomplete=\"username\" required autofocus></label>",
  "<label>Password <input name=\"password\" type=\"password\" " ++
    "autocomplete=\"current-password\" required></label>",
  "<button type=\"submit\">Sign in</button>",
  "</form>",
  "</main>",
  "</body>",
  "</html>"]

/-- The template of the page for choosing a new password. -/
def resetTemplate : String := lines [
  "<!doctype html>",
  "<html lang=\"en\">",
  "<head>",
  "<meta charset=\"utf-8\">",
  "<meta name=\"viewport\" content=\"width=device-width, initial-scale=1\">",
  "<title>Choose a new password</title>",
  "<link rel=\"stylesheet\" href=\"/sleuth.css\">",
  "</head>",
  "<body>",
  "<main class=\"card\">",
  "<h1>Choose a new password</h1>",
  "<p>A password change is required for <strong>\x7b\x7bUSERNAME\x7d\x7d</strong>.</p>",
  "\x7b\x7bERROR\x7d\x7d",
  "<form method=\"post\" action=\"\x7b\x7bACTION\x7d\x7d\">",
  "<input type=\"hidden\" name=\"sleuth_action\" value=\"reset_password\">",
  "<input type=\"hidden\" name=\"username\" value=\"\x7b\x7bUSERNAME\x7d\x7d\">",
  "<input type=\"hidden\" name=\"reset_token\" value=\"\x7b\x7bTICKET\x7d\x7d\">",
  "<label>New password <input name=\"new_password\" type=\"password\" " ++
    "autocomplete=\"new-password\" required autofocus></label>",
  "<label>Confirm password <input name=\"confirm_password\" type=\"password\" " ++
    "autocomplete=\"new-password\" required></label>",
  "<button type=\"submit\">Change password</button>",
  "</form>",
  "</main>",
  "</body>",
  "</html>"]

/-- The template of the index page. -/
def indexTemplate : String := lines [
  "<!doctype html>",
  "<html lang=\"en\">",
  "<head>",
  "<meta charset=\"utf-8\">",
  "<title>Sleuth</title>",
  "<link rel=\"stylesheet\" href=\"/sleuth.css\">",
  "</head>",
  "<body>",
  "<main class=\"card\">",
  "<h1>Sleuth</h1>",
  "<p>Signed in as <strong>\x7b\x7bUSERNAME\x7d\x7d</strong>.</p>",
  "<p>Firewall backend: \x7b\x7bBACKEND\x7d\x7d</p>",
  "<form method=\"post\" action=\"/logout\"><button type=\"submit\">Sign out</button></form>",
  "</main>",
  "</body>",
  "</html>"]

/-- The paragraph that shows a message. -/
def errorBlock : Option String → String
  | none => ""
  | some message => "<p class=\"error\" role=\"alert\">" ++ escapeMarkup message ++ "</p>"

/-- The page for signing in. -/
def login (action username : String) (error : Option String) : String :=
  fill "USERNAME" (escapeMarkup username)
    (fill "ACTION" (escapeMarkup action) (fill "ERROR" (errorBlock error) loginTemplate))

/-- The page for choosing a new password with a ticket. -/
def reset (action username ticket : String) (error : Option String) : String :=
  fill "TICKET" (escapeMarkup ticket)
    (fill "USERNAME" (escapeMarkup username)
      (fill "ACTION" (escapeMarkup action) (fill "ERROR" (errorBlock error) resetTemplate)))

/-- The index page. -/
def index (username backend : String) : String :=
  fill "BACKEND" (escapeMarkup backend) (fill "USERNAME" (escapeMarkup username) indexTemplate)

end Gatehouse.Access.Page
