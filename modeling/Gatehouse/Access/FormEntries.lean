import Gatehouse.Access.Exchange
import Gatehouse.Http.FormText
import Gatehouse.Http.MediaType
import Gatehouse.Http.Message
/-!
# The form of the exchange in a request

A form counts as blank when its body is not said to be a form, is too long, or names an entry of the
exchange twice.
-/

namespace Gatehouse.Access.Form

/-- The names of the entries. -/
def names : List String :=
  ["sleuth_action", "username", "password", "new_password", "confirm_password", "reset_token"]

/-- Whether an entry of the form comes twice. -/
def hasRepeats (entries : List (String × String)) : Bool :=
  names.any fun name => 1 < (entries.filter fun entry => entry.1 = name).length

/-- The form with the given entries. -/
def ofEntries (entries : List (String × String)) : Form where
  action := entries.lookup "sleuth_action"
  username := (entries.lookup "username").getD ""
  password := (entries.lookup "password").getD ""
  newPassword := (entries.lookup "new_password").getD ""
  confirmation := (entries.lookup "confirm_password").getD ""
  ticket := entries.lookup "reset_token"

/-- The form that comes with a request. -/
def ofRequest (request : Http.Request) : Form :=
  let entries := Http.FormText.entries request.body
  if !Http.MediaType.isForm request.headers || Http.bodyLimit < request.body.length ||
      hasRepeats entries then blank
  else ofEntries entries

end Gatehouse.Access.Form
