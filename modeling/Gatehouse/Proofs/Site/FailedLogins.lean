import Gatehouse.Proofs.Access.Answered
import Gatehouse.Proofs.Site.Handling
/-!
# Logins that fail

A client that is turned away does not learn why.  Whether nobody has the name, the principal is
disabled or the password is another one, the site answers the same request with the same response,
and the event for the audit log differs by its timestamp only.
-/

namespace Gatehouse.Site

open Access

/-- What a request meets besides the site: the directory, the public files, the time, the mark for a
new token, and what the programs of the packet filter say. -/
structure Surroundings where
  directory : Store
  tree : FileTree
  now : Instant
  id : Uuid
  reply : Firewall.Command → Firewall.Reply

namespace Surroundings

/-- Answer a call with a directory in memory. -/
def answer (around : Surroundings) (directory : Store) :
    (call : Call) → call.Answer × Store
  | .store call => directory.answer call
  | .filter command => (around.reply command, directory)

/-- What a request leads to, and the directory afterwards. -/
def handle (around : Surroundings) (site : Site) (request : Http.Request) : Handled × Store :=
  (site.handle around.tree request around.now around.id).run around.answer around.directory

variable {around first second : Surroundings} {site : Site} {request : Http.Request}

theorem run_visit {α : Type} (visited : Visit α) :
    (visit visited).run around.answer around.directory =
      visited.run Store.answer around.directory :=
  Dialogue.run_relay _ _ _ _

/-- The request is not admitted, and the directory turns away the login that it carries. -/
structure RefusesLogin (around : Surroundings) (site : Site) (request : Http.Request) : Prop where
  denied : site.gate.admission around.tree request.method request.target.path request.headers
    (site.gate.client? request.peer request.headers) around.now = .denied
  turnsAway : Exchange.TurnsAway around.directory (Form.ofRequest request)

/-- The response to a login that fails. -/
def failedResponse (request : Http.Request) : Http.Response :=
  let username := (Form.ofRequest request).username
  if asksForDocuments request.headers then outcomeDocument (.rejected username)
  else outcomePage (Form.ofRequest request) (returnPlace request.target) (.rejected username)

/-- The event of a login that fails. -/
def failedEvent (site : Site) (request : Http.Request) (now : Instant) : Audit.Event :=
  .ofAccess now .loginFailed (Form.ofRequest request).username
    ((site.gate.client? request.peer request.headers).getD .unspecified)

/-- A login that is refused has an answer that only the request decides, besides the time. -/
theorem handle_of_refusesLogin (elsewhere : request.target.path ≠ logoutPath)
    (isPost : request.method = "POST")
    (isLogin : (Form.ofRequest request).action = some "login")
    (refuses : RefusesLogin around site request) :
    around.handle site request =
      (⟨failedResponse request, [failedEvent site request around.now], site⟩,
        around.directory) := by
  have exchanged : (visit (Exchange.run site.gate.issuer (Form.ofRequest request) around.now
      around.id)).run around.answer around.directory =
        (.rejected (Form.ofRequest request).username, around.directory) := by
    rw [run_visit, Exchange.run_of_turnsAway isLogin refuses.turnsAway]
  have notHead : request.method ≠ "HEAD" := by
    rw [isPost]
    decide
  rw [handle, Site.handle, Dialogue.run_bind, respond]
  dsimp only
  rw [if_neg elsewhere, refuses.denied]
  dsimp only
  rw [challenge, if_pos isPost]
  dsimp only
  rw [Dialogue.run_bind, exchanged, Dialogue.run_done, if_neg notHead]
  rfl

/-- Logins that fail cannot be told apart: a request with a login that is refused is answered with
the same response and the same event, but for its timestamp, whatever the directory has under the
name, and nothing else changes. -/
theorem failed_logins_look_alike (elsewhere : request.target.path ≠ logoutPath)
    (isPost : request.method = "POST")
    (isLogin : (Form.ofRequest request).action = some "login")
    (one : RefusesLogin first site request) (other : RefusesLogin second site request) :
    ∃ (response : Http.Response) (event : Instant → Audit.Event),
      (∀ now later, event later = { event now with timestamp := later }) ∧
      first.handle site request = (⟨response, [event first.now], site⟩, first.directory) ∧
      second.handle site request = (⟨response, [event second.now], site⟩, second.directory) :=
  ⟨failedResponse request, failedEvent site request, fun _ _ => rfl,
    handle_of_refusesLogin elsewhere isPost isLogin one,
    handle_of_refusesLogin elsewhere isPost isLogin other⟩

end Surroundings

/-! ### A wrong password, and a name that nobody has -/

namespace Login

theorem form_request : Form.ofRequest request = form := form_handling

/-- A directory in which the password is another one. -/
def changed : Store :=
  SortedMap.empty.insert "user:ada" (Record.document (Principal.ofName "ada" "other"))

/-- The request comes at a time, and somebody has set up a directory. -/
def meeting (directory : Store) (now : Instant) : Surroundings :=
  ⟨directory, .empty, now, id, fun _ => .ok .silent⟩

/-- Later on. -/
def later : Instant := ⟨90, 0, by decide⟩

theorem refusesLogin_changed : (meeting changed now).RefusesLogin site request where
  denied := rfl
  turnsAway := by
    have key : Directory.userKey (Text.trim form.username) = "user:ada" := by decide +kernel
    have held : changed.Holds (Directory.userKey (Text.trim form.username))
        (Principal.ofName "ada" "other") := by
      rw [key]
      exact Directory.holds_insert_document _
    rw [form_request]
    exact .wrongPassword held (by decide)

theorem refusesLogin_empty : (meeting .empty later).RefusesLogin site request where
  denied := rfl
  turnsAway := by
    rw [form_request]
    exact .unknown rfl

/-- A wrong password at one time looks like an unknown name at another. -/
theorem failed_logins_look_alike_ada :
    ∃ (response : Http.Response) (event : Instant → Audit.Event),
      ((meeting changed now).handle site request).1.response = response ∧
      ((meeting changed now).handle site request).1.events = [event now] ∧
      ((meeting .empty later).handle site request).1.response = response ∧
      ((meeting .empty later).handle site request).1.events = [event later] ∧
      event later = { event now with timestamp := later } := by
  have isLogin : (Form.ofRequest request).action = some "login" := by
    rw [form_request]
    rfl
  obtain ⟨response, event, timed, one, other⟩ := Surroundings.failed_logins_look_alike (by decide)
    rfl isLogin refusesLogin_changed refusesLogin_empty
  rw [one, other]
  exact ⟨response, event, rfl, rfl, rfl, rfl, timed now later⟩

end Login

end Gatehouse.Site
