import Gatehouse.Proofs.Site.Authority
/-!
# How a request is answered

There are four ways.  A request to sign out is answered at once.  A request that is admitted goes to
its place, which leaves the gate as it is and sets no cookie.  A request that is not admitted is
refused, and that changes nothing, unless it posts a form and the exchange ends with a grant.  What is
proved of every request follows these ways.
-/

namespace Gatehouse.Site

section

variable {site : Site}

/-! ## Requests that are admitted -/

/-- The name of the header field that sets a cookie. -/
def cookieField : String := "set-cookie"

/-- The answer leaves the gate and the settings as they are, and it sets no cookie. -/
structure SparesGate (site : Site) (answer : Handled) : Prop where
  gate : answer.site.gate = site.gate
  settings : answer.site.settings = site.settings
  noCookie : answer.response.header? cookieField = none

theorem SparesGate.sent {answer : Handled} (spares : SparesGate site answer)
    (request : Http.Request) : SparesGate site (sent request answer) where
  gate := by rw [site_sent, spares.gate]
  settings := by rw [site_sent, spares.settings]
  noCookie := by rw [header?_sent, spares.noCookie]

theorem sparesGate_unchanged {response : Http.Response}
    (noCookie : response.header? cookieField = none) : SparesGate site (site.unchanged response) :=
  ⟨rfl, rfl, noCookie⟩

theorem yields_unchanged {response : Http.Response} (noCookie : response.header? cookieField = none) :
    (Dialogue.done (site.unchanged response) : Talk Handled).Yields (SparesGate site) :=
  .done (sparesGate_unchanged noCookie)

theorem yields_asAdministrator {principal : Option String} {next : String → Talk Handled}
    (rest : ∀ name, (next name).Yields (SparesGate site)) :
    (site.asAdministrator principal next).Yields (SparesGate site) := by
  cases principal with
  | none => exact yields_unchanged rfl
  | some name =>
      refine Dialogue.yields_bind ?_
      rintro (cause | _ | _)
      · exact yields_unchanged rfl
      · exact yields_unchanged rfl
      · exact rest name

theorem yields_change {now : Instant} {actor : String} {kind : Audit.Kind}
    {rule : Option Firewall.Rule} {operation : Firewall.Talk (Firewall.Outcome Firewall.Backend)} :
    (site.change now actor kind rule operation).Yields (SparesGate site) := by
  refine Dialogue.yields_bind ?_
  rintro ⟨backend, cause | _⟩ <;> exact .done ⟨rfl, rfl, rfl⟩

theorem yields_changeRule {request : Http.Request} {principal : Option String} {now : Instant}
    {kind : Audit.Kind}
    {operation : Firewall.Rule → Firewall.Talk (Firewall.Outcome Firewall.Backend)} :
    (site.changeRule request principal now kind operation).Yields (SparesGate site) := by
  unfold changeRule
  split
  · rename_i response refused
    refine yields_unchanged ?_
    unfold RuleRequest.ofRequest at refused
    repeat' split at refused
    all_goals cases refused
    all_goals rfl
  · refine yields_asAdministrator fun actor => ?_
    split
    · exact yields_unchanged rfl
    · exact yields_change

theorem header?_fileResponse (tree : FileTree) (path : String) :
    (fileResponse tree path).header? cookieField = none := by
  unfold fileResponse
  split
  · rfl
  · rename_i fault _
    cases fault <;> rfl

theorem header?_slashResponse (target : Http.Target) :
    (slashResponse target).header? cookieField = none := by
  unfold slashResponse
  split <;> rfl

theorem header?_publicFile (tree : FileTree) (root method : String) (target : Http.Target) :
    (publicFile tree root method target).header? cookieField = none := by
  unfold publicFile
  split
  · split
    · rfl
    · dsimp only
      split
      · exact header?_fileResponse _ _
      · split
        · exact header?_fileResponse _ _
        · exact header?_slashResponse _
  · rfl

/-- A place leaves the gate as it is and sets no cookie. -/
theorem yields_admitted {tree : FileTree} {request : Http.Request} {principal : Option String}
    {now : Instant} : (site.admitted tree request principal now).Yields (SparesGate site) := by
  unfold admitted
  split
  · exact yields_unchanged (header?_publicFile _ _ _ _)
  · rename_i place _
    split
    · cases place with
      | index =>
          refine yields_unchanged ?_
          unfold indexResponse
          split <;> rfl
      | rules =>
          refine yields_unchanged ?_
          unfold showRules
          split <;> rfl
      | allow =>
          rw [atPlace]
          exact yields_changeRule
      | revoke =>
          rw [atPlace]
          exact yields_changeRule
      | flush => exact yields_asAdministrator fun _ => yields_change
    · exact yields_unchanged rfl

/-! ## Requests that are refused -/

/-- The answer asks for a login.  It leaves the site as it is, and it sets no cookie. -/
structure Refuses (site : Site) (answer : Handled) : Prop where
  site : answer.site = site
  status : answer.response.status = 401
  noCookie : answer.response.header? cookieField = none

theorem Refuses.sent {answer : Handled} (refuses : Refuses site answer) (request : Http.Request) :
    Refuses site (sent request answer) where
  site := by rw [site_sent, refuses.site]
  status := by rw [status_sent, refuses.status]
  noCookie := by rw [header?_sent, refuses.noCookie]

/-- An exchange that does not end with a grant is answered by asking for a login. -/
theorem refuses_concluded {request : Http.Request} {form : Access.Form} {client : Option Address}
    {now : Instant} {id : Uuid} {outcome : Access.Outcome}
    (other : ∀ subject afterReset, outcome ≠ .granted subject afterReset) :
    Refuses site (site.concluded request form client now id outcome) := by
  cases outcome with
  | granted subject afterReset => exact absurd rfl (other subject afterReset)
  | prompt error =>
      unfold concluded
      cases asksForDocuments request.headers <;> cases error <;> exact ⟨rfl, rfl, rfl⟩
  | _ =>
      unfold concluded
      cases asksForDocuments request.headers <;> exact ⟨rfl, rfl, rfl⟩

/-! ## The ways of an answer -/

/-- The moments of a dialogue tell how it has ended, even if others come after them. -/
theorem ends_unique {α : Type} {talk : Talk α} {past now later whole : List Moment}
    {first second : α} (one : talk.Ends Moment.Follows past first now)
    (other : talk.Ends Moment.Follows past second later) (part : now <+: whole)
    (otherPart : later <+: whole) : first = second ∧ now = later := by
  induction one with
  | done value moments =>
      cases other
      exact ⟨rfl, rfl⟩
  | ask replied rest ih =>
      obtain ⟨answer, middle, repliedAgain, otherRest⟩ := Dialogue.ends_ask.1 other
      -- Both answers are told by the moment that comes next.
      have grows := (prefix_of_ends rest).trans part
      have growsAgain := (prefix_of_ends otherRest).trans otherPart
      obtain ⟨directory, _, rfl⟩ := replied
      obtain ⟨another, _, rfl⟩ := repliedAgain
      have same := List.prefix_of_prefix_length_le grows growsAgain (by simp)
      have last := List.append_cancel_left (same.eq_of_length (by simp))
      cases last
      exact ih otherRest part

theorem result_unique {α : Type} {talk : Talk α} {past now : List Moment} {first second : α}
    (one : talk.Ends Moment.Follows past first now)
    (other : talk.Ends Moment.Follows past second now) : first = second :=
  (ends_unique one other (List.prefix_refl _) (List.prefix_refl _)).1

namespace Handling

/-- The client that the gate takes a request to come from. -/
def client (handling : Handling) : Option Address :=
  handling.site.gate.client? handling.request.peer handling.request.headers

/-- The form in the body of the request. -/
def form (handling : Handling) : Access.Form := Access.Form.ofRequest handling.request

/-- The request is not admitted, it posts a form, and the exchange ends with an outcome. -/
structure Exchanges (handling : Handling) (outcome : Access.Outcome) : Prop where
  elsewhere : handling.request.target.path ≠ logoutPath
  denied : handling.admission = .denied
  isPost : handling.request.method = "POST"
  ended : (visit (Access.Exchange.run handling.site.gate.issuer handling.form handling.now
    handling.id)).Ends Moment.Follows [] outcome handling.moments

theorem Exchanges.unique {handling : Handling} {outcome other : Access.Outcome}
    (exchanges : handling.Exchanges outcome) (again : handling.Exchanges other) : outcome = other :=
  result_unique exchanges.ended again.ended

/-- The request is not admitted, and no exchange ends with a grant. -/
structure Unwelcome (handling : Handling) : Prop where
  elsewhere : handling.request.target.path ≠ logoutPath
  denied : handling.admission = .denied
  notGranted : ∀ subject afterReset, ¬ handling.Exchanges (.granted subject afterReset)

/-- How a request is answered. -/
inductive Answers (handling : Handling) : Handled → Prop where
  | signOut (isLogout : handling.request.target.path = logoutPath) :
      Answers handling (handling.site.logout handling.request handling.client handling.now)
  | handOn {answer : Handled} (elsewhere : handling.request.target.path ≠ logoutPath)
      (reason : handling.admission ≠ .denied) (spares : SparesGate handling.site answer) :
      Answers handling answer
  | refuse {answer : Handled} (unwelcome : handling.Unwelcome)
      (refuses : Refuses handling.site answer) : Answers handling answer
  | grant {subject : String} {afterReset : Bool}
      (exchanges : handling.Exchanges (.granted subject afterReset)) :
      Answers handling (handling.site.concluded handling.request handling.form handling.client
        handling.now handling.id (.granted subject afterReset))

variable {handling : Handling}

theorem respond_of_denied (elsewhere : handling.request.target.path ≠ logoutPath)
    (denied : handling.admission = .denied) :
    handling.site.respond handling.tree handling.request handling.now handling.id =
      handling.site.challenge handling.request handling.client handling.now handling.id := by
  unfold respond
  dsimp only
  rw [if_neg elsewhere, ← admission, denied]
  rfl

/-- Whoever is not admitted is refused, unless an exchange ends with a grant. -/
theorem answers_of_challenge {answer : Handled}
    (elsewhere : handling.request.target.path ≠ logoutPath) (denied : handling.admission = .denied)
    (ended : (handling.site.challenge handling.request handling.client handling.now
      handling.id).Ends Moment.Follows [] answer handling.moments) :
    handling.Answers answer := by
  unfold challenge at ended
  split at ended
  · rename_i isPost
    obtain ⟨outcome, moments, visited, ended⟩ := Dialogue.ends_bind.1 ended
    obtain ⟨rfl, rfl⟩ := Dialogue.ends_done.1 ended
    have exchanges : handling.Exchanges outcome := ⟨elsewhere, denied, isPost, visited⟩
    by_cases granted : ∃ subject afterReset, outcome = .granted subject afterReset
    · obtain ⟨subject, afterReset, rfl⟩ := granted
      exact .grant exchanges
    · have other (subject : String) (afterReset : Bool) :
          outcome ≠ .granted subject afterReset := fun same => granted ⟨subject, afterReset, same⟩
      exact .refuse
        ⟨elsewhere, denied, fun subject afterReset grants => other _ _ (exchanges.unique grants)⟩
        (refuses_concluded other)
  · rename_i notPost
    have unwelcome : handling.Unwelcome :=
      ⟨elsewhere, denied, fun _ _ exchanges => notPost exchanges.isPost⟩
    split at ended <;>
    · obtain ⟨rfl, _⟩ := Dialogue.ends_done.1 ended
      exact .refuse unwelcome ⟨rfl, rfl, rfl⟩

/-- Every request that is handled is answered in one of the four ways. -/
theorem exists_answers (happens : handling.Happens) :
    ∃ answer, handling.Answers answer ∧ handling.handled = sent handling.request answer := by
  obtain ⟨answer, responded, isSent⟩ := happens_iff.1 happens
  refine ⟨answer, ?_, isSent⟩
  unfold respond at responded
  dsimp only at responded
  split at responded
  · rename_i isLogout
    obtain ⟨rfl, _⟩ := Dialogue.ends_done.1 responded
    exact .signOut isLogout
  · rename_i elsewhere
    rw [← admission] at responded
    cases decided : handling.admission with
    | denied =>
        rw [decided] at responded
        exact answers_of_challenge elsewhere decided responded
    | _ =>
        rw [decided] at responded
        have reason : handling.admission ≠ .denied := by
          rw [decided]
          rintro ⟨⟩
        exact .handOn elsewhere reason (yields_admitted.of_ends responded)

/-- A form that is posted without admission goes to an exchange, which is answered as it ends. -/
theorem exists_exchanges (happens : handling.Happens)
    (elsewhere : handling.request.target.path ≠ logoutPath) (denied : handling.admission = .denied)
    (isPost : handling.request.method = "POST") :
    ∃ outcome, handling.Exchanges outcome ∧
      handling.handled = handling.site.concluded handling.request handling.form handling.client
        handling.now handling.id outcome := by
  obtain ⟨answer, responded, isSent⟩ := happens_iff.1 happens
  rw [respond_of_denied elsewhere denied, challenge, if_pos isPost] at responded
  obtain ⟨outcome, moments, visited, ended⟩ := Dialogue.ends_bind.1 responded
  obtain ⟨rfl, rfl⟩ := Dialogue.ends_done.1 ended
  refine ⟨outcome, ⟨elsewhere, denied, isPost, visited⟩, ?_⟩
  rw [isSent, sent, if_neg (by rw [isPost]; decide)]
  rfl

/-- The answer to an exchange goes out as it is. -/
theorem handled_of_exchanges (happens : handling.Happens) {outcome : Access.Outcome}
    (exchanges : handling.Exchanges outcome) :
    handling.handled = handling.site.concluded handling.request handling.form handling.client
      handling.now handling.id outcome := by
  obtain ⟨other, exchanged, answered⟩ :=
    exists_exchanges happens exchanges.elsewhere exchanges.denied exchanges.isPost
  rw [answered, exchanges.unique exchanged]

/-- Without a grant, whoever is not admitted is refused. -/
theorem refuses_of_unwelcome (happens : handling.Happens) (unwelcome : handling.Unwelcome) :
    Refuses handling.site handling.handled := by
  obtain ⟨answer, answers, isSent⟩ := exists_answers happens
  rw [isSent]
  cases answers with
  | signOut isLogout => exact absurd isLogout unwelcome.elsewhere
  | handOn elsewhere reason spares => exact absurd unwelcome.denied reason
  | refuse _ refuses => exact refuses.sent handling.request
  | grant exchanges => exact absurd exchanges (unwelcome.notGranted _ _)

/-- A request that posts nothing and does not sign out leaves the gate as it is and sets no cookie. -/
theorem sparesGate_of_not_post (happens : handling.Happens)
    (elsewhere : handling.request.target.path ≠ logoutPath)
    (notPost : handling.request.method ≠ "POST") :
    SparesGate handling.site handling.handled := by
  obtain ⟨answer, answers, isSent⟩ := exists_answers happens
  rw [isSent]
  cases answers with
  | signOut isLogout => exact absurd isLogout elsewhere
  | handOn _ reason spares => exact spares.sent handling.request
  | refuse unwelcome refuses =>
      have spares : SparesGate handling.site answer :=
        ⟨by rw [refuses.site], by rw [refuses.site], refuses.noCookie⟩
      exact spares.sent handling.request
  | grant exchanges => exact absurd exchanges.isPost notPost

/-- A request that signs out is answered at once. -/
theorem handled_of_logout (happens : handling.Happens)
    (isLogout : handling.request.target.path = logoutPath) :
    handling.handled = sent handling.request
      (handling.site.logout handling.request handling.client handling.now) := by
  obtain ⟨answer, answers, isSent⟩ := exists_answers happens
  rw [isSent]
  cases answers with
  | signOut _ => rfl
  | handOn elsewhere reason spares => exact absurd isLogout elsewhere
  | refuse unwelcome refuses => exact absurd isLogout unwelcome.elsewhere
  | grant exchanges => exact absurd isLogout exchanges.elsewhere

/-- An exchange that ends is answered, and that is all there is to the handling. -/
theorem happens_of_exchanges {outcome : Access.Outcome} (exchanges : handling.Exchanges outcome)
    (isAnswer : handling.handled = handling.site.concluded handling.request handling.form
      handling.client handling.now handling.id outcome) : handling.Happens := by
  have isPost := exchanges.isPost
  have answered : (handling.site.challenge handling.request handling.client handling.now
      handling.id).Ends Moment.Follows [] handling.handled handling.moments := by
    rw [challenge, if_pos isPost, isAnswer]
    exact Dialogue.ends_bind.2 ⟨outcome, _, exchanges.ended, .done _ _⟩
  rw [← respond_of_denied exchanges.elsewhere exchanges.denied] at answered
  refine happens_iff.2 ⟨handling.handled, answered, ?_⟩
  rw [sent, if_neg (by rw [isPost]; decide)]

end Handling

end

/-! ### A login -/

namespace Login

/-- The lifetime of sessions and grants. -/
def hour : Span := ⟨3600000000000, by decide⟩

/-- A site at which nobody has signed in. -/
def site : Site where
  settings := .standard
  gate := {
    issuer := ⟨[1], secret_ne_nil, hour, hour⟩
    allowList := .ofLifetime hour
    trustedProxies := []
    publicFiles := none }
  backend := .nftables ⟨.empty, true, false⟩

/-- The one who signs in. -/
def ada : Principal := Principal.ofName "ada" "pw"

/-- Where it is done from. -/
def client : Address := .v4 7

/-- When it is done. -/
def now : Instant := ⟨60, 0, by decide⟩

/-- The identifier in the token. -/
def id : Uuid := ⟨List.replicate 16 0, length_zeros⟩

/-- The form, as it is filled in. -/
def form : Access.Form := { Access.Form.blank with
  action := some "login", username := "ada", password := "pw" }

/-- The request with the form. -/
def request : Http.Request where
  method := "POST"
  target := ⟨"", some "/"⟩
  headers := [("content-type", Utf8.encode Http.MediaType.formType)]
  peer := some client
  body := Utf8.encode "sleuth_action=login&username=ada&password=pw"

/-- The directory. -/
def directory : Store := SortedMap.empty.insert "user:ada" (Record.document ada)

/-- What comes of it. -/
def handled : Handled := site.concluded request form (some client) now id (.granted "ada" false)

/-- The handling of the request, for which one record is read. -/
def handling : Handling where
  site := site
  tree := .empty
  request := request
  now := now
  id := id
  moments := [⟨directory, .store (.get "user:ada"), .ok (some (Record.document ada))⟩]
  handled := handled

theorem form_handling : handling.form = form := by decide +kernel

theorem exchanges_handling : handling.Exchanges (.granted "ada" false) where
  elsewhere := by decide
  denied := rfl
  isPost := rfl
  ended := by
    rw [form_handling]
    exact .ask ⟨directory, .inl rfl, rfl⟩ (.done _ _)

theorem happens_handling : handling.Happens :=
  Handling.happens_of_exchanges exchanges_handling (by rw [form_handling]; rfl)

end Login

end Gatehouse.Site
