import Gatehouse.Proofs.Access.Token
import Gatehouse.Proofs.Site.Grants
import Gatehouse.Proofs.Time.Instant
/-!
# Nothing gets past the gate

What lies behind the gate is a parameter here: whatever it does, a request that is not admitted never
comes to it.  Such a request is refused, which changes nothing and sets no cookie, unless the exchange
ends with a grant.  Then the response sets the cookie of a session for whoever was granted access, and
the grants of other clients stay.  Without a form that is posted there is neither cookie nor grant.
What a cookie is set to is read off the field of the response, as a client reads it.
-/

namespace Gatehouse

/-- A token is good for a session with a subject. -/
def Access.Gate.IsGood (gate : Access.Gate) (token : String) (now : Instant) (subject : String) :
    Prop :=
  ∃ claims, Access.Token.validate gate.issuer token .session now = .ok claims ∧
    claims.subject = subject

theorem Access.allPlain_sessionCookie : Http.AllPlain Access.Gate.sessionCookie := by decide

theorem Access.sessionCookie_ne : Access.Gate.sessionCookie ≠ "" := by decide

namespace Site

/-- Meet a request at the gate.  What is admitted is handed on to `inner`, for a principal unless it
fetches a public file. -/
def mediate (site : Site) (tree : FileTree) (request : Http.Request) (now : Instant) (id : Uuid)
    (inner : Option String → Talk Handled) : Talk Handled :=
  let client := site.gate.client? request.peer request.headers
  if request.target.path = logoutPath then .done (site.logout request client now)
  else
    let path := request.target.path
    match site.gate.admission tree request.method path request.headers client now with
    | .publicFile => inner none
    | .token name => inner (some name)
    | .allowList name => inner (some name)
    | .denied => site.challenge request client now id

theorem respond_eq_mediate (site : Site) (tree : FileTree) (request : Http.Request) (now : Instant)
    (id : Uuid) :
    site.respond tree request now id =
      site.mediate tree request now id fun principal =>
        site.admitted tree request principal now :=
  rfl

/-! ## The session cookie -/

section

variable (site : Site) (token : String) (now : Instant)

/-- The field that gives a session token out. -/
theorem text_sessionCookie :
    (site.sessionCookie token).text =
      "sleuth_session=" ++ token ++ "; HttpOnly; SameSite=Lax" ++
        (if site.settings.secureCookie then "; Secure" else "") ++
        "; Path=/; Max-Age=" ++ Text.ofInt site.gate.issuer.sessionLifetime.seconds := by
  have starts : Access.Gate.sessionCookie ++ "=" = "sleuth_session=" := by decide
  unfold sessionCookie Http.Cookie.Setting.text
  dsimp only
  rw [starts, String.append_empty]

/-- The field that takes the session token away. -/
theorem text_removalCookie :
    (site.removalCookie now).text =
      "sleuth_session=; HttpOnly; SameSite=Lax" ++
        (if site.settings.secureCookie then "; Secure" else "") ++
        "; Path=/; Max-Age=0; Expires=" ++
        MailDate.text (((Span.ofSeconds? (-31536000)).bind now.add?).getD now) := by
  have starts : Access.Gate.sessionCookie ++ "=" ++ "" ++ "; HttpOnly; SameSite=Lax" =
      "sleuth_session=; HttpOnly; SameSite=Lax" := by decide
  have noTime : "; Path=/; Max-Age=0; Expires=" =
      "; Path=/; Max-Age=" ++ Text.ofInt 0 ++ "; Expires=" := by decide
  have fits : (Span.ofSeconds? (-31536000)).isSome = true := by decide
  obtain ⟨year, isYear⟩ := Option.isSome_iff_exists.1 fits
  unfold removalCookie sessionCookie Http.Cookie.Setting.text
  dsimp only
  rw [starts, noTime, isYear, Option.getD_some, Option.bind_some]
  simp only [String.append_assoc]

theorem set?_sessionCookie (plain : Http.AllPlain token) :
    Http.Cookie.set? (site.sessionCookie token).text = some ("sleuth_session", token) :=
  Http.Cookie.set?_text Access.allPlain_sessionCookie Access.sessionCookie_ne plain

theorem set?_removalCookie :
    Http.Cookie.set? (site.removalCookie now).text = some ("sleuth_session", "") :=
  Http.Cookie.set?_text Access.allPlain_sessionCookie Access.sessionCookie_ne
    (List.forall_mem_nil _)

end

/-! ## The response to a grant -/

theorem body_withCookie (response : Http.Response) (cookie : Http.Cookie.Setting) :
    (withCookie response cookie).body = response.body :=
  rfl

theorem header?_withCookie {response : Http.Response} (noCookie : response.header? cookieField = none)
    (cookie : Http.Cookie.Setting) :
    (withCookie response cookie).header? cookieField = some cookie.text := by
  unfold Http.Response.header? cookieField at *
  simp [withCookie, Http.Response.withHeader, List.lookup_append, noCookie]

section

variable (documents : Bool) (place subject token : String)

theorem header?_welcome : (welcome documents place subject token).header? cookieField = none := by
  unfold welcome Http.Response.seeOther
  repeat' split
  all_goals rfl

theorem body_welcome : (welcome true place subject token).body =
    Utf8.encode (Json.ofMembers
      [("token", .string token), ("subject", .string subject)]).compact := by
  simp only [welcome, if_true, Http.Response.json]

theorem status_welcome (clean : Http.Response.deleteMark ∉ place.toList) :
    (welcome false place subject token).status = 303 := by
  have free : ¬ place.toList.contains Http.Response.deleteMark = true := by simpa using clean
  unfold welcome Http.Response.seeOther
  rw [if_neg Bool.false_ne_true, if_neg free]
  rfl

end

/-- The target of a request has no character that a header field may not have. -/
def IsClean (target : Http.Target) : Prop :=
  ∀ resource, target.resource = some resource → Http.Response.deleteMark ∉ resource.toList

theorem deleteMark_notMem_returnPlace {target : Http.Target} (clean : IsClean target) :
    Http.Response.deleteMark ∉ (returnPlace target).toList := by
  have root : Http.Response.deleteMark ∉ "/".toList := by decide
  unfold returnPlace
  split
  · exact root
  · rename_i resource isResource
    split
    · exact root
    · exact root
    · exact clean resource isResource
    · exact root

theorem fst_openSession (site : Site) (subject : String) (client : Option Address) (now : Instant)
    (id : Uuid) :
    (site.openSession subject client now id).1 = site.gate.issuer.issueSession subject now id := by
  unfold openSession
  cases client with
  | none => rfl
  | some client =>
      dsimp only
      split <;> rfl

/-- Sites with the same terms set the same cookies. -/
theorem KeepsTerms.sessionCookie_eq {site after : Site} (keeps : KeepsTerms site after)
    (token : String) : after.sessionCookie token = site.sessionCookie token := by
  obtain ⟨_, same⟩ := keeps.gate
  unfold sessionCookie
  rw [keeps.settings, same]
  rfl

namespace Handling

variable {handling : Handling} {subject : String} {afterReset : Bool}

/-- The session token that a grant for a subject leads to. -/
def token (handling : Handling) (subject : String) : String :=
  handling.site.gate.issuer.issueSession subject handling.now handling.id

/-- The response to a grant. -/
theorem response_of_exchanges (happens : handling.Happens)
    (exchanges : handling.Exchanges (.granted subject afterReset)) :
    handling.handled.response =
      withCookie (welcome (asksForDocuments handling.request.headers)
        (returnPlace handling.request.target) subject (handling.token subject))
        (handling.site.sessionCookie (handling.token subject)) := by
  have keeps := keepsTerms_openSession handling.site subject handling.client handling.now handling.id
  rw [handled_of_exchanges happens exchanges]
  unfold concluded
  dsimp only
  rw [keeps.sessionCookie_eq, fst_openSession]
  rfl

/-- The response gives a session token out: in the session cookie, and in the document for a client
that asks for documents. -/
structure GivesOut (handling : Handling) (token subject : String) : Prop where
  field : handling.handled.response.header? cookieField =
    some ("sleuth_session=" ++ token ++ "; HttpOnly; SameSite=Lax" ++
      (if handling.site.settings.secureCookie then "; Secure" else "") ++
      "; Path=/; Max-Age=" ++ Text.ofInt handling.site.gate.issuer.sessionLifetime.seconds)
  cookie : (handling.handled.response.header? cookieField).bind Http.Cookie.set? =
    some ("sleuth_session", token)
  document : asksForDocuments handling.request.headers = true →
    handling.handled.response.body =
      Utf8.encode (Json.ofMembers
        [("token", .string token), ("subject", .string subject)]).compact

theorem givesOut_of_exchanges (happens : handling.Happens)
    (exchanges : handling.Exchanges (.granted subject afterReset)) :
    handling.GivesOut (handling.token subject) subject := by
  have response := response_of_exchanges happens exchanges
  have given : handling.handled.response.header? cookieField =
      some (handling.site.sessionCookie (handling.token subject)).text := by
    rw [response]
    exact header?_withCookie (header?_welcome ..) _
  constructor
  · rw [given, text_sessionCookie]
  · rw [given, Option.bind_some]
    exact set?_sessionCookie _ _ (Access.Token.allPlain_issueSession _ _ _ _)
  · intro documents
    rw [response, documents, body_withCookie, body_welcome]

/-- The response takes the session cookie away: it sets it to nothing, and for no time. -/
structure TakesAway (handling : Handling) : Prop where
  field : handling.handled.response.header? cookieField =
    some ("sleuth_session=; HttpOnly; SameSite=Lax" ++
      (if handling.site.settings.secureCookie then "; Secure" else "") ++
      "; Path=/; Max-Age=0; Expires=" ++
      MailDate.text (((Span.ofSeconds? (-31536000)).bind handling.now.add?).getD handling.now))
  cookie : (handling.handled.response.header? cookieField).bind Http.Cookie.set? =
    some ("sleuth_session", "")

/-! ## The gate -/

/-- The client is welcomed for a subject: the response gives a session token out, and the grants of
other clients stay. -/
structure Welcomes (handling : Handling) (subject : String) : Prop where
  toDocuments : asksForDocuments handling.request.headers = true →
    handling.handled.response.status = 200
  toPages : asksForDocuments handling.request.headers = false → IsClean handling.request.target →
    handling.handled.response.status = 303
  session : ∃ token, handling.GivesOut token subject ∧
    (nanosPerSecond ≤ handling.site.gate.issuer.sessionLifetime.nanos →
      handling.now.seconds < Instant.lastSecond →
      handling.site.gate.IsGood token handling.now subject)
  terms : KeepsTerms handling.site handling.handled.site
  others : ∀ other, handling.client ≠ some other →
    handling.handled.site.grant? other = handling.site.grant? other

/-- The token is good as long as a second of its lifetime is left.  A leap second in which it was
issued does not count. -/
theorem isGood_token {later : Handling}
    (same : later.site.gate.issuer = handling.site.gate.issuer)
    (long : nanosPerSecond ≤ handling.site.gate.issuer.sessionLifetime.nanos)
    (inTime : later.now.seconds * nanosPerSecond + nanosPerSecond ≤
      handling.now.seconds * nanosPerSecond + handling.now.nanos % nanosPerSecond +
        handling.site.gate.issuer.sessionLifetime.nanos)
    (early : later.now.seconds < Instant.lastSecond) :
    later.site.gate.IsGood (handling.token subject) later.now subject := by
  have live := Instant.seconds_lt_sum long early inTime
  unfold Access.Gate.IsGood
  rw [same]
  exact ⟨_, Access.Token.validate_issueSession_of_lt _ _ _ live, rfl⟩

theorem welcomes_of_exchanges (happens : handling.Happens)
    (exchanges : handling.Exchanges (.granted subject afterReset)) : handling.Welcomes subject := by
  have response := response_of_exchanges happens exchanges
  constructor
  · intro documents
    rw [response, documents]
    rfl
  · intro pages clean
    rw [response, pages]
    exact status_welcome _ _ _ (deleteMark_notMem_returnPlace clean)
  · refine ⟨handling.token subject, givesOut_of_exchanges happens exchanges, ?_⟩
    intro long early
    apply isGood_token rfl long _ early
    unfold nanosPerSecond at *
    omega
  · exact keepsTerms happens
  · intro other apart
    apply grant?_of_not_concerns happens
    exact fun concerns => apart concerns.client_eq

/-- A request that is not admitted is not handed on. -/
theorem mediate_of_denied (elsewhere : handling.request.target.path ≠ logoutPath)
    (denied : handling.admission = .denied) (inner : Option String → Talk Handled) :
    handling.site.mediate handling.tree handling.request handling.now handling.id inner =
      handling.site.challenge handling.request handling.client handling.now handling.id := by
  unfold admission at denied
  unfold mediate
  dsimp only
  rw [if_neg elsewhere, denied]
  rfl

/-- A request that is not admitted runs no command. -/
theorem isIdle_of_denied (happens : handling.Happens) (denied : handling.admission = .denied) :
    handling.IsIdle := by
  rcases isIdle_or_authorized happens with idle | authorized
  · exact idle
  · obtain ⟨_, admitted | admitted, _⟩ := authorized.administrator <;>
    · rw [denied] at admitted
      cases admitted

/-- Signing out takes the cookie away. -/
theorem takesAway_of_logout (happens : handling.Happens)
    (isLogout : handling.request.target.path = logoutPath) : handling.TakesAway := by
  have given : handling.handled.response.header? cookieField =
      some (handling.site.removalCookie handling.now).text := by
    rw [handled_of_logout happens isLogout, header?_sent]
    exact header?_withCookie rfl _
  constructor
  · rw [given, text_removalCookie]
  · rw [given, Option.bind_some]
    exact set?_removalCookie _ _

/-- Without a form that is posted, no client gets a grant that it has not had before. -/
theorem grant?_of_not_post (happens : handling.Happens) (notPost : handling.request.method ≠ "POST")
    {client : Address} {grant : Access.Grant}
    (found : handling.handled.site.grant? client = some grant) :
    handling.site.grant? client = some grant := by
  by_cases concerns : handling.Concerns client
  · rcases concerns with ⟨_, grants⟩ | signsOut
    · obtain ⟨_, exchanges⟩ := grants.exchanges
      exact absurd exchanges.isPost notPost
    · rw [grant?_of_signsOut happens signsOut] at found
      cases found
  · rwa [← grant?_of_not_concerns happens concerns]

end Handling

/-- Every request at any gate.  One that is not admitted and does not sign out comes to nothing behind
the gate and runs no command.  It is refused and leaves the site as it is, unless the exchange ends with
a grant; then its client is welcomed for the subject.  A request that posts nothing gets neither a
cookie nor a grant; when it signs out, the cookie that it has is taken away. -/
theorem gate_mediates {handling : Handling} (happens : handling.Happens) :
    (handling.request.target.path ≠ logoutPath → handling.admission = .denied →
      (∀ inner, handling.site.mediate handling.tree handling.request handling.now handling.id inner =
        handling.site.respond handling.tree handling.request handling.now handling.id) ∧
      handling.IsIdle ∧
      ((∀ subject afterReset, ¬ handling.Exchanges (.granted subject afterReset)) →
        Refuses handling.site handling.handled) ∧
      ∀ subject afterReset, handling.Exchanges (.granted subject afterReset) →
        handling.Welcomes subject) ∧
    (handling.request.method ≠ "POST" →
      (∀ client grant, handling.handled.site.grant? client = some grant →
        handling.site.grant? client = some grant) ∧
      (handling.request.target.path ≠ logoutPath → SparesGate handling.site handling.handled) ∧
      (handling.request.target.path = logoutPath → handling.TakesAway)) := by
  constructor
  · intro elsewhere denied
    refine ⟨?_, Handling.isIdle_of_denied happens denied, ?_, ?_⟩
    · intro inner
      rw [respond_eq_mediate, Handling.mediate_of_denied elsewhere denied,
        Handling.mediate_of_denied elsewhere denied]
    · intro notGranted
      exact Handling.refuses_of_unwelcome happens ⟨elsewhere, denied, notGranted⟩
    · intro subject afterReset exchanges
      exact Handling.welcomes_of_exchanges happens exchanges
  · intro notPost
    refine ⟨?_, ?_, ?_⟩
    · exact fun client grant found => Handling.grant?_of_not_post happens notPost found
    · exact fun elsewhere => Handling.sparesGate_of_not_post happens elsewhere notPost
    · exact fun isLogout => Handling.takesAway_of_logout happens isLogout

namespace Login

/-- Somebody looks at the first page before anybody has signed in. -/
def look : Handling where
  site := site
  tree := .empty
  request := ⟨"GET", ⟨"", some "/"⟩, [], some client, []⟩
  now := now
  id := id
  moments := []
  handled := site.unchanged (challengePage (Access.Page.login "/" "" none))

theorem happens_look : look.Happens := .done _ _

end Login

/-- A look at a page is refused, and a login is welcomed: it sets the session cookie to a good token. -/
theorem gate_mediates_login :
    (Login.look.Happens ∧ Refuses Login.site Login.look.handled) ∧
      Login.handling.Happens ∧ Login.handling.Welcomes "ada" ∧
      Login.handled.response.status = 303 ∧
      ∃ token, (Login.handled.response.header? cookieField).bind Http.Cookie.set? =
          some ("sleuth_session", token) ∧
        Login.site.gate.IsGood token Login.now "ada" := by
  have refuses : Refuses Login.site Login.look.handled :=
    ((gate_mediates Login.happens_look).1 (by decide) rfl).2.2.1
      fun _ _ exchanges => absurd exchanges.isPost (by decide)
  have exchanges := Login.exchanges_handling
  have welcomes : Login.handling.Welcomes "ada" :=
    ((gate_mediates Login.happens_handling).1 exchanges.elsewhere exchanges.denied).2.2.2
      "ada" false exchanges
  have clean : IsClean Login.handling.request.target := by
    intro resource isResource
    cases isResource
    decide
  obtain ⟨token, givesOut, good⟩ := welcomes.session
  exact ⟨⟨Login.happens_look, refuses⟩, Login.happens_handling, welcomes,
    welcomes.toPages (by decide) clean, token, givesOut.cookie, good (by decide) (by decide)⟩

end Site

end Gatehouse
