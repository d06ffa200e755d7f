import Gatehouse.Proofs.Site.Mediation
/-!
# How long a login lasts

The token that a login leads to is good until a second before the end of its lifetime.  All its
characters are plain, so it comes back in a cookie or behind the name of a scheme as it was given out.
Whoever presents it is admitted for its subject, whatever else comes with the request.  Only the token
in a cookie goes before the one in the authorization header, if it is good itself.
-/

namespace Gatehouse

namespace Access

theorem isEmpty_issueSession (issuer : Issuer) (subject : String) (issued : Instant) (id : Uuid) :
    (issuer.issueSession subject issued id).isEmpty = false := by
  have isMember : '.' ∈ (issuer.issueSession subject issued id).toList := by
    simp [Issuer.issueSession, Token.sign]
  refine Bool.eq_false_iff.2 fun isEmpty => ?_
  rw [String.isEmpty_iff.1 isEmpty] at isMember
  cases isMember

namespace Gate

/-! ## What a request presents -/

/-- The authorization header presents a token behind the name of its scheme, in any case and with any
blanks around the token. -/
def PresentsBearer (headers : Http.Headers) (token : String) : Prop :=
  ∃ scheme rest, headers.text? "authorization" = some (scheme ++ " " ++ rest) ∧
    Text.toLowerAscii scheme = "bearer" ∧ Text.trim rest = token

variable {gate : Gate} {headers : Http.Headers} {token subject : String} {now : Instant}

theorem PresentsBearer.bearer? (presents : PresentsBearer headers token) :
    bearer? headers = some token := by
  obtain ⟨scheme, rest, found, isBearer, trimmed⟩ := presents
  have noBlank : ' ' ∉ scheme.toList := by
    intro isMember
    have lower : ' '.toLower ∈ (Text.toLowerAscii scheme).toList := by
      rw [Text.toLowerAscii, String.toList_ofList]
      exact List.mem_map_of_mem isMember
    rw [isBearer] at lower
    exact absurd lower (by decide)
  have cut : Text.cut? ' ' (scheme ++ " " ++ rest).toList = some (scheme.toList, rest.toList) := by
    have parts : (scheme ++ " " ++ rest).toList = scheme.toList ++ ' ' :: rest.toList := by simp
    rw [parts, Text.cut?_append noBlank]
  simp only [Gate.bearer?, found, Option.bind_eq_bind, Option.bind_some, cut, String.ofList_toList,
    isBearer, if_true, trimmed]

/-! ## What the gate makes of it -/

variable {rest : List String}

/-- The first candidate decides if it is good. -/
theorem sessionSubject?_of_candidates_eq_cons (first : candidates headers = token :: rest)
    (good : gate.IsGood token now subject) : gate.sessionSubject? headers now = some subject := by
  obtain ⟨claims, accepted, rfl⟩ := good
  rw [sessionSubject?, first, List.findSome?_cons, accepted]

/-- A good token in the only session cookie decides. -/
theorem sessionSubject?_of_only (only : Http.Cookie.Only headers sessionCookie token)
    (notEmpty : token.isEmpty = false) (good : gate.IsGood token now subject) :
    gate.sessionSubject? headers now = some subject := by
  have kept : (some token).filter (fun token => !token.isEmpty) = some token := by simp [notEmpty]
  have first : candidates headers = token :: (Gate.bearer? headers).toList := by
    rw [candidates, only.get?, kept]
    rfl
  exact sessionSubject?_of_candidates_eq_cons first good

/-- A good token in the authorization header decides, unless there is a good one in a cookie. -/
theorem sessionSubject?_of_presentsBearer (presents : PresentsBearer headers token)
    (good : gate.IsGood token now subject) :
    gate.sessionSubject? headers now = some subject ∨
      ∃ cookie other, Http.Cookie.get? headers sessionCookie = some cookie ∧
        gate.IsGood cookie now other ∧ gate.sessionSubject? headers now = some other := by
  have given : candidates headers =
      ((Http.Cookie.get? headers sessionCookie).filter fun token => !token.isEmpty).toList ++
        [token] := by
    rw [candidates, presents.bearer?]
    rfl
  cases kept : (Http.Cookie.get? headers sessionCookie).filter fun token => !token.isEmpty with
  | none =>
      rw [kept] at given
      exact .inl (sessionSubject?_of_candidates_eq_cons given good)
  | some cookie =>
      rw [kept] at given
      cases validated : Token.validate gate.issuer cookie .session now with
      | ok claims =>
          have isGood : gate.IsGood cookie now claims.subject := ⟨claims, validated, rfl⟩
          exact .inr ⟨cookie, claims.subject, (Option.filter_eq_some_iff.1 kept).1, isGood,
            sessionSubject?_of_candidates_eq_cons given isGood⟩
      | error cause =>
          obtain ⟨claims, accepted, rfl⟩ := good
          left
          simp only [sessionSubject?, given, Option.toList_some, List.singleton_append,
            List.findSome?_cons, validated, accepted]

theorem admission_of_sessionSubject? {tree : FileTree} {method path : String}
    {client : Option Address} (known : gate.sessionSubject? headers now = some subject) :
    gate.admission tree method path headers client now = .publicFile ∨
      gate.admission tree method path headers client now = .token subject := by
  unfold admission
  split
  · exact .inl rfl
  · rw [known]
    exact .inr rfl

end Gate

end Access

namespace Site

open Access (Gate)

namespace Handling

variable {later : Handling} {token subject : String}

/-- A good token in the only session cookie admits. -/
theorem admission_of_only
    (only : Http.Cookie.Only later.request.headers Gate.sessionCookie token)
    (notEmpty : token.isEmpty = false)
    (good : later.site.gate.IsGood token later.now subject) :
    later.admission = .publicFile ∨ later.admission = .token subject :=
  Gate.admission_of_sessionSubject? (Gate.sessionSubject?_of_only only notEmpty good)

/-- A good token in the authorization header admits, unless one in a cookie admits somebody else. -/
theorem admission_of_presentsBearer (presents : Gate.PresentsBearer later.request.headers token)
    (good : later.site.gate.IsGood token later.now subject) :
    later.admission = .publicFile ∨ later.admission = .token subject ∨
      ∃ cookie other,
        Http.Cookie.get? later.request.headers Gate.sessionCookie = some cookie ∧
        later.site.gate.IsGood cookie later.now other ∧ other ≠ subject ∧
        later.admission = .token other := by
  rcases Gate.sessionSubject?_of_presentsBearer presents good with
    known | ⟨cookie, other, found, isGood, known⟩
  · rcases Gate.admission_of_sessionSubject? known with isFile | admitted
    · exact .inl isFile
    · exact .inr (.inl admitted)
  · rcases Gate.admission_of_sessionSubject? known with isFile | admitted
    · exact .inl isFile
    · by_cases same : other = subject
      · subst same
        exact .inr (.inl admitted)
      · exact .inr (.inr ⟨cookie, other, found, isGood, same, admitted⟩)

end Handling

/-- When an exchange ends with a grant, a token is given out.  In a cookie header it is read as it was
given out.  Up to a second before the end of its lifetime, any later request to a site with the same
issuer, which no request changes, is admitted if it presents the token: in the only session cookie, or
in the authorization header.  It is admitted for the subject of the grant, unless it fetches a public
file, or there is a cookie beside the authorization header with a good token for somebody else. -/
theorem session_is_honoured {first : Handling} (happens : first.Happens) {subject : String}
    {afterReset : Bool} (exchanges : first.Exchanges (.granted subject afterReset))
    (long : nanosPerSecond ≤ first.site.gate.issuer.sessionLifetime.nanos)
    (noLeap : first.now.nanos < nanosPerSecond) :
    first.GivesOut (first.token subject) subject ∧
      (∀ stretch, Text.trim stretch = Gate.sessionCookie ++ "=" ++ first.token subject →
        Http.Cookie.pair? stretch = some (Gate.sessionCookie, first.token subject)) ∧
      ∀ later : Handling, later.site.gate.issuer = first.site.gate.issuer →
        later.now.elapsed + nanosPerSecond ≤
          first.now.elapsed + first.site.gate.issuer.sessionLifetime.nanos →
        later.now.seconds < Instant.lastSecond →
        (Http.Cookie.Only later.request.headers Gate.sessionCookie (first.token subject) →
          later.admission = .publicFile ∨ later.admission = .token subject) ∧
        (Gate.PresentsBearer later.request.headers (first.token subject) →
          later.admission = .publicFile ∨ later.admission = .token subject ∨
            ∃ cookie other,
              Http.Cookie.get? later.request.headers Gate.sessionCookie = some cookie ∧
              later.site.gate.IsGood cookie later.now other ∧ other ≠ subject ∧
              later.admission = .token other) := by
  refine ⟨Handling.givesOut_of_exchanges happens exchanges, ?_, ?_⟩
  · intro stretch same
    exact Http.Cookie.pair?_of_trim_eq Access.allPlain_sessionCookie Access.sessionCookie_ne
      (Access.Token.allPlain_issueSession _ _ _ _) same
  · intro later same inTime early
    have good : later.site.gate.IsGood (first.token subject) later.now subject := by
      apply Handling.isGood_token same long _ early
      unfold Instant.elapsed nanosPerSecond at *
      omega
    constructor
    · intro only
      exact Handling.admission_of_only only (Access.isEmpty_issueSession ..) good
    · intro presents
      exact Handling.admission_of_presentsBearer presents good

/-! ### A login that outlives its grant -/

namespace Login

/-- Signing out from the address that was granted access. -/
def leave : Handling where
  site := handled.site
  tree := .empty
  request := ⟨"GET", ⟨"", some logoutPath⟩, [], some client, []⟩
  now := visit.now
  id := id
  moments := []
  handled :=
    handled.site.logout ⟨"GET", ⟨"", some logoutPath⟩, [], some client, []⟩ (some client) visit.now

theorem happens_leave : leave.Happens := .done _ _

/-- A request with the cookie of the login, from somewhere else. -/
def back : Handling where
  site := leave.handled.site
  tree := .empty
  request := ⟨"GET", ⟨"", some "/"⟩,
    [("Cookie", Utf8.encode (Gate.sessionCookie ++ "=" ++ handling.token "ada"))], some (.v4 8), []⟩
  now := ⟨180, 0, by decide⟩
  id := id
  moments := []
  handled := leave.handled.site.unchanged (leave.handled.site.indexResponse (some "ada"))

theorem only_back :
    Http.Cookie.Only back.request.headers Gate.sessionCookie (handling.token "ada") := by
  have one : back.request.headers.all "cookie" =
      [Utf8.encode (Gate.sessionCookie ++ "=" ++ handling.token "ada")] := by
    have same : Http.Headers.sameName "Cookie" "cookie" = true := by decide
    simp [Http.Headers.all, back, same]
  exact Http.Cookie.only_of_encode Access.allPlain_sessionCookie Access.sessionCookie_ne
    (Access.Token.allPlain_issueSession _ _ _ _) one

theorem admission_back_ne_publicFile : back.admission ≠ .publicFile := by
  intro isFile
  unfold Handling.admission Gate.admission at isFile
  split at isFile
  · rename_i isPublic
    exact absurd isPublic (by decide)
  · split at isFile
    · cases isFile
    · split at isFile <;> cases isFile

end Login

/-- Though the address is no longer granted access, the cookie of the login is. -/
theorem session_is_honoured_back :
    Run Login.site [Login.handling, Login.leave] Login.back.site ∧
      Login.back.admission = .token "ada" := by
  have run : Run Login.site [Login.handling, Login.leave] Login.back.site :=
    .cons Login.happens_handling (.cons Login.happens_leave (.nil _))
  have same : Login.back.site.gate.issuer = Login.site.gate.issuer := run.keepsTerms.issuer_eq
  have honoured := (session_is_honoured Login.happens_handling Login.exchanges_handling (by decide)
    (by decide)).2.2 Login.back same (by decide) (by decide)
  exact ⟨run, (honoured.1 Login.only_back).resolve_left Login.admission_back_ne_publicFile⟩

end Site

end Gatehouse
