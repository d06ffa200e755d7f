import Gatehouse.Proofs.Site.Sessions
/-!
# Which credentials count

A request may come with several session cookies and authorization headers.  Of the cookies the last
one counts and of the headers the first one.  What counts admits if it is good, whatever else comes
with it.  What does not count is as if it had not come, so a good token that does not count admits
nobody.
-/

namespace Gatehouse.Access.Gate

open Http (AllPlain)

variable {gate : Gate} {headers : Http.Headers} {token : String} {now : Instant}

/-! ## Credentials -/

/-- Some subject has a session with the token. -/
def IsUsable (gate : Gate) (token : String) (now : Instant) : Prop :=
  ∃ subject, gate.IsGood token now subject

/-- A request comes with a token: in some session cookie, or in some authorization header. -/
inductive Presents (headers : Http.Headers) (token : String) : Prop where
  | cookie (isMember : (sessionCookie, token) ∈ Http.Cookie.all headers)
  | bearer (value : Bytes) (isMember : value ∈ headers.all "authorization")
      (presents : PresentsBearer [("authorization", value)] token)

/-- The token counts: it is in the last session cookie, or in the first authorization header. -/
inductive Counts (headers : Http.Headers) (token : String) : Prop where
  | cookie (before after : List (String × String))
      (cookies : Http.Cookie.all headers = before ++ (sessionCookie, token) :: after)
      (last : ∀ pair ∈ after, pair.1 ≠ sessionCookie)
  | bearer (presents : PresentsBearer headers token)

/-- A request comes with one session cookie at most, and with one authorization header at most. -/
structure IsSingle (headers : Http.Headers) : Prop where
  cookies : ((Http.Cookie.all headers).filter fun pair => pair.1 = sessionCookie).length ≤ 1
  bearers : (headers.all "authorization").length ≤ 1

/-! ## What is tried -/

theorem bearer?_eq_some_iff : bearer? headers = some token ↔ PresentsBearer headers token := by
  constructor
  · intro found
    simp only [bearer?, Option.bind_eq_bind, Option.bind_eq_some_iff] at found
    obtain ⟨text, given, ⟨scheme, rest⟩, cut, kept⟩ := found
    split at kept
    · rename_i isBearer
      refine ⟨String.ofList scheme, String.ofList rest, ?_, isBearer, Option.some.inj kept⟩
      have blank : " ".toList = [' '] := rfl
      rw [given, Option.some.injEq, ← String.toList_inj, Text.eq_of_cut? cut]
      simp [blank]
    · cases kept
  · exact PresentsBearer.bearer?

theorem counts_iff :
    Counts headers token ↔
      Http.Cookie.get? headers sessionCookie = some token ∨ bearer? headers = some token := by
  rw [Http.Cookie.get?_eq_some_iff, bearer?_eq_some_iff]
  constructor
  · rintro (⟨before, after, cookies, last⟩ | presents)
    · exact .inl ⟨before, after, cookies, last⟩
    · exact .inr presents
  · rintro (⟨before, after, cookies, last⟩ | presents)
    · exact .cookie before after cookies last
    · exact .bearer presents

/-- All that counts is tried, but for an empty cookie. -/
theorem mem_candidates_iff :
    token ∈ candidates headers ↔
      (Http.Cookie.get? headers sessionCookie = some token ∧ token ≠ "") ∨
        bearer? headers = some token := by
  simp [candidates, Option.filter_eq_some_iff]

theorem isUsable_iff :
    gate.IsUsable token now ↔
      ∃ claims, Token.validate gate.issuer token .session now = .ok claims := by
  constructor
  · rintro ⟨_, claims, accepted, _⟩
    exact ⟨claims, accepted⟩
  · rintro ⟨claims, accepted⟩
    exact ⟨claims.subject, claims, accepted, rfl⟩

theorem not_isUsable_of_error {cause : TokenError}
    (refused : Token.validate gate.issuer token .session now = .error cause) :
    ¬ gate.IsUsable token now := by
  rw [isUsable_iff, refused]
  rintro ⟨_, accepted⟩
  cases accepted

/-- Nobody has a session with an empty token. -/
theorem not_isUsable_empty : ¬ gate.IsUsable "" now := by
  apply not_isUsable_of_error
  rfl

/-- A request belongs to a session exactly if a token that counts is usable. -/
theorem sessionSubject?_eq_none_iff :
    gate.sessionSubject? headers now = none ↔
      ∀ token, Counts headers token → ¬ gate.IsUsable token now := by
  have tried : gate.sessionSubject? headers now = none ↔
      ∀ token ∈ candidates headers, ¬ gate.IsUsable token now := by
    rw [sessionSubject?, List.findSome?_eq_none_iff]
    refine forall₂_congr fun token _ => ?_
    rw [isUsable_iff]
    cases Token.validate gate.issuer token .session now <;> simp
  rw [tried]
  constructor
  · intro refused token counts usable
    apply refused token _ usable
    rw [mem_candidates_iff]
    have notEmpty : token ≠ "" := by
      rintro rfl
      exact not_isUsable_empty usable
    exact (counts_iff.1 counts).imp_left fun found => ⟨found, notEmpty⟩
  · intro refused token isCandidate
    exact refused token (counts_iff.2 ((mem_candidates_iff.1 isCandidate).imp_left And.left))

/-- What a request comes with counts, unless there is more than one of it. -/
theorem Presents.counts (presents : Presents headers token) (single : IsSingle headers) :
    Counts headers token := by
  obtain ⟨isMember⟩ | ⟨value, isMember, presents⟩ := presents
  · obtain ⟨before, after, cookies⟩ := List.append_of_mem isMember
    refine .cookie before after cookies ?_
    intro pair isLater isSession
    -- There would be two session cookies.
    have two := single.cookies
    have later : 0 < (after.filter fun pair => pair.1 = sessionCookie).length :=
      List.length_pos_of_mem (List.mem_filter.2 ⟨isLater, by simpa using isSession⟩)
    rw [cookies, List.filter_append, List.filter_cons_of_pos (by simp), List.length_append,
      List.length_cons] at two
    omega
  · obtain ⟨first, only⟩ := List.length_eq_one_iff.1
      (Nat.le_antisymm single.bearers (List.length_pos_of_mem isMember))
    obtain rfl : value = first := by simpa [only] using isMember
    have alone : Http.Headers.all [("authorization", value)] "authorization" = [value] := by
      simp [Http.Headers.all, Http.Headers.sameName]
    have same : headers.text? "authorization" =
        Http.Headers.text? [("authorization", value)] "authorization" := by
      simp only [Http.Headers.text?, Http.Headers.get?, only, alone]
    exact .bearer (by rwa [PresentsBearer, same])

/-! ## Who is admitted -/

section

variable (tree : FileTree) (method path : String) (client : Option Address)

theorem admission_ne_denied (counts : Counts headers token) (usable : gate.IsUsable token now) :
    gate.admission tree method path headers client now ≠ .denied := by
  have known : gate.sessionSubject? headers now ≠ none := by
    intro none
    exact sessionSubject?_eq_none_iff.1 none token counts usable
  obtain ⟨subject, known⟩ := Option.ne_none_iff_exists'.1 known
  rcases admission_of_sessionSubject? known with admitted | admitted
  · rw [admitted]
    exact nofun
  · rw [admitted]
    exact nofun

/-- Where nothing that counts is usable, it is as if nothing had come. -/
theorem admission_of_not_usable
    (refused : ∀ token, Counts headers token → ¬ gate.IsUsable token now) :
    gate.admission tree method path headers client now =
      gate.admission tree method path [] client now := by
  rw [admission, sessionSubject?_eq_none_iff.2 refused]
  rfl

end

/-- A usable token that counts admits a request, whatever else comes with it.  If there is one session
cookie at most and one authorization header at most, any usable token that comes does.  If no token
that counts is usable, the request is decided about as if it came without any header. -/
theorem usable_credential_admits (gate : Gate) (tree : FileTree) (method path : String)
    (headers : Http.Headers) (client : Option Address) (now : Instant) :
    (∀ token, Counts headers token → gate.IsUsable token now →
      gate.admission tree method path headers client now ≠ .denied) ∧
    (IsSingle headers → ∀ token, Presents headers token → gate.IsUsable token now →
      gate.admission tree method path headers client now ≠ .denied) ∧
    ((∀ token, Counts headers token → ¬ gate.IsUsable token now) →
      gate.admission tree method path headers client now =
        gate.admission tree method path [] client now) := by
  refine ⟨?_, ?_, ?_⟩
  · intro token counts usable
    exact admission_ne_denied tree method path client counts usable
  · intro single token presents usable
    exact admission_ne_denied tree method path client (presents.counts single) usable
  · exact admission_of_not_usable tree method path client

/-! ### Two cookies -/

namespace Returning

open Site

/-- A header with session cookies. -/
def cookies (tokens : List String) : Http.Headers :=
  tokens.map fun token => ("Cookie", Utf8.encode (sessionCookie ++ "=" ++ token))

/-- The token of a login. -/
def session : String := Login.handling.token "ada"

/-- A cookie that nobody has a session with. -/
def stale : String := "garbage"

theorem isUsable_session : Login.site.gate.IsUsable session Login.now := by
  have good :
      Login.handling.site.gate.IsGood (Login.handling.token "ada") Login.handling.now "ada" := by
    apply Handling.isGood_token rfl
    · decide
    · decide
    · decide
  exact ⟨"ada", good⟩

theorem allPlain_of_mem : ∀ token ∈ [session, stale], AllPlain token := by
  have plainStale : AllPlain stale := by decide
  rw [List.forall_mem_cons, List.forall_mem_singleton]
  exact ⟨Token.allPlain_issueSession _ _ _ _, plainStale⟩

theorem all_cookies {tokens : List String} (known : tokens ⊆ [session, stale]) :
    Http.Cookie.all (cookies tokens) = tokens.map fun token => (sessionCookie, token) := by
  have same : Http.Headers.sameName "Cookie" "cookie" = true := by decide
  have kept : ∀ field ∈ cookies tokens, Http.Headers.sameName field.1 "cookie" = true := by
    intro field isMember
    obtain ⟨token, _, rfl⟩ := List.mem_map.1 isMember
    exact same
  apply Http.Cookie.all_of_encode
  · intro pair isMember
    obtain ⟨token, isToken, rfl⟩ := List.mem_map.1 isMember
    exact ⟨allPlain_sessionCookie, sessionCookie_ne, allPlain_of_mem token (known isToken)⟩
  · rw [Http.Headers.all, List.filter_eq_self.2 kept, cookies, List.map_map, List.map_map]
    rfl

theorem isSingle_session : IsSingle (cookies [session]) where
  cookies := by
    rw [all_cookies (by simp)]
    exact List.length_filter_le _ _
  bearers := by decide

/-- Of two cookies the stale one counts if it is the last. -/
theorem not_isUsable_of_counts {token : String} (counts : Counts (cookies [session, stale]) token) :
    ¬ Login.site.gate.IsUsable token Login.now := by
  have last : Http.Cookie.get? (cookies [session, stale]) sessionCookie = some stale :=
    Http.Cookie.get?_eq_some_iff.2
      ⟨[(sessionCookie, session)], [], all_cookies (List.Subset.refl _), List.forall_mem_nil _⟩
  have noBearer : bearer? (cookies [session, stale]) = none := rfl
  rcases counts_iff.1 counts with found | found
  · obtain rfl := Option.some.inj (last.symm.trans found)
    exact not_isUsable_of_error rfl
  · rw [noBearer] at found
    cases found

end Returning

open Returning Site

/-- The session admits behind a stale cookie, and alone.  In front of a stale cookie it is as if it
had not come. -/
theorem usable_credential_admits_returning :
    (Counts (cookies [stale, session]) session ∧ Login.site.gate.IsUsable session Login.now ∧
      Login.site.gate.admission .empty "GET" "/" (cookies [stale, session]) none Login.now ≠
        .denied) ∧
    (IsSingle (cookies [session]) ∧ Presents (cookies [session]) session ∧
      Login.site.gate.admission .empty "GET" "/" (cookies [session]) none Login.now ≠ .denied) ∧
    (∀ token, Counts (cookies [session, stale]) token →
      ¬ Login.site.gate.IsUsable token Login.now) ∧
    Login.site.gate.admission .empty "GET" "/" (cookies [session, stale]) none Login.now =
      Login.site.gate.admission .empty "GET" "/" [] none Login.now := by
  have admits (headers : Http.Headers) :=
    usable_credential_admits Login.site.gate .empty "GET" "/" headers none Login.now
  have counts : Counts (cookies [stale, session]) session :=
    .cookie [(sessionCookie, stale)] [] (all_cookies (by simp)) (List.forall_mem_nil _)
  have presents : Presents (cookies [session]) session := by
    apply Presents.cookie
    rw [all_cookies (by simp)]
    exact List.mem_cons_self
  refine ⟨⟨counts, isUsable_session, ?_⟩, ⟨isSingle_session, presents, ?_⟩, ?_, ?_⟩
  · exact (admits _).1 session counts isUsable_session
  · exact (admits _).2.1 isSingle_session session presents isUsable_session
  · exact fun token => not_isUsable_of_counts
  · exact (admits _).2.2 fun token => not_isUsable_of_counts

/-- A stale cookie that comes after the one with the session hides it. -/
theorem stale_cookie_hides_session :
    Presents (cookies [session, stale]) session ∧ Login.site.gate.IsUsable session Login.now ∧
      Login.site.gate.admission .empty "GET" "/" (cookies [session, stale]) none Login.now =
        .denied := by
  have presents : Presents (cookies [session, stale]) session := by
    apply Presents.cookie
    rw [all_cookies (List.Subset.refl _)]
    exact List.mem_cons_self
  refine ⟨presents, isUsable_session, ?_⟩
  rw [admission_of_not_usable _ _ _ _ fun token => not_isUsable_of_counts]
  rfl

end Gatehouse.Access.Gate
