import Gatehouse.Proofs.Access.AllowList
import Gatehouse.Proofs.Site.Handling
/-!
# Which grants there are

Two events concern the grant of a client: an exchange with it that ends well, and its signing out.  One
request changes the entry of a client by such an event or not at all.  Over a run, the entry of a
client is therefore the one of the last event, whatever other clients do, and the client is admitted by
it as long as the grant is in force.
-/

namespace Gatehouse

/-- The gate with other grants. -/
def Access.Gate.withGrants (gate : Access.Gate) (entries : SortedMap Address Access.Grant) :
    Access.Gate :=
  { gate with allowList := { gate.allowList with entries := entries } }

namespace Site

/-- The grant that is entered for a client, whether or not it is in force. -/
def grant? (site : Site) (client : Address) : Option Access.Grant :=
  site.gate.allowList.entries.get? client

/-- The site differs from another one in its grants and its session with the packet filter only. -/
structure KeepsTerms (site after : Site) : Prop where
  settings : after.settings = site.settings
  gate : ∃ entries, after.gate = site.gate.withGrants entries

namespace KeepsTerms

variable {site middle after : Site}

theorem of_gate_eq (settings : after.settings = site.settings) (gate : after.gate = site.gate) :
    KeepsTerms site after := ⟨settings, site.gate.allowList.entries, gate⟩

theorem refl (site : Site) : KeepsTerms site site := of_gate_eq rfl rfl

theorem trans (first : KeepsTerms site middle) (second : KeepsTerms middle after) :
    KeepsTerms site after := by
  obtain ⟨_, before⟩ := first.gate
  obtain ⟨entries, same⟩ := second.gate
  exact ⟨second.settings.trans first.settings, entries, by rw [same, before]; rfl⟩

theorem lifetime_eq (keeps : KeepsTerms site after) :
    after.gate.allowList.lifetime = site.gate.allowList.lifetime := by
  obtain ⟨_, same⟩ := keeps.gate
  rw [same]
  rfl

/-- Tokens are good at both sites or at none. -/
theorem issuer_eq (keeps : KeepsTerms site after) : after.gate.issuer = site.gate.issuer := by
  obtain ⟨_, same⟩ := keeps.gate
  rw [same]
  rfl

end KeepsTerms

/-! ## What the answers do to the grants -/

section

variable (site : Site) (subject : String) (client : Option Address) (now : Instant) (id : Uuid)

theorem keepsTerms_openSession : KeepsTerms site (site.openSession subject client now id).2 := by
  unfold openSession
  cases client with
  | none => exact .refl site
  | some client =>
      dsimp only
      split
      · exact ⟨rfl, _, rfl⟩
      · exact .refl site

theorem grant?_openSession (granting : site.settings.grantsAddress = true) (client : Address) :
    (site.openSession subject (some client) now id).2.grant? client =
      some ⟨subject, .after site.gate.allowList.lifetime now⟩ := by
  unfold openSession
  dsimp only
  rw [if_pos granting]
  exact Access.AllowList.get?_grant subject now

theorem grant?_openSession_of_ne {other : Address} (apart : client ≠ some other) :
    (site.openSession subject client now id).2.grant? other = site.grant? other := by
  unfold openSession
  cases client with
  | none => rfl
  | some client =>
      have different : other ≠ client := fun same => apart (congrArg some same.symm)
      dsimp only
      split
      · exact Access.AllowList.get?_grant_of_ne subject now different
      · rfl

variable (request : Http.Request)

theorem keepsTerms_logout : KeepsTerms site (site.logout request client now).site := by
  cases client <;> exact ⟨rfl, _, rfl⟩

theorem grant?_logout (client : Address) :
    (site.logout request (some client) now).site.grant? client = none :=
  Access.AllowList.get?_revoke

theorem grant?_logout_of_ne {other : Address} (apart : client ≠ some other) :
    (site.logout request client now).site.grant? other = site.grant? other := by
  cases client with
  | none => rfl
  | some client =>
      exact Access.AllowList.get?_revoke_of_ne fun same => apart (congrArg some same.symm)

end

/-! ## One request -/

namespace Handling

/-- An exchange with a client ends with a grant. -/
structure Grants (handling : Handling) (client : Address) (subject : String) : Prop where
  client : handling.client = some client
  exchanges : ∃ afterReset, handling.Exchanges (.granted subject afterReset)

/-- A client signs out. -/
structure SignsOut (handling : Handling) (client : Address) : Prop where
  client : handling.client = some client
  isLogout : handling.request.target.path = logoutPath

/-- A client is granted access or signs out. -/
def Concerns (handling : Handling) (client : Address) : Prop :=
  (∃ subject, handling.Grants client subject) ∨ handling.SignsOut client

variable {handling : Handling} {client : Address} {subject : String}

theorem Concerns.client_eq (concerns : handling.Concerns client) :
    handling.client = some client := by
  rcases concerns with ⟨_, grants⟩ | signsOut
  · exact grants.client
  · exact signsOut.client

theorem Grants.elsewhere (grants : handling.Grants client subject) :
    handling.request.target.path ≠ logoutPath := by
  obtain ⟨_, exchanges⟩ := grants.exchanges
  exact exchanges.elsewhere

theorem Grants.unique {other : String} (grants : handling.Grants client subject)
    (again : handling.Grants client other) : subject = other := by
  obtain ⟨_, exchanges⟩ := grants.exchanges
  obtain ⟨_, exchangesAgain⟩ := again.exchanges
  cases exchanges.unique exchangesAgain
  rfl

theorem keepsTerms (happens : handling.Happens) :
    KeepsTerms handling.site handling.handled.site := by
  obtain ⟨answer, answers, same⟩ := exists_answers happens
  rw [same, site_sent]
  cases answers with
  | signOut isLogout => exact keepsTerms_logout ..
  | handOn elsewhere reason spares => exact .of_gate_eq spares.settings spares.gate
  | refuse unwelcome refuses => exact .of_gate_eq (by rw [refuses.site]) (by rw [refuses.site])
  | grant exchanges => exact keepsTerms_openSession ..

theorem grant?_of_grants (happens : handling.Happens)
    (granting : handling.site.settings.grantsAddress = true)
    (grants : handling.Grants client subject) :
    handling.handled.site.grant? client =
      some ⟨subject, .after handling.site.gate.allowList.lifetime handling.now⟩ := by
  obtain ⟨afterReset, exchanges⟩ := grants.exchanges
  rw [handled_of_exchanges happens exchanges, grants.client]
  exact grant?_openSession handling.site subject handling.now handling.id granting client

theorem grant?_of_signsOut (happens : handling.Happens) (signsOut : handling.SignsOut client) :
    handling.handled.site.grant? client = none := by
  rw [handled_of_logout happens signsOut.isLogout, site_sent, signsOut.client]
  exact grant?_logout ..

/-- The entry of a client stays when nothing concerns it. -/
theorem grant?_of_not_concerns (happens : handling.Happens) (apart : ¬ handling.Concerns client) :
    handling.handled.site.grant? client = handling.site.grant? client := by
  obtain ⟨answer, answers, same⟩ := exists_answers happens
  rw [same, site_sent]
  cases answers with
  | signOut isLogout =>
      exact grant?_logout_of_ne _ _ _ _ fun isClient => apart (.inr ⟨isClient, isLogout⟩)
  | handOn elsewhere reason spares => rw [grant?, spares.gate, grant?]
  | refuse unwelcome refuses => rw [refuses.site]
  | grant exchanges =>
      exact grant?_openSession_of_ne _ _ _ _ _ fun isClient =>
        apart (.inl ⟨_, isClient, _, exchanges⟩)

/-- The entry of a client afterwards is that of its grant, or the one before when nothing concerns
it. -/
theorem grant?_eq_some_iff (happens : handling.Happens)
    (granting : handling.site.settings.grantsAddress = true) {expiry : Access.Expiry} :
    handling.handled.site.grant? client = some ⟨subject, expiry⟩ ↔
      handling.Grants client subject ∧
        expiry = .after handling.site.gate.allowList.lifetime handling.now ∨
      ¬ handling.Concerns client ∧ handling.site.grant? client = some ⟨subject, expiry⟩ := by
  by_cases concerns : handling.Concerns client
  · rcases concerns with ⟨granted, grants⟩ | signsOut
    · rw [grant?_of_grants happens granting grants, Option.some.injEq, Access.Grant.mk.injEq]
      constructor
      · rintro ⟨rfl, rfl⟩
        exact .inl ⟨grants, rfl⟩
      · rintro (⟨again, rfl⟩ | ⟨apart, _⟩)
        · exact ⟨grants.unique again, rfl⟩
        · exact absurd (.inl ⟨_, grants⟩) apart
    · rw [grant?_of_signsOut happens signsOut]
      constructor
      · rintro ⟨⟩
      · rintro (⟨grants, _⟩ | ⟨apart, _⟩)
        · exact absurd signsOut.isLogout grants.elsewhere
        · exact absurd (.inr signsOut) apart
  · rw [grant?_of_not_concerns happens concerns]
    constructor
    · exact fun found => .inr ⟨concerns, found⟩
    · rintro (⟨grants, _⟩ | ⟨_, found⟩)
      · exact absurd (.inl ⟨_, grants⟩) concerns
      · exact found

end Handling

/-! ## Whole runs -/

/-- Of the handlings that concern a client, the last one grants it access. -/
inductive GrantedLast (client : Address) (subject : String) (handling : Handling) :
    List Handling → Prop where
  | here {later : List Handling} (grants : handling.Grants client subject)
      (others : ∀ other ∈ later, ¬ other.Concerns client) :
      GrantedLast client subject handling (handling :: later)
  | there (first : Handling) {rest : List Handling}
      (last : GrantedLast client subject handling rest) :
      GrantedLast client subject handling (first :: rest)

section

variable {site after : Site} {handlings : List Handling} {client : Address} {subject : String}
  {handling : Handling}

/-- No request changes the terms. -/
theorem Run.keepsTerms (run : Run site handlings after) : KeepsTerms site after := by
  induction run with
  | nil site => exact .refl site
  | cons happens others ih => exact (Handling.keepsTerms happens).trans ih

/-- The entry of a client is the one of the grant that concerned it last, or the first one where
nothing has concerned it. -/
theorem Run.grant?_eq_some_iff (run : Run site handlings after)
    (granting : site.settings.grantsAddress = true) {expiry : Access.Expiry} :
    after.grant? client = some ⟨subject, expiry⟩ ↔
      (∃ handling, GrantedLast client subject handling handlings ∧
        expiry = .after site.gate.allowList.lifetime handling.now) ∨
      (∀ handling ∈ handlings, ¬ handling.Concerns client) ∧
        site.grant? client = some ⟨subject, expiry⟩ := by
  induction run with
  | nil site =>
      constructor
      · exact fun found => .inr ⟨List.forall_mem_nil _, found⟩
      · rintro (⟨_, last, _⟩ | ⟨_, found⟩)
        · cases last
        · exact found
  | @cons first rest after happens others ih =>
      have keeps := Handling.keepsTerms happens
      rw [ih (by rw [keeps.settings, granting]), keeps.lifetime_eq,
        Handling.grant?_eq_some_iff happens granting]
      constructor
      · rintro (⟨handling, last, same⟩ | ⟨quiet, ⟨grants, same⟩ | ⟨apart, found⟩⟩)
        · exact .inl ⟨handling, .there first last, same⟩
        · exact .inl ⟨first, .here grants quiet, same⟩
        · exact .inr ⟨List.forall_mem_cons.2 ⟨apart, quiet⟩, found⟩
      · rintro (⟨handling, last, same⟩ | ⟨quiet, found⟩)
        · cases last with
          | here grants quiet => exact .inr ⟨quiet, .inl ⟨grants, same⟩⟩
          | there _ last => exact .inl ⟨handling, last, same⟩
        · obtain ⟨apart, quiet⟩ := List.forall_mem_cons.1 quiet
          exact .inr ⟨quiet, .inr ⟨apart, found⟩⟩

/-- Whoever has no good session and fetches no public file is admitted by a live grant, or not at
all. -/
theorem Handling.admission_of_no_session (isClient : handling.client = some client)
    (noSession : handling.site.gate.sessionSubject? handling.request.headers handling.now = none)
    (noFile : handling.admission ≠ .publicFile) :
    handling.admission =
      match handling.site.gate.allowList.admits? client handling.now with
      | some grant => .allowList grant.subject
      | none => .denied := by
  unfold Handling.client at isClient
  unfold admission Access.Gate.admission at noFile ⊢
  split at noFile
  · exact absurd rfl noFile
  · rename_i isFile
    rw [if_neg isFile, noSession, isClient]
    rfl

/-- Such a client is admitted for whoever the live entry names. -/
theorem Handling.admission_eq_allowList_iff (isClient : handling.client = some client)
    (noSession : handling.site.gate.sessionSubject? handling.request.headers handling.now = none)
    (noFile : handling.admission ≠ .publicFile) :
    handling.admission = .allowList subject ↔
      ∃ expiry, handling.site.grant? client = some ⟨subject, expiry⟩ ∧
        expiry.isLive handling.now = true := by
  rw [admission_of_no_session isClient noSession noFile]
  constructor
  · intro admitted
    split at admitted
    · rename_i grant found
      obtain ⟨held, isLive⟩ := Option.filter_eq_some_iff.1 found
      cases admitted
      exact ⟨grant.expiry, held, isLive⟩
    · cases admitted
  · rintro ⟨expiry, held, isLive⟩
    have admits : handling.site.gate.allowList.admits? client handling.now =
        some ⟨subject, expiry⟩ := Option.filter_eq_some_iff.2 ⟨held, isLive⟩
    rw [admits]

/-- Let a site without grants handle any requests, whatever clients they come from and however the
exchanges end.  Then a client has an entry exactly if the last event that concerns it is a grant, and
the entry is the one of that grant.  A later request from it without a good session that fetches no
public file is admitted exactly while that grant is in force, and for its subject.  What other clients
do leaves the entry alone. -/
theorem grants_of_last_event (run : Run site handlings after)
    (granting : site.settings.grantsAddress = true)
    (fresh : site.gate.allowList.entries = .empty) (client : Address) :
    (∀ subject expiry, after.grant? client = some ⟨subject, expiry⟩ ↔
      ∃ handling, GrantedLast client subject handling handlings ∧
        expiry = .after site.gate.allowList.lifetime handling.now) ∧
    (0 ≤ site.gate.allowList.lifetime.nanos → ∀ later : Handling, later.site = after →
      later.client = some client →
      later.site.gate.sessionSubject? later.request.headers later.now = none →
      later.admission ≠ .publicFile →
      (later.admission = .denied ∨ ∃ subject, later.admission = .allowList subject) ∧
      ∀ subject, later.admission = .allowList subject ↔
        ∃ handling, GrantedLast client subject handling handlings ∧
          Access.InForce site.gate.allowList.lifetime handling.now later.now) ∧
    (∀ handling ∈ handlings, handling.client ≠ some client →
      handling.handled.site.grant? client = handling.site.grant? client) := by
  have entry (subject : String) (expiry : Access.Expiry) :
      after.grant? client = some ⟨subject, expiry⟩ ↔
        ∃ handling, GrantedLast client subject handling handlings ∧
          expiry = .after site.gate.allowList.lifetime handling.now := by
    have nothing : site.grant? client = none := by
      rw [grant?, fresh]
      rfl
    rw [run.grant?_eq_some_iff granting, nothing]
    simp
  refine ⟨entry, ?_, ?_⟩
  · rintro forward later rfl isClient noSession noFile
    constructor
    · rw [Handling.admission_of_no_session isClient noSession noFile]
      split
      · exact .inr ⟨_, rfl⟩
      · exact .inl rfl
    · intro subject
      rw [Handling.admission_eq_allowList_iff isClient noSession noFile]
      constructor
      · rintro ⟨expiry, found, isLive⟩
        obtain ⟨handling, last, rfl⟩ := (entry subject expiry).1 found
        exact ⟨handling, last, (Access.isLive_after_iff forward).1 isLive⟩
      · rintro ⟨handling, last, inForce⟩
        exact ⟨_, (entry subject _).2 ⟨handling, last, rfl⟩,
          (Access.isLive_after_iff forward).2 inForce⟩
  · intro handling isMember other
    apply Handling.grant?_of_not_concerns (run.happens_of_mem isMember)
    exact fun concerns => other concerns.client_eq

end

/-! ### A grant -/

namespace Login

/-- A request without a cookie, from the same address a minute later. -/
def visit : Handling where
  site := handled.site
  tree := .empty
  request := ⟨"GET", ⟨"", some "/"⟩, [], some client, []⟩
  now := ⟨120, 0, by decide⟩
  id := id
  moments := []
  handled := handled.site.unchanged (handled.site.indexResponse (some "ada"))

end Login

/-- Whoever has signed in is admitted from the same address without a cookie. -/
theorem grants_of_last_event_login :
    Run Login.site [Login.handling] Login.handled.site ∧
      Login.handled.site.grant? Login.client =
        some ⟨"ada", .at ⟨3660, 0, by decide⟩⟩ ∧
      Login.visit.admission = .allowList "ada" := by
  have run : Run Login.site [Login.handling] Login.handled.site :=
    .cons Login.happens_handling (.nil _)
  have last : GrantedLast Login.client "ada" Login.handling [Login.handling] :=
    .here ⟨rfl, false, Login.exchanges_handling⟩ (List.forall_mem_nil _)
  obtain ⟨entry, admits, _⟩ := grants_of_last_event run rfl rfl Login.client
  have inForce : Access.InForce Login.hour Login.now Login.visit.now :=
    .inr (.inl ⟨⟨3660, 0, by decide⟩, by decide, by decide⟩)
  refine ⟨run, (entry _ _).2 ⟨_, last, by decide⟩, ?_⟩
  exact ((admits (by decide) Login.visit rfl rfl rfl (by decide)).2 "ada").2 ⟨_, last, inForce⟩

end Site

end Gatehouse
