import Gatehouse.Proofs.Directory.Operations
import Gatehouse.Proofs.Site.Run
/-!
# Who can change the rules

A handling is authorized when it posts to one of the three places that change rules, for somebody
whom the gate knows by a good session token or a live grant, and whom the directory shows, while
the request is handled, as enabled and with a role that has every right.  A handling that is not
authorized runs no command and leaves the backend as it is.
-/

namespace Gatehouse

namespace Access.Gate

/-- The gate knows who sends a request: by a session token that is good, or by a live grant to the
address of the client. -/
def Vouches (gate : Gate) (request : Http.Request) (now : Instant) (name : String) : Prop :=
  (∃ token ∈ candidates request.headers, ∃ claims,
    Token.validate gate.issuer token .session now = .ok claims ∧ claims.subject = name) ∨
  ∃ client grant, gate.client? request.peer request.headers = some client ∧
    gate.allowList.entries.get? client = some grant ∧ grant.expiry.isLive now = true ∧
    grant.subject = name

section

variable {gate : Gate} {request : Http.Request} {now : Instant} {name : String}

theorem vouches_of_sessionSubject? (found : gate.sessionSubject? request.headers now = some name) :
    gate.Vouches request now name := by
  obtain ⟨token, isMember, accepted⟩ := List.exists_of_findSome?_eq_some found
  split at accepted
  · rename_i claims validated
    exact .inl ⟨token, isMember, claims, validated, Option.some.inj accepted⟩
  · cases accepted

theorem vouches_of_admits? {grant : Grant}
    (found : ((gate.client? request.peer request.headers).bind fun client =>
      gate.allowList.admits? client now) = some grant) :
    gate.Vouches request now grant.subject := by
  obtain ⟨client, known, admits⟩ := Option.bind_eq_some_iff.1 found
  obtain ⟨held, isLive⟩ := Option.filter_eq_some_iff.1 admits
  exact .inr ⟨client, grant, known, held, isLive, rfl⟩

/-- Without a good token and without a live grant the gate does not know who it is. -/
theorem not_vouches (noToken : gate.sessionSubject? request.headers now = none)
    (noGrant : ((gate.client? request.peer request.headers).bind fun client =>
      gate.allowList.admits? client now) = none) : ¬ gate.Vouches request now name := by
  rintro (⟨token, isMember, claims, validated, _⟩ | ⟨client, grant, known, held, isLive, _⟩)
  · have refused := List.findSome?_eq_none_iff.1 noToken token isMember
    rw [validated] at refused
    cases refused
  · have admitted : gate.allowList.admits? client now = some grant :=
      Option.filter_eq_some_iff.2 ⟨held, isLive⟩
    rw [known, Option.bind_some, admitted] at noGrant
    cases noGrant

theorem vouches_of_token {tree : FileTree} {method path : String} {client : Option Address}
    (admitted : gate.admission tree method path request.headers client now = .token name) :
    gate.Vouches request now name := by
  unfold admission at admitted
  split at admitted
  · cases admitted
  · split at admitted
    · rename_i subject found
      cases admitted
      exact vouches_of_sessionSubject? found
    · split at admitted <;> cases admitted

theorem vouches_of_allowList {tree : FileTree} {method path : String}
    (admitted : gate.admission tree method path request.headers
      (gate.client? request.peer request.headers) now = .allowList name) :
    gate.Vouches request now name := by
  unfold admission at admitted
  split at admitted
  · cases admitted
  · split at admitted
    · cases admitted
    · split at admitted
      · rename_i grant found
        cases admitted
        exact vouches_of_admits? found
      · cases admitted

end

end Access.Gate

namespace Site

/-- The directory shows somebody as enabled and with a role that has every right. -/
def Administers (moments : List Moment) (name : String) : Prop :=
  ∃ (principal : Principal) (role : Role),
    (∃ moment ∈ moments, moment.Shows (Directory.userKey name) principal) ∧
    principal.enabled = true ∧
    (∃ moment ∈ moments, moment.Shows (Directory.roleKey principal.role) role) ∧
    role.admin = true

/-- A request names a rule that may take effect. -/
def NamesRule (request : Http.Request) : Prop :=
  ∃ asked rule, RuleRequest.ofRequest request = .ok asked ∧
    Firewall.Rule.ofRequest asked.protocol asked.port = .ok rule

/-- What the gate makes of the request. -/
def Handling.admission (handling : Handling) : Access.Admission :=
  handling.site.gate.admission handling.tree handling.request.method handling.request.target.path
    handling.request.headers
    (handling.site.gate.client? handling.request.peer handling.request.headers) handling.now

/-- The request is one to change rules, by somebody who may do so. -/
structure Handling.Authorized (handling : Handling) : Prop where
  isPost : handling.request.method = "POST"
  place : (handling.request.target.path = "/api/firewall/flush") ∨
    (handling.request.target.path = "/api/firewall/allow" ∧ NamesRule handling.request) ∨
    (handling.request.target.path = "/api/firewall/revoke" ∧ NamesRule handling.request)
  administrator : ∃ name,
    (handling.admission = .token name ∨ handling.admission = .allowList name) ∧
    handling.site.gate.Vouches handling.request handling.now name ∧
    Administers handling.moments name

/-- The handling runs no command and leaves the backend as it is. -/
def Handling.IsIdle (handling : Handling) : Prop :=
  (∀ moment ∈ handling.moments, ¬ moment.IsCommand) ∧
    handling.handled.site.backend = handling.site.backend

/-! ## The parts of a handling -/

variable {site : Site} {past now : List Moment} {handled : Handled}

/-- Between two moments no command is run, and the backend stays as it is. -/
def Spares (site : Site) (past now : List Moment) (handled : Handled) : Prop :=
  IsQuiet past now ∧ handled.site.backend = site.backend

theorem spares_of_done {answer : Handled} (same : answer.site.backend = site.backend)
    (ended : (Dialogue.done answer : Talk Handled).Ends Moment.Follows past handled now) :
    Spares site past now handled := by
  cases ended
  exact ⟨IsQuiet.refl _, same⟩

/-- Reading the records of an administrator shows them. -/
theorem administers_of_isAdmin {name : String}
    (ended : (visit (Directory.isAdmin name)).Ends Moment.Follows past (.ok true) now) :
    Administers now name := by
  rw [ends_visit, Directory.isAdmin, Directory.ends_andThen] at ended
  rcases ended with ⟨_, _, impossible⟩ | ⟨found, middle, looked, ended⟩
  · cases impossible
  cases found with
  | none => cases ended
  | some principal =>
      dsimp only at ended
      split at ended
      · rename_i enabled
        rw [Directory.ends_andThen] at ended
        rcases ended with ⟨_, _, impossible⟩ | ⟨found, last, lookedRole, ended⟩
        · cases impossible
        obtain ⟨admin, rfl⟩ := Directory.ends_finish.1 ended
        cases found with
        | none => cases admin
        | some role =>
            obtain ⟨json, replied, parsed⟩ := Directory.ends_read_some.1 looked
            obtain ⟨roleJson, roleReplied, roleParsed⟩ := Directory.ends_read_some.1 lookedRole
            obtain ⟨moment, isMember, shows⟩ := exists_shows_of_storeReply replied parsed
            have grows : middle <+: now := by
              obtain ⟨_, _, rfl⟩ := roleReplied
              exact List.prefix_append _ _
            exact ⟨principal, role, ⟨moment, grows.subset isMember, shows⟩, enabled,
              exists_shows_of_storeReply roleReplied roleParsed, (Except.ok.inj admin).symm⟩
      · cases ended

/-- What is done for an administrator is only done for one. -/
theorem ends_asAdministrator {principal : Option String} {next : String → Talk Handled}
    (ended : (site.asAdministrator principal next).Ends Moment.Follows past handled now) :
    Spares site past now handled ∨
      ∃ name middle, principal = some name ∧ Administers middle name ∧ IsQuiet past middle ∧
        (next name).Ends Moment.Follows middle handled now := by
  cases principal with
  | none => exact .inl (spares_of_done rfl ended)
  | some name =>
      obtain ⟨answer, middle, asked, ended⟩ := Dialogue.ends_bind.1 ended
      have quiet := isQuiet_of_visit asked
      rcases answer with cause | isAdmin
      · cases ended
        exact .inl ⟨quiet, rfl⟩
      · cases isAdmin with
        | false =>
            cases ended
            exact .inl ⟨quiet, rfl⟩
        | true => exact .inr ⟨name, middle, rfl, administers_of_isAdmin asked, quiet, ended⟩

theorem Administers.mono {name : String} (administers : Administers past name)
    (grows : past <+: now) : Administers now name := by
  obtain ⟨principal, role, ⟨one, isMember, shows⟩, enabled, ⟨two, isOther, showsRole⟩, admin⟩ :=
    administers
  exact ⟨principal, role, ⟨one, grows.subset isMember, shows⟩, enabled,
    ⟨two, grows.subset isOther, showsRole⟩, admin⟩

/-- A change of one rule is left alone unless an administrator names a rule. -/
theorem ends_changeRule {request : Http.Request} {principal : Option String} {time : Instant}
    {kind : Audit.Kind}
    {operation : Firewall.Rule → Firewall.Talk (Firewall.Outcome Firewall.Backend)}
    (ended : (site.changeRule request principal time kind operation).Ends Moment.Follows past
      handled now) :
    Spares site past now handled ∨
      NamesRule request ∧ ∃ name, principal = some name ∧ Administers now name := by
  unfold changeRule at ended
  cases asked : RuleRequest.ofRequest request with
  | error response =>
      rw [asked] at ended
      exact .inl (spares_of_done rfl ended)
  | ok change =>
      rw [asked] at ended
      rcases ends_asAdministrator ended with spares | ⟨name, middle, known, admin, quiet, ended⟩
      · exact .inl spares
      · have grows := prefix_of_ends ended
        cases named : Firewall.Rule.ofRequest change.protocol change.port with
        | error cause =>
            rw [named] at ended
            obtain ⟨still, same⟩ := spares_of_done rfl ended
            exact .inl ⟨quiet.trans still, same⟩
        | ok rule => exact .inr ⟨⟨change, rule, asked, named⟩, name, known, admin.mono grows⟩

/-- A flush is left alone unless it is for an administrator. -/
theorem ends_flushRules {principal : Option String} {time : Instant}
    (ended : (site.flushRules principal time).Ends Moment.Follows past handled now) :
    Spares site past now handled ∨ ∃ name, principal = some name ∧ Administers now name := by
  rcases ends_asAdministrator ended with spares | ⟨name, middle, known, admin, _, ended⟩
  · exact .inl spares
  · exact .inr ⟨name, known, admin.mono (prefix_of_ends ended)⟩

/-- The path of a place. -/
def Place.path : Place → String
  | .index => "/"
  | .rules => "/api/firewall"
  | .allow => "/api/firewall/allow"
  | .revoke => "/api/firewall/revoke"
  | .flush => "/api/firewall/flush"

theorem Place.eq_path_of_ofPath? {path : String} {place : Place}
    (found : ofPath? path = some place) : path = place.path := by
  unfold ofPath? at found
  split at found
  · cases found; assumption
  · split at found
    · cases found; assumption
    · split at found
      · cases found; assumption
      · split at found
        · cases found; assumption
        · split at found
          · cases found; assumption
          · cases found

/-- A request that is admitted changes something only by posting to a place that changes rules, for
an administrator. -/
theorem ends_admitted {tree : FileTree} {request : Http.Request} {principal : Option String}
    {time : Instant}
    (ended : (site.admitted tree request principal time).Ends Moment.Follows past handled now) :
    Spares site past now handled ∨
      request.method = "POST" ∧
      (request.target.path = "/api/firewall/flush" ∨
        (request.target.path = "/api/firewall/allow" ∧ NamesRule request) ∨
        (request.target.path = "/api/firewall/revoke" ∧ NamesRule request)) ∧
      ∃ name, principal = some name ∧ Administers now name := by
  unfold admitted at ended
  cases found : Place.ofPath? request.target.path with
  | none =>
      rw [found] at ended
      exact .inl (spares_of_done rfl ended)
  | some place =>
      rw [found] at ended
      dsimp only at ended
      split at ended
      · rename_i allowed
        have isPath := Place.eq_path_of_ofPath? found
        cases place with
        | index => exact .inl (spares_of_done rfl ended)
        | rules => exact .inl (spares_of_done rfl ended)
        | allow =>
            rw [atPlace] at ended
            rcases ends_changeRule ended with spares | ⟨named, admin⟩
            · exact .inl spares
            · exact .inr ⟨of_decide_eq_true allowed, .inr (.inl ⟨isPath, named⟩), admin⟩
        | revoke =>
            rw [atPlace] at ended
            rcases ends_changeRule ended with spares | ⟨named, admin⟩
            · exact .inl spares
            · exact .inr ⟨of_decide_eq_true allowed, .inr (.inr ⟨isPath, named⟩), admin⟩
        | flush =>
            rcases ends_flushRules ended with spares | admin
            · exact .inl spares
            · exact .inr ⟨of_decide_eq_true allowed, .inl isPath, admin⟩
      · exact .inl (spares_of_done rfl ended)

/-- Signing in changes no rules. -/
theorem spares_of_challenge {request : Http.Request} {client : Option Address} {time : Instant}
    {id : Uuid}
    (ended : (site.challenge request client time id).Ends Moment.Follows past handled now) :
    Spares site past now handled := by
  have same (form : Access.Form) (outcome : Access.Outcome) :
      (site.concluded request form client time id outcome).site.backend = site.backend := by
    cases outcome with
    | granted subject afterReset =>
        simp only [concluded, openSession]
        cases client with
        | none => rfl
        | some client => dsimp only; split <;> rfl
    | _ => rfl
  unfold challenge at ended
  split at ended
  · obtain ⟨outcome, middle, visited, ended⟩ := Dialogue.ends_bind.1 ended
    cases ended
    exact ⟨isQuiet_of_visit visited, same _ outcome⟩
  · split at ended <;> exact spares_of_done rfl ended

theorem Handling.isIdle_of_spares {handling : Handling} {answer : Handled}
    (same : handling.handled.site = answer.site)
    (spares : Spares handling.site [] handling.moments answer) : handling.IsIdle := by
  obtain ⟨⟨more, all, quiet⟩, unchanged⟩ := spares
  rw [List.nil_append] at all
  exact ⟨all ▸ quiet, same ▸ unchanged⟩

/-- A handling that is admitted for somebody is idle or authorized. -/
theorem Handling.isIdle_or_authorized_of_admitted {handling : Handling} {answer : Handled}
    {name : String}
    (admitted : handling.admission = .token name ∨ handling.admission = .allowList name)
    (same : handling.handled.site = answer.site)
    (responded : (handling.site.admitted handling.tree handling.request (some name)
      handling.now).Ends Moment.Follows [] answer handling.moments) :
    handling.IsIdle ∨ handling.Authorized := by
  rcases ends_admitted responded with spares | ⟨isPost, place, _, known, admin⟩
  · exact .inl (isIdle_of_spares same spares)
  · cases known
    have vouched : handling.site.gate.Vouches handling.request handling.now name := by
      rcases admitted with byToken | byGrant
      · exact Access.Gate.vouches_of_token byToken
      · exact Access.Gate.vouches_of_allowList byGrant
    exact .inr ⟨isPost, place, name, admitted, vouched, admin⟩

/-- One handling is idle or authorized. -/
theorem Handling.isIdle_or_authorized {handling : Handling} (happens : handling.Happens) :
    handling.IsIdle ∨ handling.Authorized := by
  obtain ⟨answer, responded, isSent⟩ := happens_iff.1 happens
  have same : handling.handled.site = answer.site := by rw [isSent, site_sent]
  unfold respond at responded
  dsimp only at responded
  split at responded
  · exact .inl (isIdle_of_spares same (spares_of_done rfl responded))
  · rw [← Handling.admission] at responded
    cases admitted : handling.admission with
    | publicFile =>
        rw [admitted] at responded
        rcases ends_admitted responded with spares | ⟨_, _, name, impossible, _⟩
        · exact .inl (isIdle_of_spares same spares)
        · cases impossible
    | token name =>
        rw [admitted] at responded
        exact isIdle_or_authorized_of_admitted (.inl admitted) same responded
    | allowList name =>
        rw [admitted] at responded
        exact isIdle_or_authorized_of_admitted (.inr admitted) same responded
    | denied =>
        rw [admitted] at responded
        exact .inl (isIdle_of_spares same (spares_of_challenge responded))

/-! ## Whole runs -/

/-- Without an authorized handling the backend stays as it is. -/
theorem Run.backend_eq {site after : Site} {handlings : List Handling}
    (run : Run site handlings after)
    (idle : ∀ handling ∈ handlings, handling.IsIdle) : after.backend = site.backend := by
  induction run with
  | nil site => rfl
  | cons happens others ih =>
      have first := (idle _ List.mem_cons_self).2
      have rest := ih fun handling isMember => idle handling (List.mem_cons_of_mem _ isMember)
      exact rest.trans first

theorem Run.happens_of_mem {site after : Site} {handlings : List Handling}
    (run : Run site handlings after) {handling : Handling} (isMember : handling ∈ handlings) :
    handling.Happens := by
  induction run with
  | nil site => cases isMember
  | cons happens others ih =>
      rcases List.mem_cons.1 isMember with rfl | isMember
      · exact happens
      · exact ih isMember

/-- Over a run of any requests, whatever happens to the directory meanwhile, every handling that is
not authorized runs no command and leaves the backend as it is; so rules change only while requests
of administrators are handled. -/
theorem commands_only_for_administrators {site after : Site} {handlings : List Handling}
    (run : Run site handlings after) :
    (∀ handling ∈ handlings, ¬ handling.Authorized → handling.IsIdle) ∧
      ((∀ handling ∈ handlings, ¬ handling.Authorized) →
        after.backend = site.backend ∧ after.backend.rules = site.backend.rules) := by
  have each : ∀ handling ∈ handlings, ¬ handling.Authorized → handling.IsIdle := by
    intro handling isMember notAuthorized
    rcases Handling.isIdle_or_authorized (run.happens_of_mem isMember) with idle | authorized
    · exact idle
    · exact absurd authorized notAuthorized
  refine ⟨each, fun none => ?_⟩
  have same := run.backend_eq fun handling isMember =>
    each handling isMember (none handling isMember)
  exact ⟨same, by rw [same]⟩

/-! ### A flush -/

theorem secret_ne_nil : ([1] : Bytes) ≠ [] := List.cons_ne_nil _ _

/-- A session with nftables behind a gate that has granted an address for ever. -/
def grantedSite : Site where
  settings := .standard
  gate := {
    issuer := ⟨[1], secret_ne_nil, .zero, .zero⟩
    allowList := ⟨SortedMap.empty.insert (.v4 0) ⟨"root", .never⟩, .zero⟩
    trustedProxies := []
    publicFiles := none }
  backend := .nftables ⟨.empty, true, false⟩

/-- The record of an administrator. -/
def rootRecord : Principal := { Principal.ofName "root" "secret" with role := adminRole }

/-- A directory with one administrator. -/
def rootDirectory : Store :=
  (SortedMap.empty.insert "user:root" (Record.document rootRecord)).insert "role:admin"
    (Record.document (⟨"admin", true, true⟩ : Role))

/-- A request to flush the rules. -/
def flushRequest : Http.Request where
  method := "POST"
  target := ⟨"", some "/api/firewall/flush"⟩
  headers := []
  peer := some (.v4 0)
  body := []

/-- The calls for which the rules are flushed. -/
def flushMoments : List Moment := [
  ⟨rootDirectory, .store (.get "user:root"), .ok (some (Record.document rootRecord))⟩,
  ⟨rootDirectory, .store (.get "role:admin"),
    .ok (some (Record.document (⟨"admin", true, true⟩ : Role)))⟩,
  ⟨rootDirectory, .filter (Firewall.Nftables.batchCommand Firewall.Nftables.flushBatch false),
    .ok .silent⟩]

/-- What is left when the rules are flushed. -/
def flushHandled : Handled where
  response := .json 200 (statusDocument (.nftables ⟨.empty, false, false⟩))
  events := [.ofChange .last .flushRules Firewall.Nftables.name none "root" none]
  site := { grantedSite with backend := .nftables ⟨.empty, false, false⟩ }

theorem length_zeros : (List.replicate 16 0 : Bytes).length = 16 := rfl

/-- The handling of the request. -/
def flushHandling : Handling :=
  ⟨grantedSite, .empty, flushRequest, .last, ⟨List.replicate 16 0, length_zeros⟩, flushMoments,
    flushHandled⟩

theorem happens_flushHandling : flushHandling.Happens := by
  have ended : (grantedSite.flushRules (some "root") .last).Ends Moment.Follows [] flushHandled
      flushMoments := by
    -- The two records are read, and then the table is deleted.
    have deleted : Moment.Follows (flushMoments.take 2)
        (.filter (Firewall.Nftables.batchCommand Firewall.Nftables.flushBatch false)) (.ok .silent)
        flushMoments := ⟨rootDirectory, trivial, rfl⟩
    refine .ask ⟨rootDirectory, .inl rfl, rfl⟩ (.ask ⟨rootDirectory, .inl rfl, rfl⟩ ?_)
    exact .ask deleted (.done _ _)
  exact Dialogue.ends_bind.2 ⟨flushHandled, flushMoments, ended, .done _ _⟩

/-- The granted address belongs to an administrator, whose request runs a command. -/
theorem commands_only_for_administrators_flush :
    Run grantedSite [flushHandling] flushHandled.site ∧ flushHandling.Authorized := by
  have run : Run grantedSite [flushHandling] flushHandled.site :=
    .cons happens_flushHandling (.nil _)
  refine ⟨run, Classical.byContradiction fun refused => ?_⟩
  have idle := (commands_only_for_administrators run).1 _ List.mem_cons_self refused
  exact idle.1 _ (List.mem_cons_of_mem _ (List.mem_cons_of_mem _ List.mem_cons_self)) ⟨_, rfl⟩

end Site

end Gatehouse
