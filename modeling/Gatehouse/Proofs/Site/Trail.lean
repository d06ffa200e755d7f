import Gatehouse.Proofs.Audit
import Gatehouse.Proofs.Site.Handling
/-!
# The trail of the changes

A change to the rules is attempted when an operation of the backend is called for a request, whether
it succeeds or fails, and even if it runs no command.  Each attempt leaves one event that tells how
it ended, and whatever else a site does leaves none of that kind.  So the changes in the audit log of
a run are the attempts of the run, in their order.
-/

namespace Gatehouse

namespace Audit

/-- Whether events of a kind tell of changes to the packet filter. -/
def Kind.isChange : Kind → Bool
  | .allowPort => true
  | .revokePort => true
  | .flushRules => true
  | _ => false

/-- The event tells of a change to the packet filter. -/
def Event.isChange (event : Event) : Bool := event.kind.isChange

/-- The event tells of a decision about access. -/
def Event.IsAccess (event : Event) : Prop :=
  ∃ now kind username client, event = .ofAccess now kind username client ∧ kind.isChange = false

theorem Event.IsAccess.isChange_eq_false {event : Event} (access : event.IsAccess) :
    event.isChange = false := by
  obtain ⟨now, kind, username, client, rfl, other⟩ := access
  exact other

end Audit

namespace Site

open Audit

/-! ## Attempts -/

/-- An operation that changes the rules of a backend. -/
inductive Mutation where
  | allow (rule : Firewall.Rule)
  | revoke (rule : Firewall.Rule)
  | flush

namespace Mutation

/-- The kind of the events about an operation. -/
def kind : Mutation → Kind
  | .allow _ => .allowPort
  | .revoke _ => .revokePort
  | .flush => .flushRules

/-- The rule that is changed. -/
def rule? : Mutation → Option Firewall.Rule
  | .allow rule => some rule
  | .revoke rule => some rule
  | .flush => none

/-- Call the operation. -/
def perform (mutation : Mutation) (backend : Firewall.Backend) :
    Firewall.Talk (Firewall.Outcome Firewall.Backend) :=
  match mutation with
  | .allow rule => backend.allow rule
  | .revoke rule => backend.revoke rule
  | .flush => backend.flush

theorem isChange_kind (mutation : Mutation) : mutation.kind.isChange = true := by
  cases mutation <;> rfl

end Mutation

/-- The rule that a request names, if it may take effect. -/
def namedRule? (request : Http.Request) : Option Firewall.Rule :=
  match RuleRequest.ofRequest request with
  | .error _ => none
  | .ok asked => (Firewall.Rule.ofRequest asked.protocol asked.port).toOption

theorem namedRule?_eq_some {request : Http.Request} {rule : Firewall.Rule} :
    namedRule? request = some rule ↔ ∃ asked, RuleRequest.ofRequest request = .ok asked ∧
      Firewall.Rule.ofRequest asked.protocol asked.port = .ok rule := by
  unfold namedRule?
  constructor
  · intro named
    split at named
    · cases named
    · rename_i asked isAsked
      refine ⟨asked, isAsked, ?_⟩
      cases found : Firewall.Rule.ofRequest asked.protocol asked.port with
      | error cause =>
          rw [found] at named
          cases named
      | ok other =>
          rw [found] at named
          exact congrArg Except.ok (Option.some.inj named)
  · rintro ⟨asked, isAsked, found⟩
    simp only [isAsked, found]
    rfl

/-- The operation that a request asks for. -/
def Mutation.ofRequest? (request : Http.Request) : Option Mutation :=
  if request.method = "POST" then
    match Place.ofPath? request.target.path with
    | some .allow => (namedRule? request).map .allow
    | some .revoke => (namedRule? request).map .revoke
    | some .flush => some .flush
    | _ => none
  else none

/-- A call of an operation, who asked for it and when, and what the backend made of it. -/
structure Attempt where
  mutation : Mutation
  actor : String
  time : Instant
  outcome : Firewall.Outcome Firewall.Backend

/-- What the log says of an attempt: it succeeded exactly if the backend said so, and there is the
text of an error exactly if it did not. -/
def Attempt.event (attempt : Attempt) : Event where
  timestamp := attempt.time
  kind := attempt.mutation.kind
  success := attempt.outcome.2.isOk
  details := .ofMembers [("backend", .string attempt.outcome.1.name),
    ("rule", .ofText? (attempt.mutation.rule?.map Firewall.Rule.text)),
    ("actor", .string attempt.actor)]
  error := match attempt.outcome.2 with
    | .ok () => none
    | .error cause => some cause.message

theorem Attempt.isChange_event (attempt : Attempt) : attempt.event.isChange = true :=
  attempt.mutation.isChange_kind

/-- The event as the one that the site makes of the error. -/
theorem Attempt.event_eq (attempt : Attempt) :
    attempt.event = .ofChange attempt.time attempt.mutation.kind attempt.outcome.1.name
      attempt.mutation.rule? attempt.actor attempt.event.error := by
  obtain ⟨mutation, actor, time, backend, cause | _⟩ := attempt <;> rfl

/-- The one whom the gate admits. -/
def principal? : Access.Admission → Option String
  | .token name => some name
  | .allowList name => some name
  | _ => none

/-- The attempt is made for the request: it asks for the operation, the gate admits somebody, the
directory tells that this is an administrator, and then the operation is all that is done. -/
structure Handling.Attempts (handling : Handling) (attempt : Attempt) : Prop where
  asked : Mutation.ofRequest? handling.request = some attempt.mutation
  admitted : principal? handling.admission = some attempt.actor
  time : attempt.time = handling.now
  performed : ∃ middle,
    (visit (Directory.isAdmin attempt.actor)).Ends Moment.Follows [] (.ok true) middle ∧
    (filter (attempt.mutation.perform handling.site.backend)).Ends Moment.Follows middle
      attempt.outcome handling.moments

/-! ## Requests that are admitted -/

section

variable {site : Site} {past now : List Moment} {handled : Handled} {tree : FileTree}
  {request : Http.Request} {principal : Option String} {time : Instant}

/-- No command is run, the backend stays as it is, and no event tells of a change. -/
structure Silent (site : Site) (past now : List Moment) (handled : Handled) : Prop where
  spares : Spares site past now handled
  access : ∀ event ∈ handled.events, event.IsAccess

theorem silent_unchanged {response : Http.Response}
    (ended : (Dialogue.done (site.unchanged response) : Talk Handled).Ends Moment.Follows past
      handled now) : Silent site past now handled := by
  refine ⟨spares_of_done rfl ended, ?_⟩
  obtain ⟨rfl, _⟩ := Dialogue.ends_done.1 ended
  exact List.forall_mem_nil _

/-- Whoever is told to be an administrator goes on. -/
theorem ends_asAdministrator_of_isAdmin {name : String} {next : String → Talk Handled}
    {middle : List Moment}
    (isAdmin : (visit (Directory.isAdmin name)).Ends Moment.Follows past (.ok true) middle)
    (rest : (next name).Ends Moment.Follows middle handled now) :
    (site.asAdministrator (some name) next).Ends Moment.Follows past handled now :=
  Dialogue.ends_bind.2 ⟨.ok true, middle, isAdmin, rest⟩

theorem silent_of_asAdministrator {next : String → Talk Handled}
    (ended : (site.asAdministrator principal next).Ends Moment.Follows past handled now)
    (others : ∀ name middle, principal = some name →
      (visit (Directory.isAdmin name)).Ends Moment.Follows past (.ok true) middle →
      (next name).Ends Moment.Follows middle handled now → Silent site middle now handled) :
    Silent site past now handled := by
  cases principal with
  | none => exact silent_unchanged ended
  | some name =>
      obtain ⟨answer, middle, asked, ended⟩ := Dialogue.ends_bind.1 ended
      have later (silent : Silent site middle now handled) : Silent site past now handled :=
        ⟨⟨(isQuiet_of_visit asked).trans silent.spares.1, silent.spares.2⟩, silent.access⟩
      rcases answer with cause | _ | _
      · exact later (silent_unchanged ended)
      · exact later (silent_unchanged ended)
      · exact later (others name middle rfl asked ended)

/-- An operation that has been called leaves the event of the attempt. -/
theorem exists_ends_change {attempt : Attempt}
    {operation : Firewall.Talk (Firewall.Outcome Firewall.Backend)}
    (performed : (filter operation).Ends Moment.Follows past attempt.outcome now) :
    ∃ response, (site.change attempt.time attempt.actor attempt.mutation.kind
        attempt.mutation.rule? operation).Ends Moment.Follows past
      ⟨response, [attempt.event], { site with backend := attempt.outcome.1 }⟩ now := by
  obtain ⟨mutation, actor, time, backend, cause | _⟩ := attempt <;>
  · exact ⟨_, Dialogue.ends_bind.2 ⟨_, _, performed, .done _ _⟩⟩

/-- A request that names a rule goes on to the change. -/
theorem changeRule_eq {kind : Kind} {rule : Firewall.Rule}
    {operation : Firewall.Rule → Firewall.Talk (Firewall.Outcome Firewall.Backend)}
    (named : namedRule? request = some rule) :
    site.changeRule request principal time kind operation =
      site.asAdministrator principal fun actor =>
        site.change time actor kind (some rule) (operation rule) := by
  obtain ⟨change, asked, found⟩ := namedRule?_eq_some.1 named
  simp only [changeRule, asked, found]

/-- A request that names no rule changes nothing. -/
theorem silent_changeRule {kind : Kind}
    {operation : Firewall.Rule → Firewall.Talk (Firewall.Outcome Firewall.Backend)}
    (unnamed : namedRule? request = none)
    (ended : (site.changeRule request principal time kind operation).Ends Moment.Follows past
      handled now) : Silent site past now handled := by
  unfold changeRule at ended
  cases asked : RuleRequest.ofRequest request with
  | error response =>
      rw [asked] at ended
      exact silent_unchanged ended
  | ok change =>
      rw [asked] at ended
      refine silent_of_asAdministrator ended fun name middle _ _ ended => ?_
      cases found : Firewall.Rule.ofRequest change.protocol change.port with
      | error cause =>
          rw [found] at ended
          exact silent_unchanged ended
      | ok rule =>
          have named := namedRule?_eq_some.2 ⟨change, asked, found⟩
          rw [unnamed] at named
          cases named

/-- A request for an operation goes on to it, if it is for an administrator. -/
theorem admitted_eq {mutation : Mutation} (asked : Mutation.ofRequest? request = some mutation) :
    site.admitted tree request principal time =
      site.asAdministrator principal fun actor =>
        site.change time actor mutation.kind mutation.rule? (mutation.perform site.backend) := by
  unfold Mutation.ofRequest? at asked
  split at asked
  · rename_i isPost
    have allowed (place : Place) (notShown : place.isShown = false) :
        place.allows request.method = true := by simp [Place.allows, notShown, isPost]
    unfold admitted
    split at asked
    · rename_i found
      obtain ⟨rule, named, rfl⟩ := Option.map_eq_some_iff.1 asked
      simp only [found, allowed .allow rfl, if_true, atPlace, changeRule_eq named]
      rfl
    · rename_i found
      obtain ⟨rule, named, rfl⟩ := Option.map_eq_some_iff.1 asked
      simp only [found, allowed .revoke rfl, if_true, atPlace, changeRule_eq named]
      rfl
    · rename_i found
      cases asked
      simp only [found, allowed .flush rfl, if_true, atPlace, flushRules]
      rfl
    · cases asked
  · cases asked

/-- A request for no operation changes nothing. -/
theorem silent_admitted (other : Mutation.ofRequest? request = none)
    (ended : (site.admitted tree request principal time).Ends Moment.Follows past handled now) :
    Silent site past now handled := by
  unfold admitted at ended
  unfold Mutation.ofRequest? at other
  cases found : Place.ofPath? request.target.path with
  | none =>
      rw [found] at ended
      exact silent_unchanged ended
  | some place =>
      rw [found] at ended other
      dsimp only at ended
      split at ended
      · rename_i allowed
        cases place with
        | index => exact silent_unchanged ended
        | rules => exact silent_unchanged ended
        | allow =>
            rw [if_pos (of_decide_eq_true allowed)] at other
            rw [atPlace] at ended
            exact silent_changeRule (Option.map_eq_none_iff.1 other) ended
        | revoke =>
            rw [if_pos (of_decide_eq_true allowed)] at other
            rw [atPlace] at ended
            exact silent_changeRule (Option.map_eq_none_iff.1 other) ended
        | flush =>
            rw [if_pos (of_decide_eq_true allowed)] at other
            cases other
      · exact silent_unchanged ended

/-! ## Requests that are not admitted -/

theorem access_outcomeEvents (client : Address) (time : Instant) (outcome : Access.Outcome) :
    ∀ event ∈ outcomeEvents client time outcome, event.IsAccess := by
  cases outcome with
  | rejected username =>
      exact List.forall_mem_singleton.2 ⟨time, .loginFailed, username, client, rfl, rfl⟩
  | granted subject afterReset =>
      refine List.forall_mem_singleton.2 ⟨time, _, subject, client, rfl, ?_⟩
      cases afterReset <;> rfl
  | _ => exact List.forall_mem_nil _

theorem events_concluded (form : Access.Form) (client : Option Address) (id : Uuid)
    (outcome : Access.Outcome) :
    (site.concluded request form client time id outcome).events =
      outcomeEvents (client.getD .unspecified) time outcome := by
  cases outcome <;> rfl

/-- Signing in leaves events about access alone. -/
theorem silent_challenge {client : Option Address} {id : Uuid}
    (ended : (site.challenge request client time id).Ends Moment.Follows past handled now) :
    Silent site past now handled := by
  refine ⟨spares_of_challenge ended, ?_⟩
  unfold challenge at ended
  split at ended
  · obtain ⟨outcome, middle, _, ended⟩ := Dialogue.ends_bind.1 ended
    obtain ⟨rfl, _⟩ := Dialogue.ends_done.1 ended
    rw [events_concluded]
    exact access_outcomeEvents _ _ _
  · split at ended <;> exact (silent_unchanged ended).access

/-- Signing out leaves an event about access at most. -/
theorem silent_logout {client : Option Address}
    (ended : (Dialogue.done (site.logout request client time) : Talk Handled).Ends Moment.Follows
      past handled now) : Silent site past now handled := by
  refine ⟨spares_of_done rfl ended, ?_⟩
  obtain ⟨rfl, _⟩ := Dialogue.ends_done.1 ended
  unfold logout
  dsimp only
  split
  · exact List.forall_mem_singleton.2 ⟨_, _, _, _, rfl, rfl⟩
  · exact List.forall_mem_nil _

end

/-! ## Single handlings -/

@[simp] theorem events_sent (request : Http.Request) (answer : Handled) :
    (sent request answer).events = answer.events := by
  unfold sent
  split <;> rfl

theorem Silent.sent {site : Site} {past now : List Moment} {answer : Handled}
    (silent : Silent site past now answer) (request : Http.Request) :
    Silent site past now (sent request answer) where
  spares := ⟨silent.spares.1, by rw [site_sent]; exact silent.spares.2⟩
  access := by rw [events_sent]; exact silent.access

namespace Handling

variable {handling : Handling} {attempt : Attempt}

/-- What is admitted goes on with the one whom the gate admits. -/
theorem respond_eq (elsewhere : handling.request.target.path ≠ logoutPath)
    (admitted : handling.admission ≠ .denied) :
    handling.site.respond handling.tree handling.request handling.now handling.id =
      handling.site.admitted handling.tree handling.request (principal? handling.admission)
        handling.now := by
  unfold respond
  dsimp only
  rw [if_neg elsewhere, ← admission]
  cases decided : handling.admission with
  | denied => exact absurd decided admitted
  | _ => rfl

theorem Attempts.elsewhere (attempts : handling.Attempts attempt) :
    handling.request.target.path ≠ logoutPath := by
  intro isLogout
  have noPlace : Place.ofPath? handling.request.target.path = none := by
    rw [isLogout]
    decide
  have asked := attempts.asked
  unfold Mutation.ofRequest? at asked
  rw [noPlace] at asked
  split at asked <;> cases asked

/-- There is one attempt at most for a request: its moments tell what the directory and the backend
have made of it. -/
theorem Attempts.unique {other : Attempt} (attempts : handling.Attempts attempt)
    (again : handling.Attempts other) : attempt = other := by
  obtain ⟨mutation, actor, time, outcome⟩ := attempt
  obtain ⟨otherMutation, otherActor, otherTime, otherOutcome⟩ := other
  obtain ⟨asked, admitted, rfl, middle, isAdmin, performed⟩ := attempts
  obtain ⟨askedAgain, admittedAgain, rfl, later, isAdminAgain, performedAgain⟩ := again
  cases Option.some.inj (asked.symm.trans askedAgain)
  cases Option.some.inj (admitted.symm.trans admittedAgain)
  obtain ⟨_, rfl⟩ := ends_unique isAdmin isAdminAgain (prefix_of_ends performed)
    (prefix_of_ends performedAgain)
  cases result_unique performed performedAgain
  rfl

/-- An attempt leaves its event and nothing else, and the backend that comes of it is kept. -/
theorem Attempts.handled (attempts : handling.Attempts attempt) (happens : handling.Happens) :
    handling.handled.events = [attempt.event] ∧
      handling.handled.site.backend = attempt.outcome.1 := by
  obtain ⟨answer, responded, isSent⟩ := happens_iff.1 happens
  rw [isSent, events_sent, site_sent]
  have admitted : handling.admission ≠ .denied := by
    intro denied
    have known := attempts.admitted
    rw [denied] at known
    cases known
  rw [respond_eq attempts.elsewhere admitted, admitted_eq attempts.asked, attempts.admitted]
    at responded
  -- The same moments lead to the event of the attempt, so that is how the answer has come about.
  obtain ⟨middle, isAdmin, performed⟩ := attempts.performed
  obtain ⟨response, changed⟩ := exists_ends_change performed
  rw [attempts.time] at changed
  cases result_unique responded (ends_asAdministrator_of_isAdmin isAdmin changed)
  exact ⟨rfl, rfl⟩

/-- Without an attempt no command is run, the backend stays as it is, and no event tells of a
change. -/
theorem silent_of_no_attempt (happens : handling.Happens)
    (none : ∀ attempt, ¬ handling.Attempts attempt) :
    Silent handling.site [] handling.moments handling.handled := by
  obtain ⟨answer, responded, isSent⟩ := happens_iff.1 happens
  rw [isSent]
  refine Silent.sent ?_ _
  by_cases isLogout : handling.request.target.path = logoutPath
  · unfold respond at responded
    dsimp only at responded
    rw [if_pos isLogout] at responded
    exact silent_logout responded
  by_cases denied : handling.admission = .denied
  · rw [respond_of_denied isLogout denied] at responded
    exact silent_challenge responded
  · rw [respond_eq isLogout denied] at responded
    cases asked : Mutation.ofRequest? handling.request with
    | none => exact silent_admitted asked responded
    | some mutation =>
        rw [admitted_eq asked] at responded
        refine silent_of_asAdministrator responded fun name middle known isAdmin changed => ?_
        obtain ⟨outcome, moments, performed, ended⟩ := Dialogue.ends_bind.1 changed
        obtain ⟨_, rfl⟩ := Dialogue.ends_done.1 ended
        exact absurd ⟨asked, known, rfl, middle, isAdmin, performed⟩
          (none ⟨mutation, name, handling.now, outcome⟩)

/-- The details of the events that are left can be read back. -/
theorem exact_details (happens : handling.Happens) :
    ∀ event ∈ handling.handled.events, event.details.Exact (Draft.deepest - 1) := by
  by_cases isMade : ∃ attempt, handling.Attempts attempt
  · obtain ⟨attempt, attempts⟩ := isMade
    rw [(attempts.handled happens).1]
    refine List.forall_mem_singleton.2 ?_
    rw [attempt.event_eq]
    exact (Entry.change _ _ _ _ _ _).exact_details
  · intro event isMember
    have silent := silent_of_no_attempt happens fun attempt made => isMade ⟨attempt, made⟩
    obtain ⟨now, kind, username, client, rfl, _⟩ := silent.access event isMember
    exact (Entry.access now kind username client).exact_details

end Handling

/-! ## Whole runs -/

/-- The attempts that are made for a row of requests, in order. -/
inductive Attempted : List Handling → List Attempt → Prop where
  | nil : Attempted [] []
  | attempt {handling : Handling} {rest : List Handling} {attempt : Attempt}
      {attempts : List Attempt} (made : handling.Attempts attempt)
      (others : Attempted rest attempts) : Attempted (handling :: rest) (attempt :: attempts)
  | none {handling : Handling} {rest : List Handling} {attempts : List Attempt}
      (none : ∀ attempt, ¬ handling.Attempts attempt) (others : Attempted rest attempts) :
      Attempted (handling :: rest) attempts

theorem exists_attempted (handlings : List Handling) : ∃ attempts, Attempted handlings attempts := by
  induction handlings with
  | nil => exact ⟨[], .nil⟩
  | cons handling rest ih =>
      obtain ⟨attempts, others⟩ := ih
      by_cases isMade : ∃ attempt, handling.Attempts attempt
      · obtain ⟨attempt, made⟩ := isMade
        exact ⟨attempt :: attempts, .attempt made others⟩
      · exact ⟨attempts, .none (fun attempt made => isMade ⟨attempt, made⟩) others⟩

/-- The attempts of a row of requests are told by the handlings. -/
theorem Attempted.unique {handlings : List Handling} {attempts others : List Attempt}
    (attempted : Attempted handlings attempts) (again : Attempted handlings others) :
    attempts = others := by
  induction attempted generalizing others with
  | nil =>
      cases again
      rfl
  | attempt made _ ih =>
      cases again with
      | attempt madeAgain rest => rw [made.unique madeAgain, ih rest]
      | none none _ => exact absurd made (none _)
  | none none _ ih =>
      cases again with
      | attempt made _ => exact absurd made (none _)
      | none _ rest => exact ih rest

/-- The events that the handlings leave, in order. -/
def trail (handlings : List Handling) : List Event :=
  handlings.flatMap fun handling => handling.handled.events

/-- Among the events of a run, those that tell of changes are the events of the attempts. -/
theorem Run.filter_trail {site after : Site} {handlings : List Handling} {attempts : List Attempt}
    (run : Run site handlings after) (attempted : Attempted handlings attempts) :
    (trail handlings).filter Event.isChange = attempts.map Attempt.event := by
  induction run generalizing attempts with
  | nil site =>
      cases attempted
      rfl
  | @cons handling rest after happens others ih =>
      rw [trail, List.flatMap_cons, List.filter_append, ← trail]
      cases attempted with
      | @attempt _ _ attempt attempts made attempted =>
          rw [(made.handled happens).1, ih attempted,
            List.filter_cons_of_pos attempt.isChange_event]
          rfl
      | none none attempted =>
          have silent := Handling.silent_of_no_attempt happens none
          rw [ih attempted, List.filter_eq_nil_iff.2, List.nil_append]
          intro event isMember
          rw [(silent.access event isMember).isChange_eq_false]
          exact Bool.false_ne_true

/-- The events of a run are read back from their texts. -/
theorem Run.exact_details {site after : Site} {handlings : List Handling}
    (run : Run site handlings after) :
    ∀ event ∈ trail handlings, event.details.Exact (Draft.deepest - 1) := by
  intro event isMember
  obtain ⟨handling, isHandled, isEvent⟩ := List.mem_flatMap.1 isMember
  exact Handling.exact_details (run.happens_of_mem isHandled) event isEvent

/-- Over a run of any requests, whatever the programs of the packet filter and the directory do, the
changes that are added to the log are the attempts of the run, each of them once and in their order.
A request for which nothing is attempted runs no command and adds no change. -/
theorem changes_are_recorded {site after : Site} {handlings : List Handling}
    (run : Run site handlings after) :
    ∃ attempts, (∀ others, Attempted handlings others ↔ others = attempts) ∧
      (trail handlings).filter Event.isChange = attempts.map Attempt.event ∧
      (∀ handling ∈ handlings, (∀ attempt, ¬ handling.Attempts attempt) →
        handling.IsIdle ∧ ∀ event ∈ handling.handled.events, event.isChange = false) ∧
      ∀ (tree : FileTree) (path : String) (content : Bytes), tree.Holds path content →
        ∃ last log, (recordAll path (trail handlings)).run FileTree.answer tree = ((), last) ∧
          last.Holds path (content ++ Utf8.encode log) ∧
          ((Text.lines log).filterMap Event.ofLine?).filter Event.isChange =
            attempts.map Attempt.event := by
  obtain ⟨attempts, attempted⟩ := exists_attempted handlings
  refine ⟨attempts, fun others => ?_, run.filter_trail attempted, ?_, ?_⟩
  · constructor
    · exact fun again => again.unique attempted
    · rintro rfl
      exact attempted
  · intro handling isMember none
    have silent := Handling.silent_of_no_attempt (run.happens_of_mem isMember) none
    exact ⟨Handling.isIdle_of_spares rfl silent.spares,
      fun event isEvent => (silent.access event isEvent).isChange_eq_false⟩
  · intro tree path content holds
    obtain ⟨last, log, recorded, held, read⟩ := exists_log_recordAll holds run.exact_details
    exact ⟨last, log, recorded, held, by rw [read, run.filter_trail attempted]⟩

/-! ### The trail of a flush -/

/-- The flush that is attempted for an administrator. -/
def flushAttempt : Attempt := ⟨.flush, "root", .last, (.nftables ⟨.empty, false, false⟩, .ok ())⟩

theorem attempts_flushAttempt : flushHandling.Attempts flushAttempt where
  asked := rfl
  admitted := rfl
  time := rfl
  performed := by
    have deleted : Moment.Follows (flushMoments.take 2)
        (.filter (Firewall.Nftables.batchCommand Firewall.Nftables.flushBatch false)) (.ok .silent)
        flushMoments := ⟨rootDirectory, trivial, rfl⟩
    refine ⟨flushMoments.take 2, ?_, .ask deleted (.done _ _)⟩
    exact .ask ⟨rootDirectory, .inl rfl, rfl⟩ (.ask ⟨rootDirectory, .inl rfl, rfl⟩ (.done _ _))

/-- A flush for an administrator adds one change to a new log. -/
theorem changes_are_recorded_flush :
    Run grantedSite [flushHandling] flushHandled.site ∧
    Attempted [flushHandling] [flushAttempt] ∧ FileTree.empty.Holds "audit.log" [] ∧
    ∃ last log, (recordAll "audit.log" (trail [flushHandling])).run FileTree.answer .empty =
        ((), last) ∧
      last.Holds "audit.log" (Utf8.encode log) ∧
      ((Text.lines log).filterMap Event.ofLine?).filter Event.isChange = [flushAttempt.event] := by
  have run : Run grantedSite [flushHandling] flushHandled.site :=
    .cons happens_flushHandling (.nil _)
  have attempted : Attempted [flushHandling] [flushAttempt] := .attempt attempts_flushAttempt .nil
  obtain ⟨attempts, known, _, _, recorded⟩ := changes_are_recorded run
  cases (known _).1 attempted
  exact ⟨run, attempted, holds_empty, recorded _ _ _ holds_empty⟩

end Site

end Gatehouse
