import Gatehouse.Proofs.Access.Calls
import Gatehouse.Proofs.Access.History
import Gatehouse.Proofs.Directory.Documents
import Gatehouse.Proofs.Interleaving.Invariant
/-!
# Resets that overlap

A reset looks at the record of the principal without the lock, and the operation that sets the
password looks again under the lock, but not for a pending reset.  So the record that is replaced is
one with a pending reset as long as nobody has written it since the first look.
-/

namespace Gatehouse.Access

open Directory (NamesAgree userKey)
open Interleaving

/-! ## The questions of a step -/

namespace Exchange

variable {issuer : Issuer} {form : Form} {now : Instant} {id : Uuid} {user : String}

/-- Choosing a new password for the principal that an accepted ticket is for. -/
def choose (form : Form) (now : Instant) (subject : String) : Step :=
  andThen (Directory.lookupPrincipal subject) fun
    | none => refuse
    | some principal =>
        if !principal.enabled || !principal.resetPending now then refuse
        else
          match passwordFault form with
          | some fault => conclude (.reset principal.name (form.ticket.getD "") (some fault))
          | none =>
              andThen (Directory.setCredential principal.name form.newPassword) fun _ =>
                conclude (.granted principal.name true)

/-- Without an accepted ticket for the name in the form, nothing is asked. -/
theorem resetPassword_eq : (∃ result, resetPassword issuer form now = .done result) ∨
    ∃ claims : Claims, Token.validate issuer (form.ticket.getD "") .passwordReset now = .ok claims ∧
      resetPassword issuer form now = choose form now claims.subject := by
  unfold resetPassword
  dsimp only
  split
  · exact .inl ⟨_, rfl⟩
  · rename_i claims accepted
    split
    · exact .inl ⟨_, rfl⟩
    · exact .inr ⟨claims, accepted, rfl⟩

/-- If the question puts something at a key, then it is the key of the principal in an answer, who
is enabled and has a reset pending. -/
def OnlyPending (now : Instant) (answer : Except StoreError (Option Json)) (question : StoreCall) :
    Prop :=
  ∀ key value, question = .set key value → ∃ json, ∃ principal : Principal,
    answer = .ok (some json) ∧ Record.parse? json = some principal ∧ principal.enabled = true ∧
      principal.resetPending now = true ∧ key = userKey principal.name

/-- The visit ends at once, or it looks at a principal and then changes only this one, and only if a
reset is pending. -/
def LooksFirst {β : Type} (now : Instant) (visit : Visit β) : Prop :=
  (∃ result, visit = .done result) ∨
    ∃ user look, visit = .ask (.get (userKey user)) look ∧
      ∀ answer, (look answer).Asks (OnlyPending now answer)

theorem LooksFirst.bind_done {β γ : Type} {visit : Visit β} {finish : β → γ}
    (looksFirst : LooksFirst now visit) :
    LooksFirst now (visit.bind fun result => .done (finish result)) := by
  rcases looksFirst with ⟨result, rfl⟩ | ⟨user, look, rfl, asks⟩
  · exact .inl ⟨_, rfl⟩
  · exact .inr ⟨user, _, rfl, fun answer => (asks answer).bind fun _ => .done _⟩

theorem looksFirst_andThen {next : Option Principal → Step}
    (rest : ∀ answer found,
      (Directory.answered answer).bind (Directory.decode? (userKey user)) = .ok found →
        (next found).Asks (OnlyPending now answer)) :
    LooksFirst now (andThen (Directory.lookupPrincipal user) next) := by
  refine .inr ⟨user, _, rfl, fun answer => ?_⟩
  dsimp only
  rw [Dialogue.bind_done]
  split
  · exact .done _
  · rename_i found isFound
    exact rest answer found isFound

theorem looksFirst_signIn : LooksFirst now (signIn issuer form now id) := by
  refine looksFirst_andThen ?_
  rintro answer (_ | principal) _
  · exact .done _
  · dsimp only
    repeat' split
    all_goals exact .done _

theorem looksFirst_choose : LooksFirst now (choose form now user) := by
  refine looksFirst_andThen ?_
  rintro answer (_ | principal) isFound
  · exact .done _
  dsimp only
  split
  · exact .done _
  rename_i accepted
  simp only [Bool.or_eq_true, Bool.not_eq_true', not_or, Bool.not_eq_false] at accepted
  split
  · exact .done _
  · obtain ⟨json, isAnswer, parsed⟩ := Directory.decode?_answered_eq_some.1 isFound
    have sets : (Directory.setCredential principal.name form.newPassword).Asks
        (OnlyPending now answer) := by
      refine Directory.asks_setCredential _ _ nofun nofun nofun fun value => ?_
      rintro key value ⟨⟩
      exact ⟨json, principal, isAnswer, parsed, accepted.1, accepted.2, rfl⟩
    refine sets.bind ?_
    rintro (cause | _)
    · exact .done _
    · exact .done _

theorem looksFirst_run : LooksFirst now (run issuer form now id) := by
  unfold run
  split
  · exact looksFirst_signIn.bind_done
  split
  · refine LooksFirst.bind_done ?_
    rcases resetPassword_eq with ⟨result, isDone⟩ | ⟨claims, _, isChoice⟩
    · exact .inl ⟨result, isDone⟩
    · rw [isChoice]
      exact looksFirst_choose
  · exact .inl ⟨_, rfl⟩

end Exchange

/-! ## The record that is replaced -/

section

variable {ι : Type} [DecidableEq ι] {issuer : Issuer} {calls : ι → Call} {form : Form}
  {now : Instant} {id : Uuid}
  {reply : Store → (question : StoreCall) → question.Answer → Store → Prop}
  {between : List (Interleaving.Event ι)}
  {before middle last after : Scene fun call => (calls call).Result} {call : ι} {look : StoreCall}
  {key : String} {value : Json}

theorem Call.looksFirst {call : Call} (isSubmission : call = .submission form now id) :
    Exchange.LooksFirst now (call.visit issuer) := by
  subst isSubmission
  exact Exchange.looksFirst_run

/-- A step of the exchange that puts something at a key replaces the record of an enabled principal
with a pending reset, if nobody has written at the key since the step has looked. -/
theorem replaced_record_is_pending (sound : Store.Sound reply) (named : NamesAgree before.store)
    (isSubmission : calls call = .submission form now id)
    (begun : before.progress call = .running (visits issuer calls call))
    (looks : Step reply (visits issuer calls) before (.asks call look) middle)
    (run : Run reply (visits issuer calls) middle between last)
    (writes : Step reply (visits issuer calls) last (.asks call (.set key value)) after)
    (untouched : ∀ other question, .asks other question ∈ between →
      question.writesAt key = false) :
    ∃ principal : Principal, last.store.Holds key principal ∧ principal.enabled = true ∧
      principal.resetPending now = true := by
  cases looks with
  | @asks _ _ next answer store runs admitted replied =>
      have shape : Exchange.LooksFirst now (visits issuer calls call) :=
        Call.looksFirst isSubmission
      rw [Progress.running.inj (begun.symm.trans runs)] at shape
      rcases shape with ⟨_, impossible⟩ | ⟨user, look, isLook, asks⟩
      · cases impossible
      cases isLook
      obtain rfl := sound.still rfl replied
      -- From the look on, whatever the call may still put belongs to the record it has seen.
      have begins : Remains (visits issuer calls call)
          (fun rest => rest.Asks (Exchange.OnlyPending now answer))
          (((before.told call (.get (userKey user)) before.store).advance call
            (.running (look answer))).progress call) := by
        rw [Scene.progress_advance_self]
        exact asks answer
      have remains := run.remains (fun asks answer => asks.next answer) begins
      cases writes with
      | asks runs =>
          rw [runs] at remains
          obtain ⟨json, principal, rfl, parsed, enabled, pending, rfl⟩ := remains.first _ _ rfl
          rcases (Store.mayReply_get.1 (sound.mayReply replied)).1 with found | ⟨_, impossible⟩
          · have held : before.store.Holds (userKey user) principal :=
              ⟨json, (Except.ok.inj found).symm, parsed⟩
            have isUser := named user principal held
            have same := run.get?_of_not_writesAt sound untouched
            refine ⟨principal, ⟨json, same.trans ?_, parsed⟩, enabled, pending⟩
            rw [isUser]
            exact (Except.ok.inj found).symm
          · cases impossible

end

/-! ### Two submissions of one ticket -/

namespace Rivals

open Reset (issuer ada form chosen id store ticket)

/-- The form with the new password is submitted twice. -/
def calls : Fin 2 → Call := fun _ => .submission form chosen id

/-- What is done about a submission once its ticket has been accepted. -/
def steps : Visit Outcome :=
  (Exchange.choose form chosen "ada").bind fun result => .done (Exchange.settle form result)

theorem visits_eq : visits issuer calls = fun _ => steps := by
  funext call
  have given : form.ticket = some ticket := rfl
  have accepted : Token.validate issuer (form.ticket.getD "") .passwordReset chosen =
      .ok (Token.claimsFor "ada" .passwordReset issuer.resetLifetime Reset.signedIn id) := by
    rw [given, Option.getD_some, Reset.validate_ticket]
  have chooses : Exchange.resetPassword issuer form chosen = Exchange.choose form chosen "ada" := by
    rw [Exchange.resetPassword, accepted]
    rfl
  have begun : Exchange.run issuer form chosen id =
      (Exchange.resetPassword issuer form chosen).bind fun result =>
        .done (Exchange.settle form result) := rfl
  change Exchange.run issuer form chosen id = steps
  rw [begun, chooses, steps]

/-- A moment at which the form has been submitted twice. -/
abbrev Moment : Type := Scene fun call => (calls call).Result

/-- A call has been granted access. -/
def grants (scene : Moment) (call : Fin 2) : Bool :=
  match scene.progress call with
  | .ended (outcome : Outcome) => outcome = .granted "ada" true
  | _ => false

/-- A call is about to put something at Ada's key. -/
def setsNext (scene : Moment) (call : Fin 2) : Bool :=
  match scene.progress call with
  | .running (.ask (.set key _) _) => key = userKey "ada"
  | _ => false

/-- Ada's record. -/
def record? (scene : Moment) : Option Principal :=
  (scene.store.get? (userKey "ada")).bind Record.parse?

theorem progress_of_grants {scene : Moment} {call : Fin 2} (granted : grants scene call = true) :
    scene.progress call = .ended (Outcome.granted "ada" true) := by
  unfold grants at granted
  split at granted
  · rename_i outcome ended
    rw [ended, of_decide_eq_true granted]
  · cases granted

theorem progress_of_setsNext {scene : Moment} {call : Fin 2} (sets : setsNext scene call = true) :
    ∃ value next, scene.progress call = .running (.ask (.set (userKey "ada") value) next) := by
  unfold setsNext at sets
  split at sets
  · rename_i key value next runs
    obtain rfl : key = userKey "ada" := of_decide_eq_true sets
    exact ⟨value, next, runs⟩
  · cases sets

theorem holds_of_record? {scene : Moment} {principal : Principal}
    (isRecord : record? scene = some principal) :
    scene.store.Holds (userKey "ada") principal := by
  obtain ⟨json, found, parsed⟩ := Option.bind_eq_some_iff.1 isRecord
  exact ⟨json, found, parsed⟩

/-- Nobody has written at Ada's key. -/
def spared (events : List (Interleaving.Event (Fin 2))) : Bool :=
  events.all fun event =>
    match event with
    | .asks _ question => !question.writesAt (userKey "ada")
    | _ => true

/-- The first submission has arrived. -/
def submitted : Moment := (Scene.start store : Moment).advance 0 (.running steps)

theorem namesAgree_store : NamesAgree store := by
  have history : History issuer [.operation (.createPrincipal ada)] store :=
    .operate .start (Dialogue.ends_run Store.mayReply_answer _ _)
  exact history.namesAgree

/-- The first submission looks, and looks again under the lock. -/
theorem exists_follow_first : ∃ look middle between last,
    submitted.next? (fun _ => steps) 0 = some (.asks 0 look, middle) ∧
      follow? (fun _ => steps) [] middle [0, 0] = some (between, last) ∧
      setsNext last 0 = true ∧ spared between = true := by
  obtain ⟨look, middle, looks, checked⟩ : ∃ look middle,
      submitted.next? (fun _ => steps) 0 = some (.asks 0 look, middle) ∧
        ((follow? (fun _ => steps) [] middle [0, 0]).any fun reached =>
          setsNext reached.2 0 && spared reached.1) = true :=
    ⟨_, _, rfl, by decide +kernel⟩
  obtain ⟨⟨between, last⟩, followed, reached⟩ := (Option.any_eq_true _ _).1 checked
  obtain ⟨sets, untouched⟩ := Bool.and_eq_true_iff.1 reached
  exact ⟨look, middle, between, last, looks, followed, sets, untouched⟩

/-- The record that it replaces is one with a pending reset. -/
theorem replaced_record_is_pending_ada : ∃ between last,
    (∃ middle, Run Store.Answers (visits issuer calls) middle between last) ∧
      (∃ value next, last.progress 0 = .running (.ask (.set (userKey "ada") value) next)) ∧
      ∃ principal : Principal, last.store.Holds (userKey "ada") principal ∧
        principal.enabled = true ∧ principal.resetPending chosen = true := by
  obtain ⟨look, middle, between, last, looks, followed, sets, untouched⟩ := exists_follow_first
  obtain ⟨value, next, runs⟩ := progress_of_setsNext sets
  have begun : submitted.progress 0 = .running (visits issuer calls 0) := by
    rw [visits_eq]
    exact Scene.progress_advance_self ..
  have run : Run Store.Answers (visits issuer calls) middle between last :=
    visits_eq ▸ run_of_follow? .here followed
  have looks : Step Store.Answers (visits issuer calls) submitted (.asks 0 look) middle :=
    visits_eq ▸ step_of_next? looks
  refine ⟨between, last, ⟨middle, run⟩, ⟨value, next, runs⟩, ?_⟩
  have writes : Step Store.Answers (visits issuer calls) last
      (.asks 0 (.set (userKey "ada") value)) _ :=
    .asks runs rfl rfl
  have isSubmission : calls 0 = .submission form chosen id := rfl
  refine replaced_record_is_pending Store.sound_answers namesAgree_store isSubmission begun looks
    run writes fun other question isMember => ?_
  have spares := List.all_eq_true.1 untouched _ isMember
  exact Bool.not_eq_true' _ ▸ spares

/-- Both have looked before the first one sets the password, and then the second one does. -/
theorem exists_follow : ∃ past before later scene,
    follow? (fun _ => steps) [] (.start store : Moment) [0, 1, 0, 1, 0, 0, 0, 0, 0, 1, 1] =
        some (past, before) ∧
      setsNext before 1 = true ∧ record? before = some (ada.withCredential "new") ∧
      follow? (fun _ => steps) [] before [1, 1, 1] = some (later, scene) ∧
      grants scene 0 = true ∧ grants scene 1 = true := by
  have checked : ((follow? (fun _ => steps) [] (.start store : Moment)
      [0, 1, 0, 1, 0, 0, 0, 0, 0, 1, 1]).any fun reached =>
        setsNext reached.2 1 && (record? reached.2 = some (ada.withCredential "new")) &&
          (follow? (fun _ => steps) [] reached.2 [1, 1, 1]).any fun ended =>
            grants ended.2 0 && grants ended.2 1) = true := by
    decide +kernel
  obtain ⟨⟨past, before⟩, first, checked⟩ := (Option.any_eq_true _ _).1 checked
  obtain ⟨reached, checked⟩ := Bool.and_eq_true_iff.1 checked
  obtain ⟨sets, record⟩ := Bool.and_eq_true_iff.1 reached
  obtain ⟨⟨later, scene⟩, last, granted⟩ := (Option.any_eq_true _ _).1 checked
  obtain ⟨grantedFirst, grantedSecond⟩ := Bool.and_eq_true_iff.1 granted
  exact ⟨past, before, later, scene, first, sets, of_decide_eq_true record, last, grantedFirst,
    grantedSecond⟩

/-- Both are granted access, although no reset is pending any more when the second one sets the
password. -/
theorem both_granted : ∃ past before later scene,
    Run Store.Answers (visits issuer calls) (.start store) past before ∧
      (∃ value next, before.progress 1 = .running (.ask (.set (userKey "ada") value) next)) ∧
      (∃ principal : Principal, before.store.Holds (userKey "ada") principal ∧
        principal.resetPending chosen = false) ∧
      Run Store.Answers (visits issuer calls) before later scene ∧ scene.Quiet ∧
      ∀ call, scene.progress call = .ended (Outcome.granted "ada" true) := by
  obtain ⟨past, before, later, scene, first, sets, record, last, grantedFirst, grantedSecond⟩ :=
    exists_follow
  have ended (call : Fin 2) : scene.progress call = .ended (Outcome.granted "ada" true) := by
    match call with
    | 0 => exact progress_of_grants grantedFirst
    | 1 => exact progress_of_grants grantedSecond
  exact ⟨past, before, later, scene, visits_eq ▸ run_of_follow? .here first,
    progress_of_setsNext sets, ⟨_, holds_of_record? record, rfl⟩,
    visits_eq ▸ run_of_follow? .here last, Scene.quiet_of_ended fun call => ⟨_, ended call⟩, ended⟩

end Rivals

end Gatehouse.Access
