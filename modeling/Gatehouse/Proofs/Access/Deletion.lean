import Gatehouse.Proofs.Access.Calls
import Gatehouse.Proofs.Access.History
import Gatehouse.Proofs.Directory.Absence
/-!
# Principals that are removed

Removing a principal takes no lock.  When nobody has the lock at that moment, the principal stays
away until an operation adds it.  But an operation that has the lock may have looked before, and
then it writes the principal back.
-/

namespace Gatehouse.Access

open Directory (LeavesAbsent userKey)
open Interleaving

section

variable {issuer : Issuer} {form : Form} {now : Instant} {id : Uuid} {key name : String}

/-! ## The exchange -/

theorem Exchange.careful_look {user : String} {next : Option Principal → Exchange.Step}
    (rest : ∀ found, Careful (LeavesAbsent key) false (next found)) :
    Careful (LeavesAbsent key) false
      (Exchange.andThen (Directory.lookupPrincipal user) next) := by
  refine Directory.careful_ask rfl rfl fun answer => ?_
  change Careful _ false (Dialogue.bind (.done _) _)
  rw [Dialogue.bind_done]
  split
  · exact .done _
  · exact rest _

/-- Where a dialogue goes on to its end at once, nothing more is asked. -/
theorem careful_bind_done {β γ : Type} {visit : Visit β} {finish : β → Visit γ}
    (careful : Careful (LeavesAbsent key) false visit)
    (ends : ∀ result, ∃ last, finish result = .done last) :
    Careful (LeavesAbsent key) false (visit.bind finish) := by
  refine careful.bind_done ends fun visit leaves => leaves.bind fun result => ?_
  obtain ⟨last, isDone⟩ := ends result
  rw [isDone]
  exact .done last

theorem Exchange.careful_signIn :
    Careful (LeavesAbsent key) false (Exchange.signIn issuer form now id) := by
  refine careful_look ?_
  rintro (_ | principal)
  · exact .done _
  · dsimp only
    repeat' split
    all_goals exact .done _

theorem Exchange.careful_resetPassword :
    Careful (LeavesAbsent (userKey name)) false (Exchange.resetPassword issuer form now) := by
  unfold resetPassword
  dsimp only
  split
  · exact .done _
  split
  · exact .done _
  refine careful_look ?_
  rintro (_ | principal)
  · exact .done _
  dsimp only
  split
  · exact .done _
  split
  · exact .done _
  · have other : (Directory.Request.setCredential principal.name form.newPassword).creates name =
        false := rfl
    have sets : Careful (LeavesAbsent (userKey name)) false
        (Directory.setCredential principal.name form.newPassword) :=
      Directory.careful_perform other
    refine careful_bind_done sets ?_
    rintro (cause | _)
    · exact ⟨_, rfl⟩
    · exact ⟨_, rfl⟩

theorem Exchange.careful_run :
    Careful (LeavesAbsent (userKey name)) false (Exchange.run issuer form now id) := by
  unfold run
  split
  · exact careful_bind_done careful_signIn fun _ => ⟨_, rfl⟩
  split
  · exact careful_bind_done careful_resetPassword fun _ => ⟨_, rfl⟩
  · exact .done _

/-! ## All calls -/

/-- Whether a call is there to add the principal with a name. -/
def Call.adds (name : String) : Call → Bool
  | .operation request => request.creates name
  | .submission _ _ _ => false

/-- A call is careful with the lock, and it leaves a principal absent unless it is there to add
it. -/
theorem Call.careful (call : Call) :
    Careful (fun visit => call.adds name = false → LeavesAbsent (userKey name) visit) false
      (call.visit issuer) := by
  cases call with
  | submission form now id => exact Exchange.careful_run.mono fun _ leaves _ => leaves
  | operation request =>
      cases creates : request.creates name with
      | false => exact (Directory.careful_perform creates).mono fun _ leaves _ => leaves
      | true =>
          obtain ⟨principal, rfl, _⟩ := Directory.Request.exists_of_creates creates
          have orderly : Orderly False (Directory.createPrincipal principal) :=
            Directory.orderly_createPrincipal principal
          exact Directory.careful_of_orderly orderly fun other =>
            absurd creates (Bool.eq_false_iff.1 other)

variable {ι : Type} [DecidableEq ι] {calls : ι → Call}
  {reply : Store → (question : StoreCall) → question.Answer → Store → Prop} {first : Store}
  {earlier later : List (Interleaving.Event ι)}
  {middle last : Scene fun call => (calls call).Result}

/-- From a moment on at which nobody has the lock and a principal is not there, it stays away,
unless a call that is there to add it puts a question. -/
theorem stays_absent (sound : Store.Sound reply)
    (run : Run reply (visits issuer calls) (.start first) earlier middle)
    (nobody : middle.holder = none) (absent : middle.store.get? (userKey name) = none)
    (rest : Run reply (visits issuer calls) middle later last) :
    last.store.get? (userKey name) = none ∨
      ∃ call question, .asks call question ∈ later ∧ (calls call).adds name = true := by
  refine or_iff_not_imp_right.2 fun others => ?_
  have careful (call : ι) : Careful (fun visit => (calls call).adds name = false →
      LeavesAbsent (userKey name) visit) false (visits issuer calls call) :=
    (calls call).careful
  -- Nobody has the lock at this moment, so no call has looked yet and means to write.
  have custody := run.custody careful (custody_start first)
  have kept : Kept Store.MayReply (visits issuer calls)
      (fun store => store.get? (userKey name) = none) (fun call => (calls call).adds name = false)
      middle := by
    refine ⟨absent, fun call isWatched => ?_⟩
    have remains := custody.remains (careful call) nobody fun result _ => .done result
    exact remains.mono fun visit leaves => leaves isWatched
  refine ((rest.mono sound.mayReply).kept kept fun call question isMember => ?_).holds
  exact Bool.eq_false_iff.2 fun adds => others ⟨call, question, isMember, adds⟩

end

/-! ### A principal that comes back -/

namespace Removal

open Reset (issuer)

/-- Ada with her old password. -/
def store : Store :=
  SortedMap.empty.insert (userKey "ada") (Record.document (Principal.ofName "ada" "old"))

/-- A password is set for Ada while she is removed. -/
def calls : Fin 2 → Call
  | 0 => .operation (.setCredential "ada" "new")
  | 1 => .operation (.deletePrincipal "ada")

theorem not_adds (call : Fin 2) : (calls call).adds "ada" = false := by
  match call with
  | 0 => rfl
  | 1 => rfl

/-- Ada is removed before the other call takes the lock. -/
theorem exists_follow : ∃ earlier middle later last,
    follow? (visits issuer calls) [] (.start store) [0, 1, 1, 1] = some (earlier, middle) ∧
      middle.holder = none ∧ middle.store.get? (userKey "ada") = none ∧
      follow? (visits issuer calls) [] middle [0, 0, 0, 0] = some (later, last) ∧
      last.progress 0 = .ended (.error (Directory.noPrincipal "ada")) :=
  ⟨_, _, _, _, rfl, rfl, rfl, rfl, rfl⟩

/-- Then no password is set, and Ada stays away. -/
theorem stays_absent_ada : ∃ earlier middle later last,
    Run Store.Answers (visits issuer calls) (.start store) earlier middle ∧
      middle.holder = none ∧ middle.store.get? (userKey "ada") = none ∧
      Run Store.Answers (visits issuer calls) middle later last ∧
      last.progress 0 = .ended (.error (Directory.noPrincipal "ada")) ∧
      last.store.get? (userKey "ada") = none := by
  obtain ⟨earlier, middle, later, last, before, nobody, absent, after, failed⟩ := exists_follow
  have run := run_of_follow? .here before
  have rest := run_of_follow? .here after
  refine ⟨earlier, middle, later, last, run, nobody, absent, rest, failed, ?_⟩
  refine (stays_absent Store.sound_answers run nobody absent rest).resolve_right ?_
  rintro ⟨call, _, _, adds⟩
  rw [not_adds] at adds
  cases adds

/-- Ada is removed after the other call has looked and before it writes. -/
theorem exists_follow_between : ∃ events scene,
    follow? (visits issuer calls) [] (.start store) [0, 0, 0, 1, 1, 1, 0, 0, 0] =
        some (events, scene) ∧
      scene.progress 0 = .ended (.ok ()) ∧ scene.progress 1 = .ended (.ok ()) ∧
      scene.store.get? (userKey "ada") = some (Record.document (Principal.ofName "ada" "new")) :=
  ⟨_, _, rfl, rfl, rfl, rfl⟩

/-- Ada has been removed and is there again, although nobody has added her. -/
theorem not_always_absent : ∃ events scene,
    Run Store.Answers (visits issuer calls) (.start store) events scene ∧ scene.Quiet ∧
      calls 1 = .operation (.deletePrincipal "ada") ∧ scene.progress 1 = .ended (.ok ()) ∧
      scene.store.Holds (userKey "ada") (Principal.ofName "ada" "new") ∧
      ∀ call, (calls call).adds "ada" = false := by
  obtain ⟨events, scene, followed, hasSet, hasDeleted, found⟩ := exists_follow_between
  refine ⟨events, scene, run_of_follow? .here followed, Scene.quiet_of_ended fun call => ?_, rfl,
    hasDeleted, ?_, not_adds⟩
  · match call with
    | 0 => exact ⟨_, hasSet⟩
    | 1 => exact ⟨_, hasDeleted⟩
  · exact ⟨_, found, LawfulRecord.parse?_document _⟩

end Removal

end Gatehouse.Access
