import Gatehouse.Proofs.Dialogue
import Gatehouse.Proofs.Directory.Store
import Mathlib.Logic.Function.Basic
/-!
# Calls side by side

Calls that share one store and one lock run side by side: at any time any of them may take its next
step, and with a step it asks the store at most one question.  Only a call that asks for the lock
waits until nobody holds it.  A `Run` is such an interleaving.  With the store in memory the order
in which the calls take their steps determines the run, and `follow?` computes it.
-/

namespace Gatehouse

/-! ## Questions -/

namespace StoreCall

variable {ι : Type}

/-- Whether the question can be answered while somebody, or nobody, holds the lock. -/
def admits (holder : Option ι) : StoreCall → Bool
  | .lock => holder.isNone
  | _ => true

/-- Who holds the lock after a call has asked the question. -/
def holderAfter (call : ι) (holder : Option ι) : StoreCall → Option ι
  | .lock => some call
  | .unlock => none
  | _ => holder

end StoreCall

namespace Interleaving

/-! ## Scenes -/

/-- How far a call has come. -/
inductive Progress (α : Type) where
  | waiting
  | running (rest : Visit α)
  | ended (result : α)

/-- A moment in a run: the store, the call that holds the lock, and how far each call has come. -/
structure Scene {ι : Type} (α : ι → Type) where
  store : Store
  holder : Option ι
  progress : (call : ι) → Progress (α call)

/-- What happens in a run. -/
inductive Event (ι : Type) where
  | begins (call : ι)
  | asks (call : ι) (question : StoreCall)
  | ends (call : ι)

variable {ι : Type} {α : ι → Type}

namespace Scene

/-- The moment before the first call begins. -/
def start (store : Store) : Scene α := ⟨store, none, fun _ => .waiting⟩

/-- No call is under way. -/
def Quiet (scene : Scene α) : Prop := ∀ call rest, scene.progress call ≠ .running rest

theorem quiet_of_ended {scene : Scene α}
    (ended : ∀ call, ∃ result, scene.progress call = .ended result) : scene.Quiet := by
  intro call rest
  obtain ⟨result, isEnded⟩ := ended call
  rw [isEnded]
  nofun

/-- The call has ended, and not with an error. -/
def Succeeds {ε : Type} {β : ι → Type} (scene : Scene fun call => Except ε (β call)) (call : ι) :
    Prop :=
  ∃ value, scene.progress call = .ended (.ok value)

/-- The store has been asked a question and has changed. -/
def told (scene : Scene α) (call : ι) (question : StoreCall) (store : Store) : Scene α :=
  { scene with store := store, holder := question.holderAfter call scene.holder }

variable [DecidableEq ι]

/-- A call has come further. -/
def advance (scene : Scene α) (call : ι) (progress : Progress (α call)) : Scene α :=
  { scene with progress := Function.update scene.progress call progress }

variable (scene : Scene α) (call : ι) (progress : Progress (α call))

@[simp] theorem progress_advance_self :
    (scene.advance call progress).progress call = progress :=
  Function.update_self ..

/-- What holds of all calls when one of them has come further. -/
theorem forall_advance (P : (call : ι) → Progress (α call) → Prop) :
    (∀ other, P other ((scene.advance call progress).progress other)) ↔
      P call progress ∧ ∀ other, other ≠ call → P other (scene.progress other) :=
  Function.forall_update_iff scene.progress P

theorem progress_advance_of_ne {other : ι} (apart : other ≠ call) :
    (scene.advance call progress).progress other = scene.progress other :=
  Function.update_of_ne apart ..

end Scene

/-! ## Runs -/

section

variable [DecidableEq ι] (reply : Store → (question : StoreCall) → question.Answer → Store → Prop)
  (visit : (call : ι) → Visit (α call))

/-- One step of one call.  `reply` says which answers the store may give. -/
inductive Step : Scene α → Event ι → Scene α → Prop where
  | begins {scene : Scene α} {call : ι} (waits : scene.progress call = .waiting) :
      Step scene (.begins call) (scene.advance call (.running (visit call)))
  | asks {scene : Scene α} {call : ι} {question : StoreCall}
      {next : question.Answer → Visit (α call)} {answer : question.Answer} {store : Store}
      (runs : scene.progress call = .running (.ask question next))
      (admitted : question.admits scene.holder = true)
      (replied : reply scene.store question answer store) :
      Step scene (.asks call question)
        ((scene.told call question store).advance call (.running (next answer)))
  | ends {scene : Scene α} {call : ι} {result : α call}
      (runs : scene.progress call = .running (.done result)) :
      Step scene (.ends call) (scene.advance call (.ended result))

/-- The steps from one moment to another, with what has happened in between, the latest first. -/
inductive Run (first : Scene α) : List (Event ι) → Scene α → Prop where
  | here : Run first [] first
  | step {events : List (Event ι)} {middle last : Scene α} {event : Event ι}
      (past : Run first events middle) (step : Step reply visit middle event last) :
      Run first (event :: events) last

end

variable [DecidableEq ι] {reply : Store → (question : StoreCall) → question.Answer → Store → Prop}
  {visit : (call : ι) → Visit (α call)} {first last : Scene α} {events : List (Event ι)}

/-- What every step keeps holds all along. -/
theorem Run.invariant {Invariant : Scene α → Prop}
    (keeps : ∀ {scene event next}, Invariant scene → Step reply visit scene event next →
      Invariant next)
    (run : Run reply visit first events last) (holds : Invariant first) : Invariant last := by
  induction run with
  | here => exact holds
  | step _ step ih => exact keeps ih step

/-- A run is one with a store that has more answers. -/
theorem Run.mono {wider : Store → (question : StoreCall) → question.Answer → Store → Prop}
    (more : ∀ {store question answer after}, reply store question answer after →
      wider store question answer after)
    (run : Run reply visit first events last) : Run wider visit first events last := by
  induction run with
  | here => exact .here
  | step _ step ih =>
      refine .step ih ?_
      cases step with
      | begins waits => exact .begins waits
      | asks runs admitted replied => exact .asks runs admitted (more replied)
      | ends runs => exact .ends runs

/-- One call has ended before another begins. -/
def Precedes (events : List (Event ι)) (earlier later : ι) : Prop :=
  ∃ after before, events = after ++ .begins later :: before ∧ .ends earlier ∈ before

omit [DecidableEq ι] in
theorem precedes_cons {event : Event ι} {earlier later : ι} :
    Precedes (event :: events) earlier later ↔
      event = .begins later ∧ .ends earlier ∈ events ∨ Precedes events earlier later := by
  constructor
  · rintro ⟨_ | ⟨head, after⟩, before, split, hasEnded⟩
    · obtain ⟨rfl, rfl⟩ := List.cons.inj split
      exact .inl ⟨rfl, hasEnded⟩
    · exact .inr ⟨after, before, (List.cons.inj split).2, hasEnded⟩
  · rintro (⟨rfl, hasEnded⟩ | ⟨after, before, rfl, hasEnded⟩)
    · exact ⟨[], events, rfl, hasEnded⟩
    · exact ⟨event :: after, before, rfl, hasEnded⟩

/-! ## Schedules -/

/-- The next step of a call with the store in memory, unless the call waits for the lock or has
ended. -/
def Scene.next? (visit : (call : ι) → Visit (α call)) (scene : Scene α) (call : ι) :
    Option (Event ι × Scene α) :=
  match scene.progress call with
  | .waiting => some (.begins call, scene.advance call (.running (visit call)))
  | .running (.ask question next) =>
      if question.admits scene.holder then
        let reply := scene.store.answer question
        some (.asks call question,
          (scene.told call question reply.2).advance call (.running (next reply.1)))
      else none
  | .running (.done result) => some (.ends call, scene.advance call (.ended result))
  | .ended _ => none

/-- Let calls take their next steps in the given order, after the given events. -/
def follow? (visit : (call : ι) → Visit (α call)) (events : List (Event ι)) (scene : Scene α) :
    List ι → Option (List (Event ι) × Scene α)
  | [] => some (events, scene)
  | call :: rest => do
      let (event, next) ← scene.next? visit call
      follow? visit (event :: events) next rest

theorem step_of_next? {scene next : Scene α} {call : ι} {event : Event ι}
    (taken : scene.next? visit call = some (event, next)) :
    Step Store.Answers visit scene event next := by
  unfold Scene.next? at taken
  split at taken
  · rename_i waits
    cases taken
    exact .begins waits
  · rename_i question _ runs
    split at taken
    · rename_i admitted
      cases taken
      exact .asks runs admitted rfl
    · cases taken
  · rename_i runs
    cases taken
    exact .ends runs
  · cases taken

/-- A schedule leads along a run. -/
theorem run_of_follow? {scene : Scene α} {schedule : List ι} {all : List (Event ι)}
    (past : Run Store.Answers visit first events scene)
    (followed : follow? visit events scene schedule = some (all, last)) :
    Run Store.Answers visit first all last := by
  induction schedule generalizing events scene with
  | nil =>
      cases followed
      exact past
  | cons call rest ih =>
      obtain ⟨⟨event, next⟩, taken, followed⟩ := Option.bind_eq_some_iff.1 followed
      exact ih (.step past (step_of_next? taken)) followed

end Interleaving

end Gatehouse
