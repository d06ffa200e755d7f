import Gatehouse.Proofs.Interleaving.Run
/-!
# What runs keep

A property of the store is kept by a run when the questions of its calls keep it, whatever the other
calls do in between.  Calls that look and then write under the lock keep it from any moment on at
which they do not hold the lock, because then they have not looked yet.
-/

namespace Gatehouse

namespace StoreCall

/-- Whether a call that has asked the question has the lock in its hands afterwards. -/
def heldAfter (held : Bool) : StoreCall → Bool
  | .lock => true
  | .unlock => false
  | _ => held

theorem heldAfter_of_plain {question : StoreCall} (isPlain : question.plain = true) (held : Bool) :
    question.heldAfter held = held := by
  cases question <;> first | rfl | cases isPlain

end StoreCall

namespace Interleaving

/-! ## Calls with the lock and without -/

section

variable {β γ : Type}

/-- The visit gives back only the lock that it has, it does so before it ends, and what is left of
it has a property whenever it does not have the lock. -/
inductive Careful (Free : Visit β → Prop) : (held : Bool) → Visit β → Prop where
  | done (result : β) : Careful Free false (.done result)
  | ask {held : Bool} {question : StoreCall} {next : question.Answer → Visit β}
      (free : held = false → Free (.ask question next))
      (returns : question = .unlock → held = true)
      (rest : ∀ answer, Careful Free (question.heldAfter held) (next answer)) :
      Careful Free held (.ask question next)

variable {Free : Visit β → Prop}

theorem Careful.mono {Wider : Visit β → Prop} {held : Bool} {visit : Visit β}
    (careful : Careful Free held visit) (wider : ∀ visit, Free visit → Wider visit) :
    Careful Wider held visit := by
  induction careful with
  | done result => exact .done result
  | ask free returns _ ih => exact .ask (fun isFree => wider _ (free isFree)) returns ih

/-- What is done with the result does not matter. -/
theorem Careful.bind_done {Wider : Visit γ → Prop} {held : Bool} {visit : Visit β}
    {finish : β → Visit γ} (careful : Careful Free held visit)
    (ends : ∀ result, ∃ last, finish result = .done last)
    (wider : ∀ visit, Free visit → Wider (visit.bind finish)) :
    Careful Wider held (visit.bind finish) := by
  induction careful with
  | done result =>
      obtain ⟨last, isDone⟩ := ends result
      rw [Dialogue.bind_done, isDone]
      exact .done last
  | ask free returns _ ih => exact .ask (fun isFree => wider _ (free isFree)) returns ih

theorem Careful.eq_false_of_done {held : Bool} {result : β}
    (careful : Careful Free held (.done result)) : held = false := by
  cases careful
  rfl

theorem Careful.of_ask {held : Bool} {question : StoreCall} {next : question.Answer → Visit β}
    (careful : Careful Free held (.ask question next)) :
    (question = .unlock → held = true) ∧
      ∀ answer, Careful Free (question.heldAfter held) (next answer) := by
  cases careful with
  | ask _ returns rest => exact ⟨returns, rest⟩

theorem Careful.free {visit : Visit β} (careful : Careful Free false visit)
    (done : ∀ result, Free (.done result)) : Free visit := by
  cases careful with
  | done result => exact done result
  | ask free => exact free rfl

/-- Under the lock, questions are put about the contents of the store, and then it is given back. -/
theorem careful_under_lock {visit : Visit β}
    (plain : visit.Asks fun question => question.plain = true) :
    Careful Free true (visit.bind fun result => .ask .unlock fun _ => .done result) := by
  induction plain with
  | done result => exact .ask nofun (fun _ => rfl) fun _ => .done _
  | @ask question next isPlain _ ih =>
      refine .ask nofun (fun _ => rfl) fun answer => ?_
      rw [StoreCall.heldAfter_of_plain isPlain]
      exact ih answer

end

/-- How far a careful call has come, and whether it has the lock. -/
def InHand {β : Type} (Free : Visit β → Prop) (held : Bool) : Progress β → Prop
  | .waiting => held = false
  | .running rest => Careful Free held rest
  | .ended _ => held = false

/-- What a call still has to do has a property. -/
def Remains {β : Type} (visit : Visit β) (Property : Visit β → Prop) : Progress β → Prop
  | .waiting => Property visit
  | .running rest => Property rest
  | .ended _ => True

theorem Remains.mono {β : Type} {visit : Visit β} {Property Wider : Visit β → Prop}
    {progress : Progress β} (remains : Remains visit Property progress)
    (wider : ∀ rest, Property rest → Wider rest) : Remains visit Wider progress := by
  cases progress with
  | waiting => exact wider visit remains
  | running rest => exact wider rest remains
  | ended result => trivial

variable {ι : Type} {α : ι → Type} [DecidableEq ι]
  {reply : Store → (question : StoreCall) → question.Answer → Store → Prop}
  {visit : (call : ι) → Visit (α call)} {Free : (call : ι) → Visit (α call) → Prop}
  {scene first last : Scene α} {events : List (Event ι)}

/-- The calls that are under way are careful, and only such a call has the lock. -/
def Custody (Free : (call : ι) → Visit (α call) → Prop) (scene : Scene α) : Prop :=
  ∀ call, InHand (Free call) (decide (scene.holder = some call)) (scene.progress call)

theorem custody_start (store : Store) : Custody Free (.start store : Scene α) := fun _ => rfl

/-- Who else has the lock does not change when a careful call asks a question. -/
theorem holderAfter_eq_some {call other : ι} {holder : Option ι} {question : StoreCall}
    (admitted : question.admits holder = true)
    (returns : question = .unlock → decide (holder = some call) = true) (apart : other ≠ call) :
    question.holderAfter call holder = some other ↔ holder = some other := by
  cases question with
  | lock =>
      obtain rfl : holder = none := Option.isNone_iff_eq_none.1 admitted
      exact ⟨fun same => absurd (Option.some.inj same).symm apart, nofun⟩
  | unlock =>
      obtain rfl : holder = some call := of_decide_eq_true (returns rfl)
      exact ⟨nofun, fun same => absurd (Option.some.inj same).symm apart⟩
  | _ => exact Iff.rfl

theorem decide_holderAfter (question : StoreCall) (call : ι) (holder : Option ι) :
    decide (question.holderAfter call holder = some call) =
      question.heldAfter (decide (holder = some call)) := by
  cases question <;> first | exact decide_eq_true rfl | exact decide_eq_false nofun | rfl

/-- Every step of a careful call keeps the lock in custody. -/
theorem Custody.step {event : Event ι} (careful : ∀ call, Careful (Free call) false (visit call))
    (custody : Custody Free scene) (step : Step reply visit scene event last) :
    Custody Free last := by
  cases step with
  | @begins call waits =>
      have own := custody call
      rw [waits] at own
      refine (scene.forall_advance call _ fun other progress =>
        InHand (Free other) (decide (scene.holder = some other)) progress).2
          ⟨?_, fun other _ => custody other⟩
      change Careful _ (decide (scene.holder = some call)) _
      rw [own]
      exact careful call
  | @asks call question next answer store runs admitted replied =>
      have own := custody call
      rw [runs] at own
      obtain ⟨returns, rest⟩ := Careful.of_ask own
      refine (scene.forall_advance call _ fun other progress =>
        InHand (Free other) (decide (question.holderAfter call scene.holder = some other))
          progress).2 ⟨?_, fun other apart => ?_⟩
      · change Careful _ (decide (question.holderAfter call scene.holder = some call)) _
        rw [decide_holderAfter]
        exact rest answer
      -- The lock changes hands only with the call that asks, so all others stand as before.
      · rw [decide_eq_decide.2 (holderAfter_eq_some admitted returns apart)]
        exact custody other
  | @ends call result runs =>
      have own := custody call
      rw [runs] at own
      exact (scene.forall_advance call _ fun other progress =>
        InHand (Free other) (decide (scene.holder = some other)) progress).2
          ⟨Careful.eq_false_of_done own, fun other _ => custody other⟩

theorem Run.custody (careful : ∀ call, Careful (Free call) false (visit call))
    (run : Run reply visit first events last) (custody : Custody Free first) : Custody Free last :=
  run.invariant (fun custody step => custody.step careful step) custody

/-- When nobody has the lock, what careful calls still have to do is free. -/
theorem Custody.remains {call : ι} (careful : Careful (Free call) false (visit call))
    (custody : Custody Free scene) (nobody : scene.holder = none)
    (done : ∀ result, Free call (.done result)) :
    Remains (visit call) (Free call) (scene.progress call) := by
  have own := custody call
  rw [nobody, decide_eq_false nofun] at own
  cases progress : scene.progress call with
  | waiting => exact careful.free done
  | running rest =>
      rw [progress] at own
      exact Careful.free own done
  | ended result => trivial

/-! ## Kept properties -/

variable {Invariant : Store → Prop} {watched : ι → Prop}

/-- The store has a property, and some calls keep it with whatever they still have to do. -/
structure Kept (reply : Store → (question : StoreCall) → question.Answer → Store → Prop)
    (visit : (call : ι) → Visit (α call)) (Invariant : Store → Prop) (watched : ι → Prop)
    (scene : Scene α) : Prop where
  holds : Invariant scene.store
  upheld : ∀ call, watched call →
    Remains (visit call) (Dialogue.Upholds reply Invariant) (scene.progress call)

/-- A step keeps the property unless another call puts a question. -/
theorem Kept.step {event : Event ι} (kept : Kept reply visit Invariant watched scene)
    (step : Step reply visit scene event last)
    (only : ∀ call question, event = .asks call question → watched call) :
    Kept reply visit Invariant watched last := by
  have remains {call : ι} {progress : Progress (α call)}
      (own : watched call → Remains (visit call) (Dialogue.Upholds reply Invariant) progress) :
      ∀ other, watched other → Remains (visit other) (Dialogue.Upholds reply Invariant)
        ((scene.advance call progress).progress other) :=
    (scene.forall_advance call progress fun other progress => watched other →
      Remains (visit other) (Dialogue.Upholds reply Invariant) progress).2
        ⟨own, fun other _ => kept.upheld other⟩
  cases step with
  | @begins call waits =>
      have own := kept.upheld call
      rw [waits] at own
      exact ⟨kept.holds, remains own⟩
  | @asks call question next answer store runs admitted replied =>
      have own := kept.upheld call (only call question rfl)
      rw [runs] at own
      cases own with
      | ask keeps continues =>
          exact ⟨keeps kept.holds replied, remains fun _ => continues kept.holds replied⟩
  | @ends call result runs => exact ⟨kept.holds, remains fun _ => trivial⟩

/-- A run keeps the property unless another call puts a question. -/
theorem Run.kept (run : Run reply visit first events last)
    (kept : Kept reply visit Invariant watched first)
    (only : ∀ call question, .asks call question ∈ events → watched call) :
    Kept reply visit Invariant watched last := by
  induction run with
  | here => exact kept
  | step _ step ih =>
      refine (ih fun call question isMember => only call question (.tail _ isMember)).step step ?_
      rintro call question rfl
      exact only call question List.mem_cons_self

/-! ## One call -/

/-- What a call still has to do keeps a property that does not depend on the answers it gets. -/
theorem Remains.step {call : ι} {Property : Visit (α call) → Prop} {event : Event ι}
    (closed : ∀ {question : StoreCall} {next : question.Answer → Visit (α call)},
      Property (.ask question next) → ∀ answer, Property (next answer))
    (remains : Remains (visit call) Property (scene.progress call))
    (step : Step reply visit scene event last) :
    Remains (visit call) Property (last.progress call) := by
  have stays {mover : ι} {progress : Progress (α mover)} {moment : Scene α}
      (same : moment.progress = scene.progress) (apart : call ≠ mover) :
      Remains (visit call) Property ((moment.advance mover progress).progress call) := by
    rw [Scene.progress_advance_of_ne _ mover _ apart, same]
    exact remains
  cases step with
  | @begins mover waits =>
      by_cases same : call = mover
      · subst same
        rw [waits] at remains
        rw [Scene.progress_advance_self]
        exact remains
      · exact stays rfl same
  | @asks mover question next answer store runs admitted replied =>
      by_cases same : call = mover
      · subst same
        rw [runs] at remains
        rw [Scene.progress_advance_self]
        exact closed remains answer
      · exact stays rfl same
  | @ends mover result runs =>
      by_cases same : call = mover
      · subst same
        rw [Scene.progress_advance_self]
        trivial
      · exact stays rfl same

theorem Run.remains {call : ι} {Property : Visit (α call) → Prop}
    (closed : ∀ {question : StoreCall} {next : question.Answer → Visit (α call)},
      Property (.ask question next) → ∀ answer, Property (next answer))
    (run : Run reply visit first events last)
    (remains : Remains (visit call) Property (first.progress call)) :
    Remains (visit call) Property (last.progress call) := by
  induction run with
  | here => exact remains
  | step _ step ih => exact ih.step closed step

/-! ## One key -/

/-- What is at a key stays there while nobody writes at it. -/
theorem Run.get?_of_not_writesAt {key : String} (sound : Store.Sound reply)
    (run : Run reply visit first events last)
    (spared : ∀ call question, .asks call question ∈ events → question.writesAt key = false) :
    last.store.get? key = first.store.get? key := by
  induction run with
  | here => rfl
  | step _ step ih =>
      have same := ih fun call question isMember => spared call question (.tail _ isMember)
      cases step with
      | begins => exact same
      | @asks call question _ _ _ _ _ replied =>
          have spares := spared call question List.mem_cons_self
          exact (Store.get?_of_not_writesAt spares (sound.mayReply replied)).trans same
      | ends => exact same

end Interleaving

end Gatehouse
