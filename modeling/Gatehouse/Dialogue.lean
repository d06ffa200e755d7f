/-!
# Computations that ask the world outside

A `Dialogue` is a computation that may put questions to something outside the program (a store, a
packet filter, a random source) and goes on with each answer.  It is a value: nothing is asked
until somebody answers.  One dialogue can therefore be run against a scripted partner, against a
model of the real one, against a partner that fails whenever it likes, or step by step between the
steps of other dialogues.
-/

namespace Gatehouse

universe u v

/-- A computation of an `α` over questions `Q`, where `A q` is the type of the answers to `q`. -/
inductive Dialogue (Q : Type) (A : Q → Type) (α : Type u) : Type u where
  /-- The computation has ended. -/
  | done (value : α)
  /-- The computation waits for the answer to `question`. -/
  | ask (question : Q) (next : A question → Dialogue Q A α)

namespace Dialogue

variable {Q P : Type} {A : Q → Type} {B : P → Type} {α β σ : Type}

/-- Go on with `next` once `dialogue` has ended. -/
def bind (dialogue : Dialogue Q A α) (next : α → Dialogue Q A β) : Dialogue Q A β :=
  match dialogue with
  | .done value => next value
  | .ask question continuation => .ask question fun answer => (continuation answer).bind next

instance : Monad (Dialogue Q A) where
  pure := .done
  bind := bind

/-- Ask one question and end with its answer. -/
def question (q : Q) : Dialogue Q A (A q) := .ask q .done

/-- Answer every question of a dialogue by a dialogue over other questions. -/
def relay (answer : (q : Q) → Dialogue P B (A q)) : Dialogue Q A α → Dialogue P B α
  | .done value => .done value
  | .ask q next => (answer q).bind fun reply => (next reply).relay answer

/-- Answer every question of a dialogue by a dialogue over other questions, with a state `σ` that is
handed on from answer to answer. -/
def interpret (answer : σ → (q : Q) → Dialogue P B (A q × σ)) :
    Dialogue Q A α → σ → Dialogue P B (α × σ)
  | .done value, state => .done (value, state)
  | .ask q next, state =>
      (answer state q).bind fun reply => (next reply.1).interpret answer reply.2

/-- Run a dialogue against a partner with state `σ`. -/
def run (answer : σ → (q : Q) → A q × σ) : Dialogue Q A α → σ → α × σ
  | .done value, state => (value, state)
  | .ask q next, state => (next (answer state q).1).run answer (answer state q).2

/-! ## Laws of sequences and of runs -/

@[simp] theorem bind_done (value : α) (next : α → Dialogue Q A β) :
    (Dialogue.done value).bind next = next value := rfl

@[simp] theorem bind_ask (q : Q) (continuation : A q → Dialogue Q A α)
    (next : α → Dialogue Q A β) :
    (Dialogue.ask q continuation).bind next =
      .ask q fun answer => (continuation answer).bind next := rfl

@[simp] theorem run_done (answer : σ → (q : Q) → A q × σ) (value : α) (state : σ) :
    (Dialogue.done value).run answer state = (value, state) := rfl

theorem run_bind (answer : σ → (q : Q) → A q × σ) (dialogue : Dialogue Q A α)
    (next : α → Dialogue Q A β) (state : σ) :
    (dialogue.bind next).run answer state =
      (next (dialogue.run answer state).1).run answer (dialogue.run answer state).2 := by
  induction dialogue generalizing state with
  | done value => rfl
  | ask q continuation ih => exact ih _ _

/-- A relayed dialogue runs as the dialogue itself does against a partner that puts the questions
on. -/
theorem run_relay (answer : (q : Q) → Dialogue P B (A q)) (partner : σ → (p : P) → B p × σ)
    (dialogue : Dialogue Q A α) (state : σ) :
    (dialogue.relay answer).run partner state =
      dialogue.run (fun state q => (answer q).run partner state) state := by
  induction dialogue generalizing state with
  | done value => rfl
  | ask q next ih => exact (run_bind partner _ _ state).trans (ih _ _)

instance : LawfulMonad (Dialogue Q A) := LawfulMonad.mk' (Dialogue Q A)
  (fun dialogue => by
    induction dialogue with
    | done value => rfl
    | ask q continuation ih => exact congrArg (Dialogue.ask q) (funext ih))
  (fun _ _ => rfl)
  (fun dialogue _ _ => by
    induction dialogue with
    | done value => rfl
    | ask q continuation ih => exact congrArg (Dialogue.ask q) (funext ih))

end Dialogue

end Gatehouse
