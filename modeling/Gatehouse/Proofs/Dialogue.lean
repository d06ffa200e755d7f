import Gatehouse.Dialogue
/-!
# How a dialogue may end

A partner need not be a function: it may fail whenever it likes, and its state may be changed by
others between two questions.  Such a partner is a relation that says which answers it may give and
which states it may be in afterwards.  `Ends` says how a dialogue with it may end.  The laws follow
the constructors and the ways to put dialogues together, so that a dialogue is taken apart by
rewriting.
-/

namespace Gatehouse.Dialogue

variable {Q P : Type} {A : Q → Type} {B : P → Type} {α β σ : Type}

/-- It does not matter how the parts of a sequence are put together. -/
theorem bind_bind {γ : Type} (dialogue : Dialogue Q A α) (next : α → Dialogue Q A β)
    (last : β → Dialogue Q A γ) :
    (dialogue.bind next).bind last = dialogue.bind fun value => (next value).bind last :=
  bind_assoc dialogue next last

/-- The dialogue may end with a value and leave its partner in another state, where `reply` says
which answers and states may follow a question. -/
inductive Ends (reply : σ → (q : Q) → A q → σ → Prop) : Dialogue Q A α → σ → α → σ → Prop where
  | done (value : α) (state : σ) : Ends reply (.done value) state value state
  | ask {q : Q} {next : A q → Dialogue Q A α} {result : α} {state middle after : σ} {answer : A q}
      (replied : reply state q answer middle)
      (rest : Ends reply (next answer) middle result after) :
      Ends reply (.ask q next) state result after

variable {reply : σ → (q : Q) → A q → σ → Prop}

theorem ends_done {value result : α} {state after : σ} :
    (Dialogue.done value : Dialogue Q A α).Ends reply state result after ↔
      result = value ∧ after = state := by
  constructor
  · rintro ⟨⟩
    exact ⟨rfl, rfl⟩
  · rintro ⟨rfl, rfl⟩
    exact .done _ _

theorem ends_ask {q : Q} {next : A q → Dialogue Q A α} {result : α} {state after : σ} :
    (Dialogue.ask q next).Ends reply state result after ↔
      ∃ answer middle, reply state q answer middle ∧
        (next answer).Ends reply middle result after := by
  constructor
  · intro ended
    cases ended with
    | ask replied rest => exact ⟨_, _, replied, rest⟩
  · rintro ⟨answer, middle, replied, rest⟩
    exact .ask replied rest

theorem ends_question {q : Q} {answer : A q} {state after : σ} :
    (question q).Ends reply state answer after ↔ reply state q answer after := by
  constructor
  · intro ended
    cases ended with
    | ask replied rest =>
        cases rest
        exact replied
  · intro replied
    exact .ask replied (.done _ _)

/-- A sequence ends when its first part ends and the second part ends from there. -/
theorem ends_bind {dialogue : Dialogue Q A α} {next : α → Dialogue Q A β} {result : β}
    {state after : σ} :
    (dialogue.bind next).Ends reply state result after ↔
      ∃ value middle, dialogue.Ends reply state value middle ∧
        (next value).Ends reply middle result after := by
  induction dialogue generalizing state with
  | done value =>
      constructor
      · intro ended
        exact ⟨value, state, .done _ _, ended⟩
      · rintro ⟨_, _, ⟨⟩, ended⟩
        exact ended
  | ask q continuation ih =>
      rw [bind_ask, ends_ask]
      constructor
      · rintro ⟨answer, between, replied, ended⟩
        obtain ⟨value, middle, first, second⟩ := (ih answer).1 ended
        exact ⟨value, middle, .ask replied first, second⟩
      · rintro ⟨value, middle, begun, second⟩
        obtain ⟨answer, between, replied, first⟩ := ends_ask.1 begun
        exact ⟨answer, between, replied, (ih answer).2 ⟨value, middle, first, second⟩⟩

/-- A relayed dialogue ends as the dialogue itself does with a partner that puts the questions
on. -/
theorem ends_relay {reply : σ → (p : P) → B p → σ → Prop} {answer : (q : Q) → Dialogue P B (A q)}
    {dialogue : Dialogue Q A α} {result : α} {state after : σ} :
    (dialogue.relay answer).Ends reply state result after ↔
      dialogue.Ends (fun state q given after => (answer q).Ends reply state given after)
        state result after := by
  induction dialogue generalizing state with
  | done value => rw [relay, ends_done, ends_done]
  | ask q next ih =>
      rw [relay, ends_bind, ends_ask]
      constructor
      · rintro ⟨given, middle, replied, ended⟩
        exact ⟨given, middle, replied, (ih given).1 ended⟩
      · rintro ⟨given, middle, replied, ended⟩
        exact ⟨given, middle, replied, (ih given).2 ended⟩

/-- An interpreted dialogue ends as the dialogue itself does with a partner that keeps both
states. -/
theorem ends_interpret {τ : Type} {reply : σ → (p : P) → B p → σ → Prop}
    {answer : τ → (q : Q) → Dialogue P B (A q × τ)} {dialogue : Dialogue Q A α} {result : α}
    {inner innerAfter : τ} {state after : σ} :
    (dialogue.interpret answer inner).Ends reply state (result, innerAfter) after ↔
      dialogue.Ends
        (fun (states : τ × σ) q given (next : τ × σ) =>
          (answer states.1 q).Ends reply states.2 (given, next.1) next.2)
        (inner, state) result (innerAfter, after) := by
  induction dialogue generalizing inner state with
  | done value => simp only [interpret, ends_done, Prod.mk.injEq, and_assoc]
  | ask q next ih =>
      rw [interpret, ends_bind, ends_ask]
      constructor
      · rintro ⟨⟨given, kept⟩, middle, replied, ended⟩
        exact ⟨given, (kept, middle), replied, (ih given).1 ended⟩
      · rintro ⟨given, ⟨kept, middle⟩, replied, ended⟩
        exact ⟨(given, kept), middle, replied, (ih given).2 ended⟩

/-- With a partner that answers by a function, the dialogue may end as it runs. -/
theorem ends_run {answer : σ → (q : Q) → A q × σ}
    (replies : ∀ state q, reply state q (answer state q).1 (answer state q).2)
    (dialogue : Dialogue Q A α) (state : σ) :
    dialogue.Ends reply state (dialogue.run answer state).1 (dialogue.run answer state).2 := by
  induction dialogue generalizing state with
  | done value => exact .done value state
  | ask q next ih => exact .ask (replies state q) (ih _ _)

/-- With a partner that gives one answer to every question, the dialogue ends as it runs. -/
theorem ends_iff_run {answer : σ → (q : Q) → A q × σ} {dialogue : Dialogue Q A α} {state after : σ}
    {result : α} :
    dialogue.Ends (fun state q given next => (given, next) = answer state q) state result after ↔
      (result, after) = dialogue.run answer state := by
  constructor
  · intro ended
    induction ended with
    | done value state => rfl
    | ask replied _ ih =>
        rw [run, ← replied]
        exact ih
  · intro same
    have ended : dialogue.Ends (fun state q given next => (given, next) = answer state q) state
        (dialogue.run answer state).1 (dialogue.run answer state).2 :=
      ends_run (fun _ _ => rfl) dialogue state
    rwa [← same] at ended

/-- A dialogue ends with a partner as it may end with one that has more answers. -/
theorem Ends.mono {wider : σ → (q : Q) → A q → σ → Prop}
    (more : ∀ {state q answer after}, reply state q answer after → wider state q answer after)
    {dialogue : Dialogue Q A α} {state after : σ} {result : α}
    (ended : dialogue.Ends reply state result after) : dialogue.Ends wider state result after := by
  induction ended with
  | done value state => exact .done value state
  | ask replied _ ih => exact .ask (more replied) ih

/-- What every answer preserves is preserved by the whole dialogue. -/
theorem Ends.preserves (Invariant : σ → σ → Prop) (keeps : ∀ state, Invariant state state)
    (chains : ∀ {first second third}, Invariant first second → Invariant second third →
      Invariant first third)
    (step : ∀ {state q answer after}, reply state q answer after → Invariant state after)
    {dialogue : Dialogue Q A α} {state after : σ} {result : α}
    (ended : dialogue.Ends reply state result after) : Invariant state after := by
  induction ended with
  | done value state => exact keeps state
  | ask replied rest ih => exact chains (step replied) ih

/-! ## Dialogues in progress -/

/-- The dialogue may come to a point where `rest` is still to be done, and have left its partner in
another state. -/
inductive Leads (reply : σ → (q : Q) → A q → σ → Prop) :
    Dialogue Q A α → σ → Dialogue Q A α → σ → Prop where
  | here (dialogue : Dialogue Q A α) (state : σ) : Leads reply dialogue state dialogue state
  | ask {q : Q} {next : A q → Dialogue Q A α} {rest : Dialogue Q A α} {state middle after : σ}
      {answer : A q} (replied : reply state q answer middle)
      (led : Leads reply (next answer) middle rest after) :
      Leads reply (.ask q next) state rest after

theorem Leads.trans {dialogue rest last : Dialogue Q A α} {state middle after : σ}
    (first : dialogue.Leads reply state rest middle) (second : rest.Leads reply middle last after) :
    dialogue.Leads reply state last after := by
  induction first with
  | here dialogue state => exact second
  | ask replied _ ih => exact .ask replied (ih second)

/-- A dialogue in progress goes on with the answer to its next question. -/
theorem Leads.next {dialogue : Dialogue Q A α} {q : Q} {next : A q → Dialogue Q A α}
    {state middle after : σ} {answer : A q}
    (led : dialogue.Leads reply state (.ask q next) middle)
    (replied : reply middle q answer after) : dialogue.Leads reply state (next answer) after :=
  led.trans (.ask replied (.here _ _))

/-- What is left of a dialogue ends as the dialogue does. -/
theorem Leads.ends {dialogue rest : Dialogue Q A α} {state middle after : σ} {result : α}
    (led : dialogue.Leads reply state rest middle) (ended : rest.Ends reply middle result after) :
    dialogue.Ends reply state result after := by
  induction led with
  | here dialogue state => exact ended
  | ask replied _ ih => exact .ask replied (ih ended)

/-! ## Properties that dialogues keep -/

/-- A property of the partner's state survives the dialogue, however it ends. -/
def Keeps (reply : σ → (q : Q) → A q → σ → Prop) (Invariant : σ → Prop)
    (dialogue : Dialogue Q A α) : Prop :=
  ∀ state result after, Invariant state → dialogue.Ends reply state result after → Invariant after

variable {Invariant : σ → Prop}

theorem keeps_done (value : α) :
    (Dialogue.done value : Dialogue Q A α).Keeps reply Invariant := by
  rintro state result after holds ⟨⟩
  exact holds

theorem keeps_ask {q : Q} {next : A q → Dialogue Q A α}
    (step : ∀ state answer after, Invariant state → reply state q answer after → Invariant after)
    (rest : ∀ answer, (next answer).Keeps reply Invariant) :
    (Dialogue.ask q next).Keeps reply Invariant := by
  rintro state result after holds ended
  obtain ⟨answer, middle, replied, ended⟩ := ends_ask.1 ended
  exact rest answer middle result after (step state answer middle holds replied) ended

theorem keeps_bind {dialogue : Dialogue Q A α} {next : α → Dialogue Q A β}
    (first : dialogue.Keeps reply Invariant) (rest : ∀ value, (next value).Keeps reply Invariant) :
    (dialogue.bind next).Keeps reply Invariant := by
  rintro state result after holds ended
  obtain ⟨value, middle, begun, ended⟩ := ends_bind.1 ended
  exact rest value middle result after (first state value middle holds begun) ended

/-! ## Questions that dialogues put -/

/-- Whatever the answers are, the dialogue puts only questions of one kind. -/
inductive Asks (permitted : Q → Prop) : Dialogue Q A α → Prop where
  | done (value : α) : Asks permitted (.done value)
  | ask {q : Q} {next : A q → Dialogue Q A α} (first : permitted q)
      (rest : ∀ answer, Asks permitted (next answer)) : Asks permitted (.ask q next)

variable {permitted : Q → Prop}

theorem Asks.first {q : Q} {next : A q → Dialogue Q A α}
    (asks : (Dialogue.ask q next).Asks permitted) : permitted q := by
  cases asks with
  | ask first _ => exact first

theorem Asks.next {q : Q} {next : A q → Dialogue Q A α}
    (asks : (Dialogue.ask q next).Asks permitted) (answer : A q) :
    (next answer).Asks permitted := by
  cases asks with
  | ask _ rest => exact rest answer

theorem Asks.bind {dialogue : Dialogue Q A α} {next : α → Dialogue Q A β}
    (first : dialogue.Asks permitted) (rest : ∀ value, (next value).Asks permitted) :
    (dialogue.bind next).Asks permitted := by
  induction first with
  | done value => exact rest value
  | ask first _ ih => exact .ask first ih

/-! ## Values that dialogues may end with -/

/-- Whatever the answers are, the dialogue ends with a value that has a property. -/
inductive Yields (has : α → Prop) : Dialogue Q A α → Prop where
  | done {value : α} (holds : has value) : Yields has (.done value)
  | ask {q : Q} {next : A q → Dialogue Q A α} (rest : ∀ answer, Yields has (next answer)) :
      Yields has (.ask q next)

variable {has : β → Prop}

theorem yields_bind {dialogue : Dialogue Q A α} {next : α → Dialogue Q A β}
    (rest : ∀ value, (next value).Yields has) : (dialogue.bind next).Yields has := by
  induction dialogue with
  | done value => exact rest value
  | ask q continuation ih => exact .ask ih

theorem Yields.of_ends {dialogue : Dialogue Q A β} {result : β} {state after : σ}
    (yields : dialogue.Yields has) (ended : dialogue.Ends reply state result after) :
    has result := by
  induction ended with
  | done value state =>
      cases yields with
      | done holds => exact holds
  | ask replied rest ih =>
      cases yields with
      | ask rest => exact ih (rest _)

theorem Yields.mono {weaker : β → Prop} {dialogue : Dialogue Q A β} (yields : dialogue.Yields has)
    (weakens : ∀ value, has value → weaker value) : dialogue.Yields weaker := by
  induction yields with
  | done holds => exact .done (weakens _ holds)
  | ask _ ih => exact .ask ih

variable {holds : α → Prop} {dialogue : Dialogue Q A α}

/-- The second part may rely on what holds of the value of the first part. -/
theorem Yields.bind {next : α → Dialogue Q A β} (first : dialogue.Yields holds)
    (rest : ∀ value, holds value → (next value).Yields has) : (dialogue.bind next).Yields has := by
  induction first with
  | done isHeld => exact rest _ isHeld
  | ask _ ih => exact .ask ih

/-- Sequences are the same if their second parts are the same for all values that the first part may
end with. -/
theorem Yields.bind_congr {next other : α → Dialogue Q A β} (first : dialogue.Yields holds)
    (same : ∀ value, holds value → next value = other value) :
    dialogue.bind next = dialogue.bind other := by
  induction first with
  | done isHeld => exact same _ isHeld
  | ask _ ih => exact congrArg (Dialogue.ask _) (funext ih)

/-! ## Dialogues among others -/

/-- Every question keeps a property of the partner's state, even if the state is changed between two
questions, as long as it has the property. -/
inductive Upholds (reply : σ → (q : Q) → A q → σ → Prop) (Invariant : σ → Prop) :
    Dialogue Q A α → Prop where
  | done (value : α) : Upholds reply Invariant (.done value)
  | ask {q : Q} {next : A q → Dialogue Q A α}
      (step : ∀ {state answer after}, Invariant state → reply state q answer after →
        Invariant after)
      (rest : ∀ {state answer after}, Invariant state → reply state q answer after →
        Upholds reply Invariant (next answer)) :
      Upholds reply Invariant (.ask q next)

theorem Upholds.bind {dialogue : Dialogue Q A α} {next : α → Dialogue Q A β}
    (first : dialogue.Upholds reply Invariant)
    (rest : ∀ value, (next value).Upholds reply Invariant) :
    (dialogue.bind next).Upholds reply Invariant := by
  induction first with
  | done value => exact rest value
  | ask step _ ih => exact .ask step fun holds replied => ih holds replied

theorem Upholds.keeps {dialogue : Dialogue Q A α} (upholds : dialogue.Upholds reply Invariant) :
    dialogue.Keeps reply Invariant := by
  intro state result after holds ended
  induction ended with
  | done value state => exact holds
  | ask replied _ ih =>
      cases upholds with
      | ask step rest => exact ih (rest holds replied) (step holds replied)

/-- What no answer to a question of one kind can break is kept when only such questions are put. -/
theorem Asks.upholds {dialogue : Dialogue Q A α} (asks : dialogue.Asks permitted)
    (step : ∀ {q}, permitted q → ∀ {state answer after}, Invariant state →
      reply state q answer after → Invariant after) :
    dialogue.Upholds reply Invariant := by
  induction asks with
  | done value => exact .done value
  | ask first _ ih => exact .ask (step first) fun {_ answer _} _ _ => ih answer

end Gatehouse.Dialogue
