import Gatehouse.Directory.Operations
import Gatehouse.Proofs.Dialogue
/-!
# How operations on the directory may end

The building blocks of the directory, one law each, for any store that answers as `reply` says.
-/

namespace Gatehouse.Directory

variable {σ α β : Type} {reply : σ → (call : StoreCall) → call.Answer → σ → Prop} {state after : σ}

theorem ends_finish {value : α} {result : Except DirectoryError α} :
    (finish value).Ends reply state result after ↔ result = .ok value ∧ after = state :=
  Dialogue.ends_done

/-- An operation that goes on with the result of another ends with its error or goes on. -/
theorem ends_andThen {op : Op α} {next : α → Op β} {result : Except DirectoryError β} :
    (andThen op next).Ends reply state result after ↔
      (∃ error, op.Ends reply state (.error error) after ∧ result = .error error) ∨
        ∃ value middle, op.Ends reply state (.ok value) middle ∧
          (next value).Ends reply middle result after := by
  rw [andThen, Dialogue.ends_bind]
  constructor
  · rintro ⟨found, middle, first, second⟩
    cases found with
    | error error =>
        cases second
        exact .inl ⟨error, first, rfl⟩
    | ok value => exact .inr ⟨value, middle, first, second⟩
  · rintro (⟨error, first, rfl⟩ | ⟨value, middle, first, second⟩)
    · exact ⟨.error error, after, first, .done _ _⟩
    · exact ⟨.ok value, middle, first, second⟩

variable [Record α] {key : String}

/-- A record is read from an answer that is its document. -/
theorem decode?_answered_eq_some {answer : Except StoreError (Option Json)} {record : α} :
    (answered answer).bind (decode? key) = .ok (some record) ↔
      ∃ json, answer = .ok (some json) ∧ Record.parse? json = some record := by
  constructor
  · intro found
    cases answer with
    | error cause => cases found
    | ok held =>
        cases held with
        | none => cases found
        | some json =>
            refine ⟨json, rfl, ?_⟩
            change (decode key json).map some = Except.ok (some record) at found
            unfold decode at found
            cases parsed : (Record.parse? json : Option α) with
            | none =>
                rw [parsed] at found
                cases found
            | some other =>
                rw [parsed] at found
                cases found
                rfl
  · rintro ⟨json, rfl, parsed⟩
    change (decode key json).map some = Except.ok (some record)
    rw [decode, parsed]
    rfl

/-- A record is read where the store answers with its document. -/
theorem ends_read_some {record : α} :
    (read key).Ends reply state (.ok (some record)) after ↔
      ∃ json, reply state (.get key) (.ok (some json)) after ∧
        Record.parse? json = some record := by
  constructor
  · intro ended
    obtain ⟨answer, middle, replied, last⟩ := Dialogue.ends_ask.1 ended
    obtain ⟨found, rfl⟩ := Dialogue.ends_done.1 last
    obtain ⟨json, rfl, parsed⟩ := decode?_answered_eq_some.1 found.symm
    exact ⟨json, replied, parsed⟩
  · rintro ⟨json, replied, parsed⟩
    exact .ask replied
      (Dialogue.ends_done.2 ⟨(decode?_answered_eq_some.2 ⟨json, rfl, parsed⟩).symm, rfl⟩)

end Gatehouse.Directory
