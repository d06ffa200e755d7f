import Gatehouse.Firewall.Error
import Gatehouse.Proofs.Dialogue
/-!
# Transcripts

A transcript holds commands with the replies to them, whatever these are.  The partner that takes
everything down gives any reply to any command, so that what holds of every end of a dialogue with
it holds whatever the programs do, and its last state says which commands were given.
-/

namespace Gatehouse.Firewall

/-- Commands with the replies to them, in order. -/
abbrev Transcript := List (Command × Reply)

namespace Transcript

/-- A command and the reply to it are taken down. -/
def Grows (past : Transcript) (command : Command) (reply : Reply) (now : Transcript) : Prop :=
  now = past ++ [(command, reply)]

/-- A command that is given is taken down with its reply, and the dialogue goes on from there. -/
theorem ends_ask_grows {α : Type} {command : Command} {next : Reply → Talk α} {result : α}
    {past now : Transcript} :
    ((ask command).bind next).Ends Grows past result now ↔
      ∃ reply, (next reply).Ends Grows (past ++ [(command, reply)]) result now := by
  rw [ask, Dialogue.bind_ask, Dialogue.ends_ask]
  constructor
  · rintro ⟨reply, _, rfl, ended⟩
    exact ⟨reply, ended⟩
  · rintro ⟨reply, ended⟩
    exact ⟨reply, _, rfl, ended⟩

/-- There is an entry that is marked, and none after it that is an end. -/
def Since (marked isEnd : Command × Reply → Prop) (transcript : Transcript) : Prop :=
  ∃ before entry after, transcript = before ++ entry :: after ∧ marked entry ∧
    ∀ later ∈ after, ¬ isEnd later

/-- Whether there is such an entry is decided by the last one, or else by those before it. -/
theorem since_append_singleton {marked isEnd : Command × Reply → Prop} {past : Transcript}
    {entry : Command × Reply} :
    Since marked isEnd (past ++ [entry]) ↔
      marked entry ∨ ¬ isEnd entry ∧ Since marked isEnd past := by
  constructor
  · rintro ⟨before, found, after, same, isMarked, none⟩
    rcases List.eq_nil_or_concat after with rfl | ⟨more, last, rfl⟩
    · obtain ⟨_, isLast⟩ := List.append_inj' same rfl
      cases isLast
      exact .inl isMarked
    · rw [List.concat_eq_append, ← List.cons_append, ← List.append_assoc] at same
      obtain ⟨rfl, isLast⟩ := List.append_inj' same rfl
      cases isLast
      refine .inr ⟨none _ (by simp), before, found, more, rfl, isMarked, fun later isMember => ?_⟩
      exact none later (by simp [isMember])
  · rintro (isMarked | ⟨noEnd, before, found, after, rfl, isMarked, none⟩)
    · exact ⟨past, entry, [], rfl, isMarked, List.forall_mem_nil _⟩
    · refine ⟨before, found, after ++ [entry], by simp, isMarked, ?_⟩
      exact List.forall_mem_append.2 ⟨none, List.forall_mem_singleton.2 noEnd⟩

end Transcript

end Gatehouse.Firewall
