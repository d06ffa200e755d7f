import Gatehouse.Proofs.Firewall.Iptables.Session
import Gatehouse.Proofs.Firewall.Nftables.Failures
import Gatehouse.Proofs.Firewall.Transcript
/-!
# Batches that stop part way

A backend without batches of its own allows rules one by one up to the first that is refused.  The
error then names the rules before that one, which stay allowed, and no command is given for the
rules behind it.  With iptables the rules owned afterwards are those owned before and those that
the error names.
-/

namespace Gatehouse.Firewall

open Dialogue Transcript

namespace Iptables

/-- Whatever the replies are, allowing a rule ends with the rule owned, or with an error and nothing
changed. -/
theorem yields_allow (session : Iptables) (rule : Rule) :
    (session.allow rule).Yields fun outcome =>
      outcome = (session.own rule, .ok ()) ∨ ∃ error, outcome = (session, .error error) := by
  unfold allow guarded
  split
  · exact .done (.inr ⟨_, rfl⟩)
  · split
    · exact .done (.inr ⟨_, rfl⟩)
    · rename_i validated
      obtain ⟨rfl, _⟩ := Rule.eq_of_validated validated
      simp only [ask, bind_ask, bind_done]
      refine .ask fun lookup => ?_
      cases presence lookup with
      | error error => exact .done (.inr ⟨error, rfl⟩)
      | ok present =>
          cases present with
          | true => exact .done (.inl rfl)
          | false =>
              refine .ask fun reply => ?_
              cases accepted reply with
              | error error => exact .done (.inr ⟨error, rfl⟩)
              | ok _ => exact .done (.inl rfl)

end Iptables

namespace Backend

/-- The backend applies a batch rule by rule. -/
def Sequential : Backend → Prop
  | .nftables _ => False
  | _ => True

theorem Sequential.allowAll_eq {backend : Backend} (sequential : backend.Sequential)
    (rules : List Rule) : backend.allowAll rules = backend.allowEach [] rules := by
  cases backend with
  | nftables session => exact sequential.elim
  | _ => rfl

theorem batchError_eq (applied : List Rule) (error : Error) :
    batchError applied error = if applied = [] then error else .partialBatch applied error := by
  cases applied <;> rfl

/-- Rules are allowed one after the other, each of them with success. -/
inductive AllowsEach : Backend → Transcript → List Rule → Backend → Transcript → Prop where
  | nil {backend : Backend} {past : Transcript} : AllowsEach backend past [] backend past
  | cons {backend middle last : Backend} {past between now : Transcript} {rule : Rule}
      {rest : List Rule} (allowed : (backend.allow rule).Ends Grows past (middle, .ok ()) between)
      (others : AllowsEach middle between rest last now) :
      AllowsEach backend past (rule :: rest) last now

variable {backend middle last : Backend} {past between now : Transcript}
  {applied done rules rest : List Rule} {outcome : Outcome Backend}

/-- Once some rules have been allowed the batch goes on with the others. -/
theorem AllowsEach.ends_allowEach (each : AllowsEach backend past done middle between)
    (follows : (middle.allowEach (applied ++ done) rest).Ends Grows between outcome now) :
    (backend.allowEach applied (done ++ rest)).Ends Grows past outcome now := by
  induction each generalizing applied with
  | nil => rwa [List.append_nil] at follows
  | @cons _ _ _ _ _ _ rule others allowed _ ih =>
      have split : applied ++ rule :: others = applied ++ [rule] ++ others := by simp
      rw [split] at follows
      exact ends_bind.2 ⟨_, _, allowed, ih follows⟩

/-- A batch comes to its end, or stops at the first rule that is refused. -/
theorem of_ends_allowEach (ended : (backend.allowEach applied rules).Ends Grows past outcome now) :
    AllowsEach backend past rules outcome.1 now ∧ outcome.2 = .ok () ∨
      ∃ done failing rest middle between error, rules = done ++ failing :: rest ∧
        AllowsEach backend past done middle between ∧
        (middle.allow failing).Ends Grows between (outcome.1, .error error) now ∧
        outcome.2 = .error (batchError (applied ++ done) error) := by
  induction rules generalizing backend past applied with
  | nil =>
      obtain ⟨rfl, rfl⟩ := ends_done.1 ended
      exact .inl ⟨.nil, rfl⟩
  | cons rule rest ih =>
      obtain ⟨⟨after, result⟩, middle, allowed, follows⟩ := ends_bind.1 ended
      cases result with
      | error error =>
          obtain ⟨rfl, rfl⟩ := ends_done.1 follows
          exact .inr ⟨[], rule, rest, backend, past, error, rfl, .nil, allowed, by simp⟩
      | ok _ =>
          rcases ih follows with ⟨each, ok⟩ | ⟨done, failing, others, last, between, error, rfl,
            each, refused, failed⟩
          · exact .inl ⟨.cons allowed each, ok⟩
          · refine .inr ⟨rule :: done, failing, others, last, between, error, rfl,
              .cons allowed each, refused, ?_⟩
            rw [failed, List.append_assoc, List.singleton_append]

/-- With iptables a rule that is allowed comes to be owned, and one that is refused leaves the
session as it was. -/
theorem ends_allow_iptables {session : Iptables} {rule : Rule}
    (ended : ((Backend.iptables session).allow rule).Ends Grows past outcome now) :
    outcome = (.iptables (session.own rule), .ok ()) ∨
      ∃ error, outcome = (.iptables session, .error error) := by
  obtain ⟨inner, ofSession, rfl⟩ := Iptables.ends_lift ended
  rcases (Iptables.yields_allow session rule).of_ends ofSession with rfl | ⟨error, rfl⟩
  · exact .inl rfl
  · exact .inr ⟨error, rfl⟩

/-- With iptables exactly the rules that are allowed come to be owned. -/
theorem AllowsEach.rules_iptables {session : Iptables}
    (each : AllowsEach (.iptables session) past rules last now) :
    ∃ later, last = .iptables later ∧
      ∀ rule, rule ∈ later.rules ↔ rule ∈ session.rules ∨ rule ∈ rules := by
  generalize isSession : Backend.iptables session = backend at each
  induction each generalizing session with
  | nil => exact ⟨session, isSession.symm, by simp⟩
  | cons allowed _ ih =>
      subst isSession
      rcases ends_allow_iptables allowed with same | ⟨_, failed⟩
      · cases same
        obtain ⟨later, isLater, owned⟩ := ih rfl
        refine ⟨later, isLater, fun rule => ?_⟩
        rw [owned, Iptables.mem_rules_own, List.mem_cons, or_assoc, or_left_comm]
      · cases failed

/-- A backend that applies a batch rule by rule ends it, with any replies, in one of two ways.
Either every rule is allowed in its turn, and the batch succeeds.  Or there is a first rule that is
refused: the batch ends where this rule did, with its error as it is if there is no rule before it,
and else with an error that names the rules before it.  With iptables the rules applied, and no
others, come to be owned. -/
theorem batches_stop_at_first_refusal (sequential : backend.Sequential) (rules : List Rule)
    (past now : Transcript) (outcome : Outcome Backend) :
    (backend.allowAll rules).Ends Grows past outcome now ↔
      ∃ applied,
        (applied = rules ∧ AllowsEach backend past rules outcome.1 now ∧ outcome.2 = .ok () ∨
          ∃ failing rest middle between error, rules = applied ++ failing :: rest ∧
            AllowsEach backend past applied middle between ∧
            (middle.allow failing).Ends Grows between (outcome.1, .error error) now ∧
            outcome.2 = .error (if applied = [] then error else .partialBatch applied error)) ∧
        ∀ session, backend = .iptables session → ∃ later, outcome.1 = .iptables later ∧
          ∀ rule, rule ∈ later.rules ↔ rule ∈ session.rules ∨ rule ∈ applied := by
  rw [sequential.allowAll_eq]
  constructor
  · intro ended
    rcases of_ends_allowEach ended with ⟨each, ok⟩ |
      ⟨applied, failing, rest, middle, between, error, split, each, refused, failed⟩
    · refine ⟨rules, .inl ⟨rfl, each, ok⟩, ?_⟩
      rintro session rfl
      exact each.rules_iptables
    · refine ⟨applied, .inr ⟨failing, rest, middle, between, error, split, each, refused, ?_⟩, ?_⟩
      · rw [failed, List.nil_append, batchError_eq]
      · rintro session rfl
        obtain ⟨later, rfl, owned⟩ := each.rules_iptables
        rcases ends_allow_iptables refused with same | ⟨_, same⟩
        · cases congrArg Prod.snd same
        · exact ⟨later, congrArg Prod.fst same, owned⟩
  · rintro ⟨applied, ⟨rfl, each, ok⟩ | ⟨failing, rest, middle, between, error, rfl, each, refused,
      failed⟩, _⟩
    · have follows : (outcome.1.allowEach ([] ++ applied) []).Ends Grows now outcome now := by
        rw [← Prod.eta outcome, ok]
        exact .done _ _
      have ended := each.ends_allowEach follows
      rwa [List.append_nil] at ended
    · refine each.ends_allowEach (ends_bind.2 ⟨_, _, refused, ?_⟩)
      refine ends_done.2 ⟨?_, rfl⟩
      rw [← Prod.eta outcome, failed, List.nil_append, batchError_eq]

/-! ### A batch of three rules -/

open Iptables (command)
open Nftables (web names)

/-- The rule that lets in encrypted requests to a web server. -/
def secure : Rule := ⟨.tcp, 443⟩

/-- A session with iptables that owns no rule. -/
def idle : Iptables := ⟨.empty, false⟩

/-- A run that was refused because somebody else had locked the table. -/
def busy : Output :=
  ⟨.exited 4, [], Utf8.encode "iptables: Resource temporarily unavailable."⟩

/-- The commands of a batch whose second rule cannot be appended. -/
def interrupted : Transcript := [
  (command "-C" web, .ok Iptables.Chain.absent), (command "-A" web, .ok .silent),
  (command "-C" names, .ok Iptables.Chain.absent), (command "-A" names, .ok busy)]

/-- The second of three rules is refused: the first one stays, and nothing is asked about the
third. -/
theorem batches_stop_at_first_refusal_busy :
    (iptables idle).Sequential ∧
    ((iptables idle).allowAll [web, names, secure]).Ends Grows []
      (.iptables (idle.own web), .error (.partialBatch [web] (.ofOutput Iptables.name busy)))
      interrupted ∧
    (idle.own web).rules = [web] := by
  have first : ((iptables idle).allow web).Ends Grows [] (.iptables (idle.own web), .ok ())
      (interrupted.take 2) :=
    ends_bind.2 ⟨_, _, ends_ask_grows.2 ⟨.ok Iptables.Chain.absent,
      ends_ask_grows.2 ⟨.ok .silent, .done _ _⟩⟩, .done _ _⟩
  have second : ((iptables (idle.own web)).allow names).Ends Grows (interrupted.take 2)
      (.iptables (idle.own web), .error (.ofOutput Iptables.name busy)) interrupted :=
    ends_bind.2 ⟨_, _, ends_ask_grows.2 ⟨.ok Iptables.Chain.absent,
      ends_ask_grows.2 ⟨.ok busy, .done _ _⟩⟩, .done _ _⟩
  have sequential : (iptables idle).Sequential := trivial
  refine ⟨sequential, (batches_stop_at_first_refusal sequential _ _ _ _).2 ?_, rfl⟩
  refine ⟨[web], .inr ⟨names, [secure], _, _, _, rfl, .cons first .nil, second, rfl⟩, ?_⟩
  rintro _ ⟨⟩
  exact ⟨_, rfl, by simp [Iptables.mem_rules_own, or_comm]⟩

end Backend

end Gatehouse.Firewall
