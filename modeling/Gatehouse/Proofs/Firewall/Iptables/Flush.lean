import Gatehouse.Firewall.Rehearsal
import Gatehouse.Proofs.Firewall.Iptables.Session
import Gatehouse.Proofs.Firewall.Transcript
import Mathlib.Data.List.Nodup
/-!
# Deleting all rules that are owned

A flush asks for the deletion of each rule that is owned, once and in the order of the rules,
whatever the replies are.  A reply decides about its own rule only, which stays owned if it was not
deleted.  What is owned after a flush is therefore what another flush asks for.
-/

namespace Gatehouse.Firewall.Iptables

open Dialogue Transcript

/-- Why a deletion failed, or nothing if it did not. -/
def failure? : Reply → Option Error
  | .error error => some error
  | .ok output => if output.status = .exited 0 then none else some (.ofOutput name output)

/-- Deletions that were asked for, with the replies to them. -/
abbrev Deletions := List (Rule × Reply)

namespace Deletions

/-- The rules that were to be deleted. -/
def asked (deletions : Deletions) : List Rule := deletions.map Prod.fst

/-- The rules that were not deleted. -/
def kept (deletions : Deletions) : List Rule :=
  (deletions.filter fun deletion => (failure? deletion.2).isSome).map Prod.fst

/-- The rules that were deleted. -/
def gone (deletions : Deletions) : List Rule :=
  (deletions.filter fun deletion => (failure? deletion.2).isNone).map Prod.fst

/-- The failures, in order. -/
def failures (deletions : Deletions) : List Error :=
  deletions.filterMap fun deletion => failure? deletion.2

/-- The last failure is the result of all. -/
def result (deletions : Deletions) : Except Error Unit :=
  match deletions.failures.getLast? with
  | none => .ok ()
  | some error => .error error

/-- The commands given, with the replies to them. -/
def transcript (deletions : Deletions) : Transcript :=
  deletions.map fun deletion => (command "-D" deletion.1, deletion.2)

end Deletions

variable {session : Iptables} {rules : List Rule} {result : Except Error Unit}
  {outcome : Outcome Iptables} {past now : Transcript}

/-! ## One deletion after the other -/

/-- What a deletion makes of a session and the result so far. -/
def Deletions.step (before : Outcome Iptables) (deletion : Rule × Reply) : Outcome Iptables :=
  match failure? deletion.2 with
  | none => (before.1.disown deletion.1, before.2)
  | some error => (before.1, .error error)

/-- After a reply the other rules are deleted, from what this deletion has made of the session. -/
theorem deleteAll_cons (session : Iptables) (result : Except Error Unit) (rule : Rule)
    (rest : List Rule) :
    session.deleteAll result (rule :: rest) = (ask (command "-D" rule)).bind fun reply =>
      let after := Deletions.step (session, result) (rule, reply)
      after.1.deleteAll after.2 rest := by
  rw [deleteAll]
  refine congrArg _ (funext fun reply => ?_)
  cases reply with
  | error error => rfl
  | ok output =>
      by_cases succeeded : output.status = .exited 0 <;>
        simp [accepted, Deletions.step, failure?, ExitStatus.isSuccess, succeeded]

/-- Each rule is deleted once, in order. -/
theorem ends_deleteAll_grows :
    (session.deleteAll result rules).Ends Grows past outcome now ↔
      ∃ deletions : Deletions, deletions.asked = rules ∧ now = past ++ deletions.transcript ∧
        outcome = deletions.foldl Deletions.step (session, result) := by
  induction rules generalizing session result past with
  | nil =>
      rw [deleteAll, ends_done]
      constructor
      · rintro ⟨rfl, rfl⟩
        exact ⟨[], rfl, (List.append_nil _).symm, rfl⟩
      · rintro ⟨deletions, none, rfl, rfl⟩
        obtain rfl := List.map_eq_nil_iff.1 none
        exact ⟨rfl, List.append_nil _⟩
  | cons rule rest ih =>
      rw [deleteAll_cons, ends_ask_grows]
      constructor
      · rintro ⟨reply, ended⟩
        obtain ⟨deletions, rfl, rfl, rfl⟩ := ih.1 ended
        exact ⟨(rule, reply) :: deletions, rfl, List.append_cons .. |>.symm, rfl⟩
      · rintro ⟨deletions, ofRules, rfl, rfl⟩
        obtain ⟨⟨_, reply⟩, others, rfl, rfl, rfl⟩ := List.map_eq_cons_iff.1 ofRules
        exact ⟨reply, ih.2 ⟨others, rfl, List.append_cons .., rfl⟩⟩

/-! ## What is left -/

/-- Sessions are the same if they own the same rules and both are open or closed. -/
theorem eq_of_rules_eq {first second : Iptables} (sameRules : first.rules = second.rules)
    (sameClosed : first.closed = second.closed) : first = second := by
  obtain ⟨owned, closed⟩ := first
  obtain ⟨others, _⟩ := second
  obtain rfl : closed = _ := sameClosed
  have same : owned = others :=
    SortedMap.eq_of_mem_keys_iff fun rule => iff_of_eq (congrArg (rule ∈ ·) sameRules)
  rw [same]

theorem rules_disown (session : Iptables) (rule : Rule) :
    (session.disown rule).rules = session.rules.filter (· ≠ rule) := by
  refine SortedMap.keys_erase.trans (List.filter_congr fun other _ => ?_)
  rw [decide_eq_decide, ne_eq, ne_eq, Std.LawfulEqOrd.compare_eq_iff_eq, eq_comm]

namespace Deletions

variable {deletions rest : Deletions} {deletion : Rule × Reply} {error : Error}

theorem gone_cons_of_none (succeeded : failure? deletion.2 = none) :
    gone (deletion :: rest) = deletion.1 :: gone rest := by
  simp [gone, succeeded]

theorem gone_cons_of_some (failed : failure? deletion.2 = some error) :
    gone (deletion :: rest) = gone rest := by
  simp [gone, failed]

theorem closed_foldl_step : (deletions.foldl step outcome).1.closed = outcome.1.closed := by
  induction deletions generalizing outcome with
  | nil => rfl
  | cons deletion rest ih =>
      rw [List.foldl_cons, ih, step]
      cases failure? deletion.2 <;> rfl

/-- The rules that were deleted are not owned any more. -/
theorem rules_foldl_step :
    (deletions.foldl step outcome).1.rules = outcome.1.rules.filter (· ∉ deletions.gone) := by
  induction deletions generalizing outcome with
  | nil => exact (List.filter_eq_self.2 (by simp [gone])).symm
  | cons deletion rest ih =>
      rw [List.foldl_cons, ih, step]
      cases failed : failure? deletion.2 with
      | none =>
          rw [gone_cons_of_none failed, rules_disown, List.filter_filter]
          refine List.filter_congr fun rule _ => ?_
          simp [Bool.and_comm]
      | some error => rw [gone_cons_of_some failed]

theorem failures_cons_of_none (succeeded : failure? deletion.2 = none) :
    failures (deletion :: rest) = failures rest :=
  List.filterMap_cons_none succeeded

theorem failures_cons_of_some (failed : failure? deletion.2 = some error) :
    failures (deletion :: rest) = error :: failures rest :=
  List.filterMap_cons_some failed

/-- The result is the last failure, or that from before if there is none. -/
theorem result_foldl_step :
    (deletions.foldl step outcome).2 =
      match deletions.failures.getLast? with
      | none => outcome.2
      | some error => .error error := by
  induction deletions generalizing outcome with
  | nil => rfl
  | cons deletion rest ih =>
      rw [List.foldl_cons, ih, step]
      cases failed : failure? deletion.2 with
      | none => rw [failures_cons_of_none failed]
      | some error =>
          rw [failures_cons_of_some failed, List.getLast?_cons]
          cases (failures rest).getLast? <;> rfl

/-- If no rule is asked for twice, those that were not deleted are what is left of all. -/
theorem filter_asked (once : deletions.asked.Nodup) :
    deletions.asked.filter (· ∉ deletions.gone) = deletions.kept := by
  rw [asked, kept, List.filter_map]
  refine congrArg _ (List.filter_congr fun deletion isMember => ?_)
  have isGone : deletion.1 ∈ deletions.gone ↔ failure? deletion.2 = none := by
    rw [gone, List.mem_map]
    constructor
    · rintro ⟨other, isOther, same⟩
      obtain ⟨isOther, succeeded⟩ := List.mem_filter.1 isOther
      obtain rfl := List.inj_on_of_nodup_map once isOther isMember same
      exact Option.isNone_iff_eq_none.1 succeeded
    · intro succeeded
      exact ⟨deletion, List.mem_filter.2 ⟨isMember, Option.isNone_iff_eq_none.2 succeeded⟩, rfl⟩
  cases failed : failure? deletion.2 <;> simp [isGone, failed]

/-- All has succeeded if every rule was deleted. -/
theorem result_eq_ok_iff : deletions.result = .ok () ↔ deletions.kept = [] := by
  have noFailure : deletions.failures.getLast? = none ↔ deletions.kept = [] := by
    simp [failures, kept]
  rw [← noFailure, result]
  cases deletions.failures.getLast? <;> simp

end Deletions

/-- The rules owned are in order. -/
theorem pairwise_rules (session : Iptables) : session.rules.Pairwise Rule.Precedes :=
  List.pairwise_map.2 (session.owned.sorted.imp Rule.compare_eq_lt_iff.1)

/-! ## A flush -/

/-- What a flush does, and what it leaves. -/
structure Flushed (session : Iptables) (deletions : Deletions) (outcome : Outcome Iptables) :
    Prop where
  /-- The rules owned are those that were to be deleted. -/
  asked : deletions.asked = session.rules
  /-- Those that were not deleted are owned afterwards. -/
  rules : outcome.1.rules = deletions.kept
  closed : outcome.1.closed = session.closed
  result : outcome.2 = deletions.result

/-- The deletions taken one after the other leave what a flush leaves. -/
theorem flushed_iff_foldl {deletions : Deletions} (asked : deletions.asked = session.rules) :
    Flushed session deletions outcome ↔
      outcome = deletions.foldl Deletions.step (session, .ok ()) := by
  have once : deletions.asked.Nodup := asked ▸ session.owned.nodup_keys
  have left : Flushed session deletions (deletions.foldl Deletions.step (session, .ok ())) := {
    asked := asked
    rules := by rw [Deletions.rules_foldl_step, ← asked, Deletions.filter_asked once]
    closed := Deletions.closed_foldl_step
    result := Deletions.result_foldl_step }
  constructor
  · intro flushed
    have sameSession := eq_of_rules_eq (flushed.rules.trans left.rules.symm)
      (flushed.closed.trans left.closed.symm)
    exact Prod.ext sameSession (flushed.result.trans left.result.symm)
  · rintro rfl
    exact left

theorem ends_flush_grows :
    session.flush.Ends Grows past outcome now ↔
      ∃ deletions : Deletions, Flushed session deletions outcome ∧
        now = past ++ deletions.transcript := by
  rw [flush, ends_deleteAll_grows]
  refine exists_congr fun deletions => ?_
  constructor
  · rintro ⟨asked, grown, left⟩
    exact ⟨(flushed_iff_foldl asked).2 left, grown⟩
  · rintro ⟨flushed, grown⟩
    exact ⟨flushed.asked, grown, (flushed_iff_foldl flushed.asked).1 flushed⟩

/-- A flush, with any replies, deletes each rule owned once and in order.  It leaves the rules that
were not deleted, and it ends with the last failure, or with success if every rule was deleted.
Another flush deletes just the rules that are left. -/
theorem flush_tries_each_rule_once (session : Iptables) (past : Transcript) :
    session.rules.Pairwise Rule.Precedes ∧
    (∀ outcome now, session.flush.Ends Grows past outcome now ↔
      ∃ deletions : Deletions, Flushed session deletions outcome ∧
        now = past ++ deletions.transcript) ∧
    (∀ deletions : Deletions, deletions.asked = session.rules →
      ∃ outcome, Flushed session deletions outcome) ∧
    ∀ deletions outcome, Flushed session deletions outcome →
      (outcome.2 = .ok () ↔ deletions.kept = []) ∧
      ∀ now again later, outcome.1.flush.Ends Grows now again later →
        ∃ retried : Deletions, retried.asked = deletions.kept ∧
          later = now ++ retried.transcript ∧ again.1.rules = retried.kept := by
  refine ⟨session.pairwise_rules, fun outcome now => ends_flush_grows, ?_, ?_⟩
  · intro deletions asked
    exact ⟨_, (flushed_iff_foldl asked).2 rfl⟩
  · intro deletions outcome flushed
    refine ⟨flushed.result ▸ Deletions.result_eq_ok_iff, ?_⟩
    intro now again later ended
    obtain ⟨retried, afterwards, rfl⟩ := ends_flush_grows.1 ended
    exact ⟨retried, afterwards.asked.trans flushed.rules, rfl, afterwards.rules⟩

/-- The second of three deletions fails, and its rule is what is left. -/
example :
    (Rehearsal.play
      (flush ⟨.ofList ([⟨.udp, 53⟩, ⟨.tcp, 443⟩, ⟨.tcp, 80⟩].map fun rule => (rule, ())), false⟩)
      [.ok .silent, .ok ⟨.signalled 9 false, [], []⟩, .ok .silent]).1.1.rules = [⟨.tcp, 443⟩] := by
  decide +kernel

end Gatehouse.Firewall.Iptables
