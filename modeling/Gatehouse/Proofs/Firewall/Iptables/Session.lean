import Gatehouse.Firewall.Backend
import Gatehouse.Proofs.Data.Utf8
import Gatehouse.Proofs.Dialogue
import Gatehouse.Proofs.Firewall.Iptables.Listing
import Gatehouse.Proofs.SortedMap
import Mathlib.Logic.Relation
/-!
# What the operations do to session and chain

Whatever a session does is a series of changes.  A rule is entered, so that its line is in the chain
and the session owns it, or a rule is dismissed, so that one line of it goes away and the session
does not own it.  An operation on a single rule that is refused somewhere has changed nothing.
-/

namespace Gatehouse.Firewall.Iptables

open Dialogue

/-- The chain with the line of a rule, which is appended unless it is there. -/
def Chain.enter (chain : Chain) (rule : Rule) : Chain :=
  if line rule ∈ chain then chain else chain ++ [line rule]

/-- The chain without the first line of a rule. -/
def Chain.dismiss (chain : Chain) (rule : Rule) : Chain := chain.erase (line rule)

/-- What one step of an operation may change in a session and the chain. -/
inductive Change : Iptables × Chain → Iptables × Chain → Prop where
  | enter {session : Iptables} {chain : Chain} {rule : Rule} (valid : rule.port ≠ 0) :
      Change (session, chain) (session.own rule, chain.enter rule)
  | dismiss {session : Iptables} {chain : Chain} {rule : Rule} (valid : rule.port ≠ 0) :
      Change (session, chain) (session.disown rule, chain.dismiss rule)
  | close {session : Iptables} {chain : Chain} : Change (session, chain) (session.close, chain)

/-- Several changes, one after the other. -/
abbrev Changes : Iptables × Chain → Iptables × Chain → Prop := Relation.ReflTransGen Change

/-- An operation has changed nothing and ended with an error. -/
structure Failed (session : Iptables) (chain : Chain) (outcome : Outcome Iptables)
    (after : Chain) : Prop where
  session : outcome.1 = session
  result : ∃ error, outcome.2 = .error error
  chain : after = chain

variable {session : Iptables} {chain after : Chain} {rule other : Rule} {reply : Reply}
  {outcome : Outcome Iptables}

theorem Failed.changes (failed : Failed session chain outcome after) :
    Changes (session, chain) (outcome.1, after) := by
  rw [failed.session, failed.chain]

/-! ## Lines after a change -/

namespace Chain

theorem line_ne (apart : other ≠ rule) : line other ≠ line rule :=
  fun same => apart (line_injective same)

theorem mem_enter {text : String} :
    text ∈ chain.enter rule ↔ text = line rule ∨ text ∈ chain := by
  rw [enter]
  split
  · rename_i there
    constructor
    · exact .inr
    · rintro (rfl | isLine)
      · exact there
      · exact isLine
  · rw [List.mem_append, List.mem_singleton, or_comm]

theorem count_enter_of_ne (apart : other ≠ rule) :
    (chain.enter rule).count (line other) = chain.count (line other) := by
  rw [enter]
  split
  · rfl
  · simp [List.count_append, (line_ne apart).symm]

theorem count_enter_self :
    (chain.enter rule).count (line rule) = max (chain.count (line rule)) 1 := by
  rw [enter]
  split
  · rename_i there
    have positive := List.count_pos_iff.2 there
    omega
  · rename_i absent
    simp [List.count_append, List.count_eq_zero_of_not_mem absent]

theorem count_dismiss_of_ne (apart : other ≠ rule) :
    (chain.dismiss rule).count (line other) = chain.count (line other) :=
  List.count_erase_of_ne (line_ne apart)

theorem count_dismiss_self : (chain.dismiss rule).count (line rule) = chain.count (line rule) - 1 :=
  List.count_erase_self

end Chain

/-! ## Rules after a change -/

theorem mem_rules_own : other ∈ (session.own rule).rules ↔ other = rule ∨ other ∈ session.rules :=
  SortedMap.mem_keys_insert

theorem mem_rules_disown :
    other ∈ (session.disown rule).rules ↔ other ≠ rule ∧ other ∈ session.rules :=
  SortedMap.mem_keys_erase

/-! ## Replies -/

theorem ends_command {α : Type} {command : Command} {next : Reply → Talk α} {result : α}
    (ended : ((ask command).bind next).Ends Chain.MayReply chain result after) :
    ∃ reply middle, chain.MayReply command reply middle ∧
      (next reply).Ends Chain.MayReply middle result after :=
  ends_ask.1 ended

theorem accepted_of_refused (refused : Chain.Refused reply) :
    ∃ error, accepted reply = .error error := by
  cases reply with
  | error error => exact ⟨error, rfl⟩
  | ok output =>
      have notZero := (refused output rfl).1
      exact ⟨.ofOutput name output, by simp [accepted, ExitStatus.isSuccess, notZero]⟩

theorem presence_of_refused (refused : Chain.Refused reply) :
    ∃ error, presence reply = .error error := by
  cases reply with
  | error error => exact ⟨error, rfl⟩
  | ok output =>
      obtain ⟨notZero, notOne⟩ := refused output rfl
      exact ⟨.ofOutput name output, by simp [presence, notZero, notOne]⟩

/-- Looking for a line changes nothing and tells whether it is there, or fails. -/
theorem of_replied_lookup (replied : chain.MayReply (command "-C" rule) reply after) :
    after = chain ∧
      (presence reply = .ok (decide (line rule ∈ chain)) ∨
        ∃ error, presence reply = .error error) := by
  cases replied with
  | served =>
      rw [Chain.serve_lookup]
      refine ⟨rfl, .inl ?_⟩
      by_cases there : line rule ∈ chain
      · rw [if_pos there, decide_eq_true there]
        rfl
      · rw [if_neg there, decide_eq_false there]
        rfl
  | refused refused => exact ⟨rfl, .inr (presence_of_refused refused)⟩

theorem of_replied_append (replied : chain.MayReply (command "-A" rule) reply after) :
    accepted reply = .ok () ∧ after = chain ++ [line rule] ∨
      (∃ error, accepted reply = .error error) ∧ after = chain := by
  cases replied with
  | served =>
      rw [Chain.serve_append]
      exact .inl ⟨rfl, rfl⟩
  | refused refused => exact .inr ⟨accepted_of_refused refused, rfl⟩

theorem of_replied_delete (replied : chain.MayReply (command "-D" rule) reply after) :
    accepted reply = .ok () ∧ after = chain.dismiss rule ∨
      (∃ error, accepted reply = .error error) ∧ after = chain := by
  cases replied with
  | served =>
      rw [Chain.serve_delete]
      by_cases there : line rule ∈ chain
      · rw [if_pos there]
        exact .inl ⟨rfl, rfl⟩
      · rw [if_neg there]
        exact .inr ⟨⟨_, rfl⟩, List.erase_of_not_mem there⟩
  | refused refused => exact .inr ⟨accepted_of_refused refused, rfl⟩

/-! ## Single rules -/

theorem ends_failed {error : Error}
    (ended : (done (session, .error error) : Talk (Outcome Iptables)).Ends Chain.MayReply chain
      outcome after) : Failed session chain outcome after := by
  obtain ⟨rfl, rfl⟩ := ends_done.1 ended
  exact ⟨rfl, ⟨error, rfl⟩, rfl⟩

/-- An operation on a rule goes on with a rule that may take effect, or fails. -/
theorem ends_guarded {next : Rule → Talk (Outcome Iptables)}
    (ended : (session.guarded rule next).Ends Chain.MayReply chain outcome after) :
    Failed session chain outcome after ∨
      rule.port ≠ 0 ∧ (next rule).Ends Chain.MayReply chain outcome after := by
  unfold guarded at ended
  split at ended
  · exact .inl (ends_failed ended)
  · split at ended
    · exact .inl (ends_failed ended)
    · rename_i valid validated
      obtain ⟨rfl, nonzero⟩ := Rule.eq_of_validated validated
      exact .inr ⟨nonzero, ended⟩

/-- Allowing a rule enters it, or fails. -/
theorem ends_allow (ended : (session.allow rule).Ends Chain.MayReply chain outcome after) :
    Failed session chain outcome after ∨
      rule.port ≠ 0 ∧ outcome = (session.own rule, .ok ()) ∧ after = chain.enter rule := by
  rcases ends_guarded ended with failed | ⟨valid, looked⟩
  · exact .inl failed
  · obtain ⟨lookup, middle, replied, answered⟩ := ends_command looked
    obtain ⟨rfl, told | ⟨error, told⟩⟩ := of_replied_lookup replied
    · by_cases there : line rule ∈ middle
      · rw [told, decide_eq_true there] at answered
        obtain ⟨rfl, rfl⟩ := ends_done.1 answered
        exact .inr ⟨valid, rfl, (if_pos there).symm⟩
      · rw [told, decide_eq_false there] at answered
        obtain ⟨reply, last, replied, finished⟩ := ends_command answered
        rcases of_replied_append replied with ⟨isAccepted, rfl⟩ | ⟨⟨error, failed⟩, rfl⟩
        · rw [isAccepted] at finished
          obtain ⟨rfl, rfl⟩ := ends_done.1 finished
          exact .inr ⟨valid, rfl, (if_neg there).symm⟩
        · rw [failed] at finished
          exact .inl (ends_failed finished)
    · rw [told] at answered
      exact .inl (ends_failed answered)

/-- Revoking a rule dismisses it, or fails. -/
theorem ends_revoke (ended : (session.revoke rule).Ends Chain.MayReply chain outcome after) :
    Failed session chain outcome after ∨
      rule.port ≠ 0 ∧ outcome = (session.disown rule, .ok ()) ∧ after = chain.dismiss rule := by
  rcases ends_guarded ended with failed | ⟨valid, looked⟩
  · exact .inl failed
  · obtain ⟨lookup, middle, replied, answered⟩ := ends_command looked
    obtain ⟨rfl, told | ⟨error, told⟩⟩ := of_replied_lookup replied
    · by_cases there : line rule ∈ middle
      · rw [told, decide_eq_true there] at answered
        obtain ⟨reply, last, replied, finished⟩ := ends_command answered
        rcases of_replied_delete replied with ⟨isAccepted, rfl⟩ | ⟨⟨error, failed⟩, rfl⟩
        · rw [isAccepted] at finished
          obtain ⟨rfl, rfl⟩ := ends_done.1 finished
          exact .inr ⟨valid, rfl, rfl⟩
        · rw [failed] at finished
          exact .inl (ends_failed finished)
      · rw [told, decide_eq_false there] at answered
        obtain ⟨rfl, rfl⟩ := ends_done.1 answered
        exact .inr ⟨valid, rfl, (List.erase_of_not_mem there).symm⟩
    · rw [told] at answered
      exact .inl (ends_failed answered)

/-! ## Several rules -/

/-- Deleting the lines of some rules dismisses rules, and all of them if nothing fails. -/
theorem ends_deleteAll {rules : List Rule} {result : Except Error Unit}
    (valid : ∀ rule ∈ rules, rule.port ≠ 0)
    (ended : (session.deleteAll result rules).Ends Chain.MayReply chain outcome after) :
    Changes (session, chain) (outcome.1, after) ∧
      (outcome.2 = .ok () → result = .ok () ∧
        ∀ rule ∈ outcome.1.rules, rule ∈ session.rules ∧ rule ∉ rules) := by
  induction rules generalizing session chain result with
  | nil =>
      obtain ⟨rfl, rfl⟩ := ends_done.1 ended
      exact ⟨.refl, fun ok => ⟨ok, fun rule owned => ⟨owned, List.not_mem_nil⟩⟩⟩
  | cons rule rest ih =>
      have validRest := fun other isMember => valid other (List.mem_cons_of_mem _ isMember)
      obtain ⟨reply, middle, replied, follows⟩ := ends_command ended
      rcases of_replied_delete replied with ⟨isAccepted, rfl⟩ | ⟨⟨error, failed⟩, rfl⟩
      · rw [isAccepted] at follows
        obtain ⟨changes, gone⟩ := ih validRest follows
        refine ⟨.head (.dismiss (valid rule List.mem_cons_self)) changes, fun ok => ?_⟩
        obtain ⟨okBefore, gone⟩ := gone ok
        refine ⟨okBefore, fun other owned => ?_⟩
        obtain ⟨stillOwned, notInRest⟩ := gone other owned
        obtain ⟨apart, owned⟩ := mem_rules_disown.1 stillOwned
        exact ⟨owned, List.not_mem_cons_of_ne_of_not_mem apart notInRest⟩
      · rw [failed] at follows
        obtain ⟨changes, gone⟩ := ih validRest follows
        refine ⟨changes, fun ok => ?_⟩
        cases (gone ok).1

/-- A flush dismisses rules, and if it succeeds none is owned any more. -/
theorem ends_flush (valid : ∀ rule ∈ session.rules, rule.port ≠ 0)
    (ended : session.flush.Ends Chain.MayReply chain outcome after) :
    Changes (session, chain) (outcome.1, after) ∧
      (outcome.2 = .ok () → outcome.1.rules = []) := by
  obtain ⟨changes, gone⟩ := ends_deleteAll valid ended
  refine ⟨changes, fun ok => List.eq_nil_iff_forall_not_mem.2 fun rule owned => ?_⟩
  obtain ⟨owned, notOwned⟩ := (gone ok).2 rule owned
  exact notOwned owned

/-! ## New sessions -/

/-- The session that owns the rules of a listing. -/
def resumed (listing : String) : Iptables :=
  ⟨.ofList ((rulesOfListing listing).map fun rule => (rule, ())), false⟩

theorem mem_rules_resumed {listing : String} :
    rule ∈ (resumed listing).rules ↔ rule ∈ rulesOfListing listing := by
  rw [rules, resumed, SortedMap.mem_keys_ofList]
  simp

/-- The session that a listing of the chain gives. -/
def adopted (chain : Chain) : Iptables :=
  ⟨.ofList ((rulesOfListing chain.listing).map fun rule => (rule, ())), false⟩

theorem mem_rules_adopted : rule ∈ (adopted chain).rules ↔ rule ∈ rulesOfListing chain.listing :=
  mem_rules_resumed

/-- The session that a listing gives once it has been printed and read. -/
theorem adopted_eq (chain : Chain) :
    adopted chain = ⟨.ofList ((rulesOfListing (Utf8.lossyText
      (Chain.printed chain.listing).stdout)).map fun rule => (rule, ())), false⟩ := by
  rw [adopted, Chain.printed, Utf8.lossyText_encode]

theorem ends_start_served (chain : Chain) :
    start.Ends Chain.MayReply chain (.ok (adopted chain)) chain := by
  apply ends_ask.2
  refine ⟨.ok (Chain.printed chain.listing), chain, .served, ?_⟩
  rw [adopted_eq]
  exact .done _ _

/-- Starting a session changes nothing, and gives the session of the listing or fails. -/
theorem ends_start {result : Except Error Iptables}
    (ended : start.Ends Chain.MayReply chain result after) :
    after = chain ∧ (result = .ok (adopted chain) ∨ ∃ error, result = .error error) := by
  obtain ⟨reply, middle, replied, follows⟩ := ends_command ended
  cases replied with
  | served =>
      rw [Chain.serve_listCommand] at follows
      obtain ⟨rfl, rfl⟩ := ends_done.1 follows
      exact ⟨rfl, .inl (congrArg Except.ok (adopted_eq _).symm)⟩
  | refused refused =>
      cases reply with
      | error error =>
          obtain ⟨rfl, rfl⟩ := ends_done.1 follows
          exact ⟨rfl, .inr ⟨_, rfl⟩⟩
      | ok output =>
          have failed : output.status.isSuccess = false :=
            decide_eq_false (refused output rfl).1
          simp only [failed] at follows
          obtain ⟨rfl, rfl⟩ := ends_done.1 follows
          exact ⟨rfl, .inr ⟨_, rfl⟩⟩

/-! ## Sessions behind the backend -/

/-- Operations of the backend end as those of the session, whoever replies. -/
theorem ends_lift {σ : Type} {replies : σ → Command → Reply → σ → Prop} {state later : σ}
    {talk : Talk (Outcome Iptables)} {outcome : Outcome Backend}
    (ended : (Backend.lift .iptables talk).Ends replies state outcome later) :
    ∃ inner, talk.Ends replies state inner later ∧ outcome = (.iptables inner.1, inner.2) := by
  obtain ⟨inner, middle, ended, finished⟩ := ends_bind.1 ended
  obtain ⟨rfl, rfl⟩ := ends_done.1 finished
  exact ⟨inner, ended, rfl⟩

/-- Allowing rules one by one enters rules. -/
theorem ends_allowEach {applied rules : List Rule} {outcome : Outcome Backend}
    (ended : ((Backend.iptables session).allowEach applied rules).Ends Chain.MayReply chain
      outcome after) :
    ∃ last, outcome.1 = .iptables last ∧ Changes (session, chain) (last, after) := by
  induction rules generalizing session chain applied with
  | nil =>
      obtain ⟨rfl, rfl⟩ := ends_done.1 ended
      exact ⟨session, rfl, .refl⟩
  | cons rule rest ih =>
      obtain ⟨first, middle, allowed, follows⟩ := ends_bind.1 ended
      obtain ⟨inner, ofSession, rfl⟩ := ends_lift allowed
      rcases ends_allow ofSession with failed | ⟨valid, rfl, rfl⟩
      · obtain ⟨error, isError⟩ := failed.result
        rw [isError] at follows
        obtain ⟨rfl, rfl⟩ := ends_done.1 follows
        exact ⟨inner.1, rfl, failed.changes⟩
      · obtain ⟨last, isLast, changes⟩ := ih follows
        exact ⟨last, isLast, .head (.enter valid) changes⟩

end Gatehouse.Firewall.Iptables
