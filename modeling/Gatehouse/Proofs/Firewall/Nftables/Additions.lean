import Gatehouse.Proofs.Firewall.Nftables.Failures
/-!
# What a batch adds

An open session adds exactly the rules of a batch that it does not hold, each once and in order of
first occurrence.  When there are any they are one command, and its input is read as table, chain
and these rules; when there are none no command is given.  A batch that succeeds leaves all its
rules held, and what was held before stays held.
-/

namespace Gatehouse.Firewall.Nftables

variable {session : Nftables} {rules asked : List Rule} {rule : Rule} {echoed : Json}

/-! ## The rules that are asked for -/

/-- The rules of a batch that the session does not hold, each once, in order of first
occurrence. -/
def lacking (session : Nftables) (rules : List Rule) : List Rule :=
  (rules.filter fun rule => rule ∉ session.rules).eraseDups

theorem mem_lacking : rule ∈ session.lacking rules ↔ rule ∈ rules ∧ rule ∉ session.rules := by
  rw [lacking, List.mem_eraseDups, List.mem_filter, decide_eq_true_eq]

theorem lacking_eq_nil_iff : session.lacking rules = [] ↔ ∀ rule ∈ rules, rule ∈ session.rules := by
  simp only [List.eq_nil_iff_forall_not_mem, mem_lacking, not_and, not_not]

/-- What has been collected stays in front, and behind it come the other rules that are not held. -/
theorem pending_append {held : SortedMap Rule Nat} {found : List Rule}
    (valid : ∀ rule ∈ rules, rule.port ≠ 0) :
    pending held found rules =
      .ok (found ++ (rules.filter fun rule => rule ∉ held.keys ∧ rule ∉ found).eraseDups) := by
  induction rules generalizing found with
  | nil => simp [pending]
  | cons rule rest ih =>
      have validRest := fun other isMember => valid other (List.mem_cons_of_mem _ isMember)
      have validated : rule.validated = .ok rule := if_neg (valid rule List.mem_cons_self)
      rw [pending, validated]
      dsimp only
      by_cases new : rule ∉ held.keys ∧ rule ∉ found
      · have skipped : (held.contains rule || found.contains rule) = false := by
          simpa [← SortedMap.contains_iff] using new
        -- Once the rule has been collected its other occurrences count as found.
        have once : ((rest.filter fun other => other ∉ held.keys ∧ other ∉ found).filter
            fun other => !other == rule) =
              rest.filter fun other => other ∉ held.keys ∧ other ∉ found ++ [rule] := by
          rw [List.filter_filter]
          refine List.filter_congr fun other _ => ?_
          by_cases same : other = rule <;> simp [same]
        rw [skipped, if_neg Bool.false_ne_true, ih validRest,
          List.filter_cons_of_pos (by simpa using new), List.eraseDups_cons, once,
          List.append_assoc, List.singleton_append]
      · have skipped : (held.contains rule || found.contains rule) = true := by
          simp only [Bool.or_eq_true, SortedMap.contains_iff, List.contains_iff_mem]
          by_contra neither
          exact new (not_or.1 neither)
        rw [skipped, if_pos rfl, ih validRest, List.filter_cons_of_neg (by simpa using new)]

/-- What an open session asks for. -/
theorem pending_eq (valid : ∀ rule ∈ rules, rule.port ≠ 0) :
    pending session.handles [] rules = .ok (session.lacking rules) := by
  rw [pending_append valid, List.nil_append]
  refine congrArg (fun asked : List Rule => Except.ok asked.eraseDups)
    (List.filter_congr fun rule _ => decide_eq_decide.2 ?_)
  exact and_iff_left List.not_mem_nil

/-! ## The command -/

/-- The command has rules added, behind table and chain: its input is read as these additions. -/
structure AddsRules (command : Command) (asked : List Rule) : Prop where
  program : command.program = .nft
  arguments : command.arguments = ["--json", "--echo", "--handle", "-f", "-"]
  input : command.input.bind Json.parse? = some (batch (setup ++ asked.map addRule))

theorem addsRules_batchCommand (asked : List Rule) :
    AddsRules (batchCommand (allowBatch asked) true) asked where
  program := rfl
  arguments := rfl
  input := by
    have input : (batchCommand (allowBatch asked) true).input =
      some (batch (setup ++ asked.map addRule)).compact := rfl
    rw [input, Option.bind_some, parse?_batch (exact_allowBatch asked)]

/-! ## What is held afterwards -/

/-- Handles that are taken over leave held what was held before. -/
theorem mem_rules_adopt_of_mem {found : List (Rule × Nat)} (held : rule ∈ session.rules) :
    rule ∈ (session.adopt found).rules :=
  (SortedMap.mem_keys_foldl_insert _).2 (.inr held)

/-! ## Batches -/

/-- An open session gives no command for a batch that it holds, and otherwise one, which creates
table and chain if need be and adds the rules that it does not hold.  If the batch succeeds all its
rules are held, and so is what was held before. -/
theorem batches_are_exact (isOpen : session.closed = false)
    (valid : ∀ rule ∈ rules, rule.port ≠ 0) (replies : List Reply) :
    ((∀ rule ∈ rules, rule ∈ session.rules) →
      (Rehearsal.play (session.allowAll rules) replies).2 = []) ∧
    ((∃ rule ∈ rules, rule ∉ session.rules) →
      ∃ command, (Rehearsal.play (session.allowAll rules) replies).2 = [command] ∧
        AddsRules command (session.lacking rules)) ∧
    ((Rehearsal.play (session.allowAll rules) replies).1.2 = .ok () →
      (∀ rule ∈ rules, rule ∈ (Rehearsal.play (session.allowAll rules) replies).1.1.rules) ∧
      ∀ rule ∈ session.rules,
        rule ∈ (Rehearsal.play (session.allowAll rules) replies).1.1.rules) := by
  have collected : pending session.handles [] rules = .ok (session.lacking rules) :=
    pending_eq valid
  have batched := batched_play isOpen rules replies
  generalize Rehearsal.play (session.allowAll rules) replies = played at batched ⊢
  cases batched with
  | invalid refused => cases collected.symm.trans refused
  | held nothing =>
      have allHeld := lacking_eq_nil_iff.1 (Except.ok.inj (collected.symm.trans nothing))
      refine ⟨fun _ => rfl, fun ⟨rule, isMember, unheld⟩ => ?_, fun _ => ⟨allHeld, fun _ => id⟩⟩
      exact absurd (allHeld rule isMember) unheld
  | rejected again nonempty failed =>
      obtain rfl := Except.ok.inj (collected.symm.trans again)
      refine ⟨fun allHeld => absurd (lacking_eq_nil_iff.2 allHeld) nonempty, fun _ => ?_, nofun⟩
      exact ⟨_, rfl, addsRules_batchCommand _⟩
  | @committed asked echoed again nonempty read =>
      obtain rfl := Except.ok.inj (collected.symm.trans again)
      have kept (rule : Rule) (held : rule ∈ session.rules) :
          rule ∈ (session.settle (session.lacking rules) echoed).1.rules := by
        rw [settle_fst]
        exact mem_rules_adopt_of_mem held
      refine ⟨fun allHeld => absurd (lacking_eq_nil_iff.2 allHeld) nonempty, fun _ => ?_,
        fun ok => ⟨fun rule isMember => ?_, kept⟩⟩
      · exact ⟨_, rfl, addsRules_batchCommand _⟩
      · by_cases held : rule ∈ session.rules
        · exact kept rule held
        · exact mem_rules_settle (mem_lacking.2 ⟨isMember, held⟩) ok

/-- A session that holds the rule for the web server. -/
def serving : Nftables := opened.adopt [(web, 4)]

/-- A ruleset in which the next handle is five. -/
def served : Ruleset := ⟨true, .ofList [(4, sent web)], 5⟩

/-- A reply that says that the rule for the name server has been added. -/
def namesEcho : Reply := .ok (Ruleset.printed (batch (served.echo [names])))

/-- Of a batch that names the name server twice, and a rule that is held between, one rule is
added. -/
theorem batches_are_exact_serving :
    serving.closed = false ∧ (∀ rule ∈ [names, web, names], rule.port ≠ 0) ∧
      (∃ command,
        (Rehearsal.play (serving.allowAll [names, web, names]) [namesEcho]).2 = [command] ∧
          AddsRules command [names]) ∧
      (Rehearsal.play (serving.allowAll [names, web, names]) [namesEcho]).1.2 = .ok () ∧
      names ∈ (Rehearsal.play (serving.allowAll [names, web, names]) [namesEcho]).1.1.rules ∧
      web ∈ (Rehearsal.play (serving.allowAll [names, web, names]) [namesEcho]).1.1.rules := by
  have isOpen : serving.closed = false := rfl
  have valid : ∀ rule ∈ [names, web, names], rule.port ≠ 0 := by decide
  have isLacking : serving.lacking [names, web, names] = [names] := by decide
  have ok : (Rehearsal.play (serving.allowAll [names, web, names]) [namesEcho]).1.2 = .ok () := by
    have collected : pending serving.handles [] [names, web, names] = .ok [names] := rfl
    have read : received (Rehearsal.first [namesEcho]) = .ok (batch (served.echo [names])) :=
      received_echo (by decide)
    have batched := batched_play isOpen [names, web, names] [namesEcho]
    generalize Rehearsal.play (serving.allowAll [names, web, names]) [namesEcho] = played
      at batched ⊢
    cases batched with
    | invalid refused => cases collected.symm.trans refused
    | held _ => rfl
    | rejected _ _ failed => cases read.symm.trans failed
    | committed again _ reported =>
        obtain rfl := Except.ok.inj (collected.symm.trans again)
        obtain rfl := Except.ok.inj (read.symm.trans reported)
        exact settle_echo (by decide) served
  obtain ⟨-, adds, held⟩ := batches_are_exact isOpen valid [namesEcho]
  obtain ⟨command, given, isBatch⟩ := adds ⟨names, List.mem_cons_self, by decide⟩
  rw [isLacking] at isBatch
  exact ⟨isOpen, valid, ⟨command, given, isBatch⟩, ok, (held ok).1 names List.mem_cons_self,
    (held ok).2 web (by decide)⟩

end Gatehouse.Firewall.Nftables
