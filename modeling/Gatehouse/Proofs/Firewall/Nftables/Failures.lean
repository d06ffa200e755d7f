import Gatehouse.Firewall.Rehearsal
import Gatehouse.Proofs.Firewall.Nftables.Session
/-!
# Batches that fail

A batch of allow rules may fail before anything is asked, when it is refused or its echo cannot be
read, and after that, when the echo shows no handle of some rule.  Until the echo has been read the
session is as it was.  In the last case the program has committed the batch, and the session keeps
the handles that the echo does show, so that a batch which fails may leave rules behind.
-/

namespace Gatehouse.Firewall

/-- The reply to the first command; one that nobody replies to succeeds without a word. -/
def Rehearsal.first (replies : List Reply) : Reply := replies.head?.getD (.ok .silent)

namespace Nftables

variable {session : Nftables} {rules found asked : List Rule} {replies : List Reply}
  {error : Error} {echoed : Json}

/-! ## Rules that cannot take effect -/

/-- A rule for port zero is found wherever it stands, also behind rules that are held. -/
theorem pending_of_port_zero {held : SortedMap Rule Nat} {rule : Rule} (isMember : rule ∈ rules)
    (zero : rule.port = 0) :
    pending held found rules = .error (.validation "port" portOutOfRange) := by
  induction rules generalizing found with
  | nil => cases isMember
  | cons head rest ih =>
      rw [pending]
      rcases List.mem_cons.1 isMember with rfl | isMember
      · rw [Rule.validated_of_port_zero zero]
      · by_cases headZero : head.port = 0
        · rw [Rule.validated_of_port_zero headZero]
        · have validated : head.validated = .ok head := if_neg headZero
          rw [validated]
          dsimp only
          split
          · exact ih isMember
          · exact ih isMember

/-! ## What a batch may come to -/

/-- What the reply to a batch reports. -/
def received (reply : Reply) : Except Error Json :=
  (accepted reply).bind fun output => report output.stdout

/-- What asking an open session for rules comes to, with the reply that it gets if it gives a
command. -/
inductive Batched (session : Nftables) (rules : List Rule) (reply : Reply) :
    Outcome Nftables × List Command → Prop where
  /-- A rule cannot take effect. -/
  | invalid {error : Error} (refused : pending session.handles [] rules = .error error) :
      Batched session rules reply ((session, .error error), [])
  /-- All rules are held already. -/
  | held (collected : pending session.handles [] rules = .ok []) :
      Batched session rules reply ((session, .ok ()), [])
  /-- The program cannot be run or refuses the batch, or what it printed is not a document. -/
  | rejected {asked : List Rule} {error : Error}
      (collected : pending session.handles [] rules = .ok asked) (nonempty : asked ≠ [])
      (failed : received reply = .error error) :
      Batched session rules reply
        ((session, .error error), [batchCommand (allowBatch asked) true])
  /-- The batch is committed. -/
  | committed {asked : List Rule} {echoed : Json}
      (collected : pending session.handles [] rules = .ok asked) (nonempty : asked ≠ [])
      (read : received reply = .ok echoed) :
      Batched session rules reply
        (session.settle asked echoed, [batchCommand (allowBatch asked) true])

/-- A batch that is to be echoed is given as one command, and its reply decides how to go on. -/
theorem play_apply {commands : Json} {next : Except Error Json → Talk (Outcome Nftables)}
    {outcome : Outcome Nftables} (follows : next (received (Rehearsal.first replies)) =
      .done outcome) :
    Rehearsal.play ((apply commands true).bind next) replies =
      (outcome, [batchCommand commands true]) := by
  have played : Rehearsal.play ((apply commands true).bind next) replies =
      let ended := (next (received (Rehearsal.first replies))).run Rehearsal.answer
        ⟨replies.tail, [batchCommand commands true]⟩
      (ended.1, ended.2.commands) := rfl
  rw [played, follows]
  rfl

theorem batched_play (isOpen : session.closed = false) (rules : List Rule)
    (replies : List Reply) :
    Batched session rules (Rehearsal.first replies)
      (Rehearsal.play (session.allowAll rules) replies) := by
  unfold allowAll
  rw [isOpen, if_neg Bool.false_ne_true]
  split
  · exact .invalid ‹_›
  · exact .held ‹_›
  · rename_i asked nonempty collected
    cases reported : received (Rehearsal.first replies) with
    | error error =>
        rw [play_apply (by rw [reported])]
        exact .rejected collected nonempty reported
    | ok echoed =>
        rw [play_apply (by rw [reported])]
        exact .committed collected nonempty reported

/-! ## What a failed batch leaves -/

/-- The session with the handles that the echo of a batch shows. -/
def taking (session : Nftables) (asked : List Rule) (echoed : Json) : Nftables :=
  { session with tablePresent := true }.adopt (reportedHandles echoed asked)

/-- The rules asked for that have no handle once an echo has been read. -/
def omissions (session : Nftables) (asked : List Rule) (echoed : Json) : List Rule :=
  asked.filter fun rule => !(session.taking asked echoed).handles.contains rule

theorem settle_eq (session : Nftables) (asked : List Rule) (echoed : Json) :
    session.settle asked echoed =
      match session.omissions asked echoed with
      | [] => (session.taking asked echoed, .ok ())
      | missing => (session.taking asked echoed, .error (.internal
          ("nft did not report handles for " ++ ", ".intercalate (missing.map Rule.text)))) := rfl

/-- A committed batch whose echo shows no handle of some rule: the session has taken over the
handles that the echo does show, and the error names the rules without one. -/
structure LeavesOut (session : Nftables) (asked : List Rule) (echoed : Json)
    (outcome : Outcome Nftables) : Prop where
  omitted : ∃ rule ∈ asked, ∀ handle, (rule, handle) ∉ reportedHandles echoed asked
  taken : outcome.1 = session.taking asked echoed
  named : outcome.2 = .error (.internal ("nft did not report handles for " ++
    ", ".intercalate ((session.omissions asked echoed).map Rule.text)))

/-- A rule is held after handles have been taken over if one of them is for it. -/
theorem contains_adopt {found : List (Rule × Nat)} {rule : Rule} {handle : Nat}
    (reported : (rule, handle) ∈ found) : (session.adopt found).handles.contains rule = true := by
  have isKey : rule ∈ (session.adopt found).handles.keys :=
    (SortedMap.mem_keys_foldl_insert _).2 (.inl (List.mem_map.2 ⟨_, reported, rfl⟩))
  obtain ⟨held, isHeld⟩ := SortedMap.mem_keys_iff.1 isKey
  rw [SortedMap.contains, isHeld]
  rfl

theorem not_reported_of_mem_omissions {rule : Rule}
    (isMissing : rule ∈ session.omissions asked echoed) :
    rule ∈ asked ∧ ∀ handle, (rule, handle) ∉ reportedHandles echoed asked := by
  obtain ⟨isAsked, unheld⟩ := List.mem_filter.1 isMissing
  refine ⟨isAsked, fun handle reported => ?_⟩
  rw [taking, contains_adopt reported] at unheld
  cases unheld

theorem leavesOut_settle (failed : (session.settle asked echoed).2 = .error error) :
    LeavesOut session asked echoed (session.settle asked echoed) := by
  cases missing : session.omissions asked echoed with
  | nil =>
      rw [settle_eq, missing] at failed
      cases failed
  | cons rule rest =>
      have isMissing : rule ∈ session.omissions asked echoed := missing ▸ List.mem_cons_self
      obtain ⟨isAsked, unreported⟩ := not_reported_of_mem_omissions isMissing
      refine ⟨⟨rule, isAsked, unreported⟩, ?_, ?_⟩
      · rw [settle_eq, missing]
      · rw [settle_eq, missing]

/-- After a batch that succeeds the session holds all that was asked for. -/
theorem mem_rules_settle {rule : Rule} (isAsked : rule ∈ asked)
    (ok : (session.settle asked echoed).2 = .ok ()) :
    rule ∈ (session.settle asked echoed).1.rules := by
  cases missing : session.omissions asked echoed with
  | cons other rest =>
      rw [settle_eq, missing] at ok
      cases ok
  | nil =>
      rw [settle_eq, missing]
      have found : rule ∉ session.omissions asked echoed := missing ▸ List.not_mem_nil
      simp only [omissions, List.mem_filter, isAsked, true_and, Bool.not_eq_true',
        Bool.not_eq_false] at found
      exact SortedMap.contains_iff.1 found

/-- A batch that fails leaves the session as it was, unless the program has committed it and its
echo shows no handle of some rule; then the session has the handles that the echo does show.  With a
rule for port zero the session is left as it was and no command is given. -/
theorem session_after_failed_batch (isOpen : session.closed = false) (rules : List Rule)
    (replies : List Reply) :
    (∀ error, (Rehearsal.play (session.allowAll rules) replies).1.2 = .error error →
      (Rehearsal.play (session.allowAll rules) replies).1.1 = session ∨
      ∃ asked echoed, pending session.handles [] rules = .ok asked ∧
        received (Rehearsal.first replies) = .ok echoed ∧
        LeavesOut session asked echoed (Rehearsal.play (session.allowAll rules) replies).1) ∧
    ((∃ rule ∈ rules, rule.port = 0) →
      Rehearsal.play (session.allowAll rules) replies =
        ((session, .error (.validation "port" portOutOfRange)), [])) := by
  have batched := batched_play isOpen rules replies
  generalize Rehearsal.play (session.allowAll rules) replies = played at batched ⊢
  constructor
  · intro error failed
    cases batched with
    | invalid _ => exact .inl rfl
    | held _ => exact .inl rfl
    | rejected _ _ _ => exact .inl rfl
    | committed collected _ read =>
        exact .inr ⟨_, _, collected, read, leavesOut_settle failed⟩
  · rintro ⟨rule, isMember, zero⟩
    have refused : pending session.handles [] rules =
        .error (.validation "port" portOutOfRange) := pending_of_port_zero isMember zero
    cases batched with
    | invalid failed =>
        rw [refused] at failed
        cases failed
        rfl
    | held collected => cases refused.symm.trans collected
    | rejected collected _ _ => cases refused.symm.trans collected
    | committed collected _ _ => cases refused.symm.trans collected

/-! ### A batch of two rules -/

/-- The rule that lets in requests to a web server. -/
def web : Rule := ⟨.tcp, 80⟩

/-- The rule that lets in questions to a name server. -/
def names : Rule := ⟨.udp, 53⟩

/-- A rule for port zero. -/
def reserved : Rule := ⟨.udp, 0⟩

/-- A reply that the program gives when it refuses a batch. -/
def refusal : Reply := .ok (Ruleset.failure "Error: syntax error")

/-- Neither a refused batch nor one with a rule for port zero changes a new session. -/
theorem fresh_after_failed_batch :
    (Rehearsal.play (fresh.allowAll [web, names]) [refusal]).1.1 = fresh ∧
      Rehearsal.play (fresh.allowAll [web, reserved]) [] =
        ((fresh, .error (.validation "port" portOutOfRange)), []) := by
  have isOpen : fresh.closed = false := rfl
  constructor
  · rcases (session_after_failed_batch isOpen [web, names] [refusal]).1 _ rfl with
      kept | ⟨_, _, _, reported, _⟩
    · exact kept
    · cases reported
  · have invalid : ∃ rule ∈ [web, reserved], rule.port = 0 :=
      ⟨reserved, List.mem_cons_of_mem _ List.mem_cons_self, rfl⟩
    exact (session_after_failed_batch isOpen [web, reserved] []).2 invalid

/-- A ruleset in which the next handle is four. -/
def vacant : Ruleset := ⟨true, .empty, 4⟩

/-- A reply that says that the batch has been committed, and shows a handle of the first rule
only. -/
def partialEcho : Reply := .ok (Ruleset.printed (batch (vacant.echo [web])))

/-- An echo of rules that have been added is read as it was printed. -/
theorem received_echo {ruleset : Ruleset}
    (bounded : (ruleset.enter asked).next ≤ Word.greatest64 + 1) :
    received (.ok (Ruleset.printed (batch (ruleset.echo asked)))) =
      .ok (batch (ruleset.echo asked)) := by
  have succeeded (json : Json) : accepted (.ok (Ruleset.printed json)) =
      .ok (Ruleset.printed json) := rfl
  rw [received, succeeded]
  dsimp only [Except.bind, Ruleset.printed]
  rw [report_batch]
  exact document_compact_eq_ok.2 (exact_echo bounded)

/-- An echo of rules that have been added shows all their handles. -/
theorem settle_echo (valid : ∀ rule ∈ asked, rule.port ≠ 0) (ruleset : Ruleset) :
    (session.settle asked (batch (ruleset.echo asked))).2 = .ok () := by
  have noneMissing : session.omissions asked (batch (ruleset.echo asked)) = [] := by
    refine List.filter_eq_nil_iff.2 fun rule isAsked => ?_
    obtain ⟨handle, placed⟩ := Ruleset.exists_mem_zipIdx isAsked ruleset.next
    rw [← reportedHandles_echo valid ruleset] at placed
    rw [taking, contains_adopt placed]
    exact Bool.false_ne_true
  rw [settle_eq, noneMissing]

/-- A session that knows its table and holds no rule. -/
def opened : Nftables := { fresh with tablePresent := true }

/-- A batch of two rules that fails can leave the first of them behind. -/
theorem rules_after_failed_batch :
    opened.closed = false ∧ opened.rules = [] ∧
      (Rehearsal.play (opened.allowAll [web, names]) [partialEcho]).1.2 =
        .error (.internal "nft did not report handles for udp/53") ∧
      (Rehearsal.play (opened.allowAll [web, names]) [partialEcho]).1.1.rules = [web] := by
  have taking : opened.taking [web, names] (batch (vacant.echo [web])) =
      opened.adopt [(web, 4)] := by
    rw [Nftables.taking, reportedHandles_echo (List.forall_mem_singleton.2 (by decide))]
    rfl
  have missing : opened.omissions [web, names] (batch (vacant.echo [web])) = [names] := by
    rw [omissions, taking]
    rfl
  have text : "nft did not report handles for " ++ ", ".intercalate ([names].map Rule.text) =
      "nft did not report handles for udp/53" := by decide +kernel
  have settled : opened.settle [web, names] (batch (vacant.echo [web])) =
      (opened.adopt [(web, 4)], .error (.internal "nft did not report handles for udp/53")) := by
    rw [settle_eq, missing, taking, ← text]
  have read : received (Rehearsal.first [partialEcho]) = .ok (batch (vacant.echo [web])) :=
    received_echo (by decide)
  have collected : pending opened.handles [] [web, names] = .ok [web, names] := rfl
  have isOpen : opened.closed = false := rfl
  have batched := batched_play isOpen [web, names] [partialEcho]
  generalize Rehearsal.play (opened.allowAll [web, names]) [partialEcho] = played at batched ⊢
  cases batched with
  | invalid refused => cases collected.symm.trans refused
  | held nothing => cases collected.symm.trans nothing
  | rejected _ _ failed => cases read.symm.trans failed
  | committed again _ reported =>
      obtain rfl := Except.ok.inj (collected.symm.trans again)
      obtain rfl := Except.ok.inj (read.symm.trans reported)
      rw [settled]
      exact ⟨rfl, rfl, rfl, rfl⟩

end Nftables

end Gatehouse.Firewall
