import Gatehouse.Proofs.Firewall.Nftables.Failures
import Gatehouse.Proofs.Firewall.Transcript
/-!
# How a session with nftables starts

A session starts with a batch that creates the table, and once this has been carried out with a
listing of the chain.  It takes over the rules that the listing shows.
-/

namespace Gatehouse.Firewall

open Dialogue Transcript

variable {past now : Transcript}

theorem bind_eq_ok_iff {α β : Type} {first : Except Error α} {next : α → Except Error β}
    {value : β} :
    first.bind next = .ok value ↔ ∃ middle, first = .ok middle ∧ next middle = .ok value := by
  cases first <;> simp [Except.bind]

namespace Nftables

/-! ## Replies that can be read -/

/-- A batch has been carried out, and what was printed is blank or a document. -/
def CarriedOut (reply : Reply) : Prop :=
  ∃ output, reply = .ok output ∧ output.status = .exited 0 ∧
    (output.stdout.all isBlankByte = true ∨ ∃ json, Json.parseBytes? output.stdout = some json)

/-- The chain has been listed, and what was printed is this document. -/
def Shows (reply : Reply) (listing : Json) : Prop :=
  ∃ output, reply = .ok output ∧ output.status = .exited 0 ∧
    Json.parseBytes? output.stdout = some listing

theorem accepted_eq_ok_iff {reply : Reply} {output : Output} :
    accepted reply = .ok output ↔ reply = .ok output ∧ output.status = .exited 0 := by
  cases reply with
  | error error => simp [accepted]
  | ok given =>
      rw [Except.ok.injEq]
      by_cases succeeded : given.status = .exited 0
      · have taken : accepted (.ok given) = .ok given := if_pos (decide_eq_true succeeded)
        rw [taken, Except.ok.injEq]
        exact ⟨fun same => ⟨same, same ▸ succeeded⟩, And.left⟩
      · have refused : accepted (.ok given) = .error (.ofOutput name given) :=
          if_neg fun success => succeeded (of_decide_eq_true success)
        rw [refused]
        constructor
        · intro same
          cases same
        · rintro ⟨rfl, status⟩
          exact absurd status succeeded

theorem document_eq_ok_iff {stdout : Bytes} {json : Json} :
    document stdout = .ok json ↔ Json.parseBytes? stdout = some json := by
  rw [document]
  cases Json.parseBytes? stdout <;> simp

theorem exists_report_eq_ok_iff {stdout : Bytes} :
    (∃ json, report stdout = .ok json) ↔
      stdout.all isBlankByte = true ∨ ∃ json, Json.parseBytes? stdout = some json := by
  rw [report]
  split
  · rename_i blank
    exact iff_of_true ⟨.null, rfl⟩ (.inl blank)
  · rename_i notBlank
    simp only [document_eq_ok_iff, notBlank]
    exact (or_iff_right Bool.false_ne_true).symm

theorem carriedOut_iff {reply : Reply} : CarriedOut reply ↔ ∃ json, received reply = .ok json := by
  simp only [CarriedOut, received, bind_eq_ok_iff, accepted_eq_ok_iff]
  rw [exists_comm]
  simp only [exists_and_left, exists_report_eq_ok_iff, and_assoc]

/-! ## Sessions that are taken up -/

/-- The session that owns the rules of a listing. -/
def resumed (listing : Json) : Nftables :=
  { fresh with tablePresent := true }.adopt (reportedHandles listing [])

theorem mem_rules_resumed {listing : Json} {rule : Rule} :
    rule ∈ (resumed listing).rules ↔ ∃ handle, (rule, handle) ∈ reportedHandles listing [] := by
  rw [rules, resumed, adopt, SortedMap.mem_keys_foldl_insert]
  simp [fresh, SortedMap.keys, SortedMap.empty]

/-- The session that the reply to a listing gives. -/
def listed (reply : Reply) : Except Error Nftables :=
  (accepted reply).bind fun output =>
    (document output.stdout).bind fun listing => .ok (resumed listing)

theorem listed_eq_ok_iff {reply : Reply} {session : Nftables} :
    listed reply = .ok session ↔ ∃ listing, Shows reply listing ∧ session = resumed listing := by
  simp only [listed, Shows, bind_eq_ok_iff, accepted_eq_ok_iff, document_eq_ok_iff,
    Except.ok.injEq]
  constructor
  · rintro ⟨output, ⟨same, succeeded⟩, listing, parsed, rfl⟩
    exact ⟨listing, ⟨output, same, succeeded, parsed⟩, rfl⟩
  · rintro ⟨listing, ⟨output, same, succeeded, parsed⟩, rfl⟩
    exact ⟨output, ⟨same, succeeded⟩, listing, parsed, rfl⟩

/-! ## The start -/

theorem ends_apply_grows {commands : Json} {echo : Bool} {result : Except Error Json} :
    (apply commands echo).Ends Grows past result now ↔
      ∃ reply, result = received reply ∧ now = past ++ [(batchCommand commands echo, reply)] := by
  rw [apply, ends_ask_grows]
  constructor
  · rintro ⟨reply, ended⟩
    obtain ⟨rfl, rfl⟩ := ends_done.1 ended
    exact ⟨reply, rfl, rfl⟩
  · rintro ⟨reply, rfl, rfl⟩
    exact ⟨reply, .done _ _⟩

/-- A session is started by a batch that creates the table, and if this is carried out by a listing
of the chain. -/
theorem ends_start_grows {result : Except Error Nftables} :
    start.Ends Grows past result now ↔
      (∃ setup error, received setup = .error error ∧ result = .error error ∧
        now = past ++ [(batchCommand setupBatch false, setup)]) ∨
      ∃ setup reply, CarriedOut setup ∧ result = listed reply ∧
        now = past ++ [(batchCommand setupBatch false, setup), (listCommand, reply)] := by
  rw [start, ends_bind]
  constructor
  · rintro ⟨created, middle, applied, follows⟩
    obtain ⟨setup, rfl, rfl⟩ := ends_apply_grows.1 applied
    cases read : received setup with
    | error error =>
        rw [read] at follows
        obtain ⟨rfl, rfl⟩ := ends_done.1 follows
        exact .inl ⟨setup, error, read, rfl, rfl⟩
    | ok json =>
        rw [read] at follows
        obtain ⟨reply, concluded⟩ := ends_ask_grows.1 follows
        obtain ⟨rfl, rfl⟩ := ends_done.1 concluded
        exact .inr ⟨setup, reply, carriedOut_iff.2 ⟨json, read⟩, rfl, (List.append_cons ..).symm⟩
  · rintro (⟨setup, error, failed, rfl, rfl⟩ | ⟨setup, reply, created, rfl, rfl⟩)
    · refine ⟨_, _, ends_apply_grows.2 ⟨setup, rfl, rfl⟩, ?_⟩
      rw [failed]
      exact .done _ _
    · obtain ⟨json, read⟩ := carriedOut_iff.1 created
      refine ⟨_, _, ends_apply_grows.2 ⟨setup, rfl, rfl⟩, ?_⟩
      rw [read]
      exact ends_ask_grows.2 ⟨reply, ends_done.2 ⟨rfl, List.append_cons ..⟩⟩

end Nftables

end Gatehouse.Firewall
