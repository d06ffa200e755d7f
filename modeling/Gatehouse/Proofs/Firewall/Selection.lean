import Gatehouse.Firewall.Selection
import Gatehouse.Proofs.Firewall.Iptables.Session
import Gatehouse.Proofs.Firewall.Nftables.Start
/-!
# Which backend is chosen

A facility of the kernel comes up if its program is there and does at the start what it is asked
for.  The first facility that comes up is chosen, if the operator leaves the choice to the program,
and otherwise only the one preferred is tried.  A backend of the kernel owns the rules that its
listing shows, which is the last thing asked for.
-/

namespace Gatehouse.Firewall

open Dialogue Transcript

variable {available : Program → Bool} {past now : Transcript} {found : Option Backend}

/-! ## Starting a facility -/

theorem not_exists_eq_ok_iff {α : Type} {result : Except Error α} :
    (¬ ∃ value, result = .ok value) ↔ ∃ error, result = .error error := by
  cases result <;> simp

/-- Start a facility if its program is there. -/
def bringUp {σ : Type} (there : Bool) (start : Talk (Except Error σ)) (wrap : σ → Backend) :
    Talk (Option Backend) :=
  if there then start.bind fun result => .done (result.toOption.map wrap) else .done none

theorem ends_bringUp {σ : Type} {there : Bool} {start : Talk (Except Error σ)}
    {wrap : σ → Backend} :
    (bringUp there start wrap).Ends Grows past found now ↔
      there = true ∧
          ((∃ session, start.Ends Grows past (.ok session) now ∧ found = some (wrap session)) ∨
            (∃ error, start.Ends Grows past (.error error) now) ∧ found = none) ∨
        there = false ∧ found = none ∧ now = past := by
  cases there with
  | false => simp [bringUp, ends_done]
  | true =>
      simp only [bringUp, if_true, true_and, Bool.true_eq_false, false_and, or_false, ends_bind]
      constructor
      · rintro ⟨result, middle, started, follows⟩
        obtain ⟨rfl, rfl⟩ := ends_done.1 follows
        cases result with
        | error error => exact .inr ⟨⟨error, started⟩, rfl⟩
        | ok session => exact .inl ⟨session, started, rfl⟩
      · rintro (⟨session, started, rfl⟩ | ⟨⟨error, failed⟩, rfl⟩)
        · exact ⟨_, _, started, .done _ _⟩
        · exact ⟨_, _, failed, .done _ _⟩

theorem tryNftables_eq (available : Program → Bool) :
    Selection.tryNftables available = bringUp (available .nft) Nftables.start .nftables := by
  rw [Selection.tryNftables, bringUp]
  congr
  funext result
  cases result <;> rfl

theorem tryIptables_eq (available : Program → Bool) :
    Selection.tryIptables available = bringUp (available .iptables) Iptables.start .iptables := by
  rw [Selection.tryIptables, bringUp]
  congr
  funext result
  cases result <;> rfl

/-! ## Trying nftables -/

namespace Nftables

/-- What is tried with nftables, and the backend if it comes up. -/
inductive Tried (available : Program → Bool) : Transcript → Option Backend → Prop where
  /-- There is no program. -/
  | missing (absent : available .nft = false) : Tried available [] none
  /-- The table cannot be created. -/
  | refused {setup : Reply} (there : available .nft = true) (failed : ¬ CarriedOut setup) :
      Tried available [(batchCommand setupBatch false, setup)] none
  /-- The chain cannot be listed. -/
  | unlisted {setup reply : Reply} (there : available .nft = true) (created : CarriedOut setup)
      (failed : ∀ listing, ¬ Shows reply listing) :
      Tried available [(batchCommand setupBatch false, setup), (listCommand, reply)] none
  /-- The session takes over the rules of the listing. -/
  | up {setup reply : Reply} {listing : Json} (there : available .nft = true)
      (created : CarriedOut setup) (shown : Shows reply listing) :
      Tried available [(batchCommand setupBatch false, setup), (listCommand, reply)]
        (some (.nftables (resumed listing)))

theorem not_carriedOut_iff {reply : Reply} :
    ¬ CarriedOut reply ↔ ∃ error, received reply = .error error := by
  rw [carriedOut_iff, not_exists_eq_ok_iff]

theorem forall_not_shows_iff {reply : Reply} :
    (∀ listing, ¬ Shows reply listing) ↔ ∃ error, listed reply = .error error := by
  rw [← not_exists_eq_ok_iff]
  simp [listed_eq_ok_iff]

theorem ends_tryNftables :
    (Selection.tryNftables available).Ends Grows past found now ↔
      ∃ tried, Tried available tried found ∧ now = past ++ tried := by
  rw [tryNftables_eq, ends_bringUp]
  constructor
  · rintro (⟨there, ⟨session, started, rfl⟩ | ⟨⟨error, failed⟩, rfl⟩⟩ | ⟨absent, rfl, rfl⟩)
    · rcases ends_start_grows.1 started with ⟨_, _, _, isError, _⟩ |
        ⟨setup, reply, created, taken, rfl⟩
      · cases isError
      · obtain ⟨listing, shown, rfl⟩ := listed_eq_ok_iff.1 taken.symm
        exact ⟨_, .up there created shown, rfl⟩
    · rcases ends_start_grows.1 failed with ⟨setup, reason, rejected, _, rfl⟩ |
        ⟨setup, reply, created, taken, rfl⟩
      · exact ⟨_, .refused there (not_carriedOut_iff.2 ⟨reason, rejected⟩), rfl⟩
      · have unread := forall_not_shows_iff.2 ⟨error, taken.symm⟩
        exact ⟨_, .unlisted there created unread, rfl⟩
    · exact ⟨[], .missing absent, (List.append_nil _).symm⟩
  · rintro ⟨tried, comes, rfl⟩
    cases comes with
    | missing absent => exact .inr ⟨absent, rfl, List.append_nil _⟩
    | refused there failed =>
        obtain ⟨error, failed⟩ := not_carriedOut_iff.1 failed
        refine .inl ⟨there, .inr ⟨⟨error, ?_⟩, rfl⟩⟩
        exact ends_start_grows.2 (.inl ⟨_, error, failed, rfl, rfl⟩)
    | unlisted there created failed =>
        obtain ⟨error, failed⟩ := forall_not_shows_iff.1 failed
        refine .inl ⟨there, .inr ⟨⟨error, ?_⟩, rfl⟩⟩
        exact ends_start_grows.2 (.inr ⟨_, _, created, failed.symm, rfl⟩)
    | up there created shown =>
        have taken := listed_eq_ok_iff.2 ⟨_, shown, rfl⟩
        refine .inl ⟨there, .inl ⟨_, ?_, rfl⟩⟩
        exact ends_start_grows.2 (.inr ⟨_, _, created, taken.symm, rfl⟩)

end Nftables

/-! ## Trying iptables -/

namespace Iptables

/-- The chain has been listed, and this is the text that was printed. -/
def Shows (reply : Reply) (listing : String) : Prop :=
  ∃ output, reply = .ok output ∧ output.status = .exited 0 ∧
    listing = Utf8.lossyText output.stdout

/-- What is tried with iptables, and the backend if it comes up. -/
inductive Tried (available : Program → Bool) : Transcript → Option Backend → Prop where
  /-- There is no program. -/
  | missing (absent : available .iptables = false) : Tried available [] none
  /-- The chain cannot be listed. -/
  | unlisted {reply : Reply} (there : available .iptables = true)
      (failed : ∀ listing, ¬ Shows reply listing) : Tried available [(listCommand, reply)] none
  /-- The session takes over the rules of the listing. -/
  | up {reply : Reply} {listing : String} (there : available .iptables = true)
      (shown : Shows reply listing) :
      Tried available [(listCommand, reply)] (some (.iptables (resumed listing)))

/-- The session that the reply to a listing gives. -/
def listed : Reply → Except Error Iptables
  | .error error => .error error
  | .ok output =>
      if output.status = .exited 0 then .ok (resumed (Utf8.lossyText output.stdout))
      else .error (.ofOutput name output)

theorem listed_eq_ok_iff {reply : Reply} {session : Iptables} :
    listed reply = .ok session ↔ ∃ listing, Shows reply listing ∧ session = resumed listing := by
  cases reply with
  | error error => simp [listed, Shows]
  | ok output =>
      by_cases succeeded : output.status = .exited 0 <;> simp [listed, Shows, succeeded, eq_comm]

theorem forall_not_shows_iff {reply : Reply} :
    (∀ listing, ¬ Shows reply listing) ↔ ∃ error, listed reply = .error error := by
  rw [← not_exists_eq_ok_iff]
  simp [listed_eq_ok_iff]

/-- A session is started by a listing of the chain. -/
theorem ends_start_grows {result : Except Error Iptables} :
    start.Ends Grows past result now ↔
      ∃ reply, result = listed reply ∧ now = past ++ [(listCommand, reply)] := by
  rw [start, ends_ask_grows]
  refine exists_congr fun reply => ?_
  cases reply with
  | error error => exact ends_done
  | ok output =>
      by_cases succeeded : output.status = .exited 0
      · simp only [listed, ExitStatus.isSuccess, succeeded, decide_true, if_true]
        exact ends_done
      · simp only [listed, ExitStatus.isSuccess, succeeded, decide_false, if_false]
        exact ends_done

theorem ends_tryIptables :
    (Selection.tryIptables available).Ends Grows past found now ↔
      ∃ tried, Tried available tried found ∧ now = past ++ tried := by
  rw [tryIptables_eq, ends_bringUp]
  constructor
  · rintro (⟨there, ⟨session, started, rfl⟩ | ⟨⟨error, failed⟩, rfl⟩⟩ | ⟨absent, rfl, rfl⟩)
    · obtain ⟨reply, taken, rfl⟩ := ends_start_grows.1 started
      obtain ⟨listing, shown, rfl⟩ := listed_eq_ok_iff.1 taken.symm
      exact ⟨_, .up there shown, rfl⟩
    · obtain ⟨reply, taken, rfl⟩ := ends_start_grows.1 failed
      exact ⟨_, .unlisted there (forall_not_shows_iff.2 ⟨error, taken.symm⟩), rfl⟩
    · exact ⟨[], .missing absent, (List.append_nil _).symm⟩
  · rintro ⟨tried, comes, rfl⟩
    cases comes with
    | missing absent => exact .inr ⟨absent, rfl, List.append_nil _⟩
    | unlisted there failed =>
        obtain ⟨error, failed⟩ := forall_not_shows_iff.1 failed
        refine .inl ⟨there, .inr ⟨⟨error, ?_⟩, rfl⟩⟩
        exact ends_start_grows.2 ⟨_, failed.symm, rfl⟩
    | up there shown =>
        have taken := listed_eq_ok_iff.2 ⟨_, shown, rfl⟩
        refine .inl ⟨there, .inl ⟨_, ?_, rfl⟩⟩
        exact ends_start_grows.2 ⟨_, taken.symm, rfl⟩

end Iptables

/-! ## Programs that are run -/

theorem Nftables.Tried.program_eq {tried : Transcript}
    (comes : Nftables.Tried available tried found) :
    ∀ entry ∈ tried, entry.1.program = .nft := by
  cases comes <;> simp [Nftables.batchCommand, Nftables.listCommand]

theorem Iptables.Tried.program_eq {tried : Transcript}
    (comes : Iptables.Tried available tried found) :
    ∀ entry ∈ tried, entry.1.program = .iptables := by
  cases comes <;> simp [Iptables.listCommand]

/-! ## Rules that are taken over -/

/-- A backend of the kernel owns the rules that its last reply shows, and other backends own none.
Nothing but nftables has been tried if it came up. -/
def TakesOver (transcript : Transcript) : Backend → Prop
  | .nftables session =>
      (∀ entry ∈ transcript, entry.1.program = .nft) ∧
        ∃ before reply listing, transcript = before ++ [(Nftables.listCommand, reply)] ∧
          Nftables.Shows reply listing ∧
          ∀ rule, rule ∈ session.rules ↔
            ∃ handle, (rule, handle) ∈ Nftables.reportedHandles listing []
  | .iptables session =>
      ∃ before reply listing, transcript = before ++ [(Iptables.listCommand, reply)] ∧
        Iptables.Shows reply listing ∧
        ∀ rule, rule ∈ session.rules ↔ rule ∈ Iptables.rulesOfListing listing
  | other => other.rules = []

theorem Nftables.Tried.takesOver {tried : Transcript}
    (comes : Nftables.Tried available tried found) :
    TakesOver tried (found.getD .null) := by
  have programs := comes.program_eq
  cases comes with
  | @up setup reply listing _ _ shown =>
      exact ⟨programs, [_], reply, listing, rfl, shown, fun _ => Nftables.mem_rules_resumed⟩
  | _ => rfl

theorem Iptables.Tried.takesOver {tried : Transcript}
    (comes : Iptables.Tried available tried found) (before : Transcript) :
    TakesOver (before ++ tried) (found.getD .null) := by
  cases comes with
  | @up reply listing _ shown =>
      exact ⟨before, reply, listing, rfl, shown, fun _ => Iptables.mem_rules_resumed⟩
  | _ => rfl

/-! ## The choice -/

namespace Selection

variable {external : BitVec 32} {transcript : Transcript} {backend : Backend}

/-- The null backend takes the place of what is not found. -/
theorem ends_orNull {talk : Talk (Option Backend)} :
    (talk.bind fun found => .done (found.getD .null)).Ends Grows past backend now ↔
      ∃ found, talk.Ends Grows past found now ∧ backend = found.getD .null := by
  rw [ends_bind]
  constructor
  · rintro ⟨found, middle, tried, follows⟩
    obtain ⟨rfl, rfl⟩ := ends_done.1 follows
    exact ⟨found, tried, rfl⟩
  · rintro ⟨found, tried, rfl⟩
    exact ⟨found, now, tried, .done _ _⟩

theorem ends_select_nftables :
    (select available external .nftables).Ends Grows [] backend transcript ↔
      ∃ found, Nftables.Tried available transcript found ∧ backend = found.getD .null := by
  simp [select, ends_orNull, Nftables.ends_tryNftables]

theorem ends_select_iptables :
    (select available external .iptables).Ends Grows [] backend transcript ↔
      ∃ found, Iptables.Tried available transcript found ∧ backend = found.getD .null := by
  simp [select, ends_orNull, Iptables.ends_tryIptables]

theorem ends_select_auto :
    (select available external .auto).Ends Grows [] backend transcript ↔
      Nftables.Tried available transcript (some backend) ∨
        ∃ tried rest found, transcript = tried ++ rest ∧ Nftables.Tried available tried none ∧
          Iptables.Tried available rest found ∧ backend = found.getD .null := by
  rw [select, ends_bind]
  constructor
  · rintro ⟨first, tried, triedFirst, follows⟩
    obtain ⟨_, comes, rfl⟩ := Nftables.ends_tryNftables.1 triedFirst
    cases first with
    | some session =>
        obtain ⟨rfl, rfl⟩ := ends_done.1 follows
        exact .inl comes
    | none =>
        obtain ⟨found, triedThen, rfl⟩ := ends_orNull.1 follows
        obtain ⟨rest, others, rfl⟩ := Iptables.ends_tryIptables.1 triedThen
        exact .inr ⟨_, rest, found, rfl, comes, others, rfl⟩
  · rintro (comes | ⟨tried, rest, found, rfl, comes, others, rfl⟩)
    · exact ⟨_, _, Nftables.ends_tryNftables.2 ⟨_, comes, rfl⟩, .done _ _⟩
    · refine ⟨none, tried, Nftables.ends_tryNftables.2 ⟨_, comes, rfl⟩, ?_⟩
      exact ends_orNull.2 ⟨found, Iptables.ends_tryIptables.2 ⟨_, others, rfl⟩, rfl⟩

theorem takesOver_of_ends_select {preference : Preference}
    (ended : (select available external preference).Ends Grows [] backend transcript) :
    TakesOver transcript backend := by
  cases preference with
  | auto =>
      rcases ends_select_auto.1 ended with comes | ⟨tried, rest, found, rfl, _, others, rfl⟩
      · exact comes.takesOver
      · exact others.takesOver tried
  | nftables =>
      obtain ⟨found, comes, rfl⟩ := ends_select_nftables.1 ended
      exact comes.takesOver
  | iptables =>
      obtain ⟨found, comes, rfl⟩ := ends_select_iptables.1 ended
      exact comes.takesOver []
  | softwareNat | disabled =>
      obtain ⟨rfl, rfl⟩ := ends_done.1 ended
      rfl

/-- The choice of a backend ends, with any replies, as the preference has it.  Without a preference
for a facility, nftables is chosen if it comes up, and else iptables is tried after it.  A facility
that is preferred is the only one tried.  In either case the null backend takes the place of what
does not come up.  For software NAT and for no backend nothing is run.  The backend owns the rules
that it takes over from its own listing, if it is one of the kernel, and none otherwise. -/
theorem select_honours_preference (available : Program → Bool) (external : BitVec 32)
    (transcript : Transcript) (backend : Backend) :
    ((select available external .auto).Ends Grows [] backend transcript ↔
      Nftables.Tried available transcript (some backend) ∨
        ∃ tried rest found, transcript = tried ++ rest ∧ Nftables.Tried available tried none ∧
          Iptables.Tried available rest found ∧ backend = found.getD .null) ∧
    ((select available external .nftables).Ends Grows [] backend transcript ↔
      ∃ found, Nftables.Tried available transcript found ∧ backend = found.getD .null) ∧
    ((select available external .iptables).Ends Grows [] backend transcript ↔
      ∃ found, Iptables.Tried available transcript found ∧ backend = found.getD .null) ∧
    ((select available external .softwareNat).Ends Grows [] backend transcript ↔
      backend = .softwareNat external ∧ transcript = []) ∧
    ((select available external .disabled).Ends Grows [] backend transcript ↔
      backend = .null ∧ transcript = []) ∧
    (∀ found, Nftables.Tried available transcript found →
      ∀ entry ∈ transcript, entry.1.program = .nft) ∧
    (∀ found, Iptables.Tried available transcript found →
      ∀ entry ∈ transcript, entry.1.program = .iptables) ∧
    ∀ preference, (select available external preference).Ends Grows [] backend transcript →
      TakesOver transcript backend :=
  ⟨ends_select_auto, ends_select_nftables, ends_select_iptables, ends_done, ends_done,
    fun _ comes => comes.program_eq, fun _ comes => comes.program_eq,
    fun _ ended => takesOver_of_ends_select ended⟩

/-- Where the table cannot be created, iptables is tried next. -/
example :
    (Rehearsal.play (select (fun _ => true) 0 .auto)
      [.ok ⟨.exited 1, [], []⟩, .ok .silent]).2.map Command.program = [.nft, .iptables] := by
  decide +kernel

end Selection

end Gatehouse.Firewall
