import Gatehouse.Proofs.Firewall.Nftables.Ruleset
/-!
# What the filter makes of the batches

The batches of the backend are read by the filter as they were written.  A batch that is committed
has one of four effects: table and chain are there, rules stand at the next handles, one rule is
gone, or the table is gone with all its rules.
-/

namespace Gatehouse.Firewall.Nftables

open Json

/-! ## The documents of rules -/

/-- An allow rule as it is sent. -/
def sent (rule : Rule) : Document where
  toList := [
    ("chain", .string chainName), ("comment", .string ("sleuth " ++ rule.text)),
    ("expr", .array (expressions rule)), ("family", .string tableFamily),
    ("table", .string tableName)]
  sorted := sorted_iff_names.2
    (show List.Pairwise _ ["chain", "comment", "expr", "family", "table"] by decide)

/-- A rule that may take effect is sent as a document that amounts to it. -/
theorem rule?_sent {rule : Rule} (valid : rule.port ≠ 0) : (sent rule).rule? = some rule := by
  have table : (sent rule).get? "table" = some (.string tableName) := by
    rw [← member?_ofMap]
    rfl
  have expr : (sent rule).get? "expr" = some (.array (expressions rule)) := by
    rw [← member?_ofMap]
    rfl
  simp only [Document.rule?, table, expr, Option.bind_some, text?, if_true,
    ruleOfExpressions?_expressions valid]

theorem exact_member {room : Nat} {name : String} {value : Json} (exact : value.Exact room) :
    (member name value).Exact (room + 1) :=
  exact_object (List.pairwise_singleton _ _) (List.forall_mem_singleton.2 exact)

theorem forall_mem_sent {property : Json → Prop} (text : ∀ value, property (.string value))
    {rule : Rule} (expr : property (.array (expressions rule))) :
    ∀ entry ∈ (sent rule).toList, property entry.2 := by
  simp only [sent, List.forall_mem_cons, text, expr, List.not_mem_nil, IsEmpty.forall_iff,
    implies_true, and_self]

theorem port_le (rule : Rule) : rule.port.toNat ≤ Word.greatest64 :=
  Nat.le_trans (Nat.le_of_lt rule.port.toNat_lt) (by decide)

theorem exact_matching {room : Nat} {left right : Json} (leftExact : left.Exact room)
    (rightExact : right.Exact room) : (matching left right).Exact (room + 2) :=
  exact_member (exact_object
    (sorted_iff_names.2 (show List.Pairwise _ ["left", "op", "right"] by decide))
    (by simp [leftExact, rightExact, exact_string]))

theorem exact_protocolField (room : Nat) : protocolField.Exact (room + 2) :=
  exact_member (exact_member (exact_string _ _))

theorem exact_portField (room : Nat) : portField.Exact (room + 2) :=
  exact_member (exact_object
    (sorted_iff_names.2 (show List.Pairwise _ ["base", "len", "offset"] by decide))
    (by simp [exact_string, exact_nat _ (n := 16) (by decide)]))

theorem exact_expressions (room : Nat) (rule : Rule) :
    (Json.array (expressions rule)).Exact (room + 5) := by
  have port : (Json.nat rule.port.toNat).Exact (room + 2) := exact_nat _ (port_le rule)
  refine exact_array (List.forall_mem_cons.2 ⟨?_, List.forall_mem_cons.2 ⟨?_, ?_⟩⟩)
  · exact exact_matching (exact_protocolField room) (exact_string _ _)
  · exact exact_matching (exact_portField room) port
  · exact List.forall_mem_singleton.2 (exact_member (exact_null _))

theorem exact_sent (room : Nat) (rule : Rule) :
    ∀ entry ∈ (sent rule).toList, entry.2.Exact (room + 5) :=
  forall_mem_sent (exact_string _) (exact_expressions room rule)

theorem canonical_sent (rule : Rule) : ∀ entry ∈ (sent rule).toList, entry.2.Canonical :=
  fun entry isMember => (exact_sent 0 rule entry isMember).canonical

/-! ## Batches are read as they were written -/

theorem exact_setup (room : Nat) : ∀ command ∈ setup, command.Exact (room + 3) := by
  have tableExact : table.Exact (room + 2) := exact_member (exact_object
    (sorted_iff_names.2 (show List.Pairwise _ ["family", "name"] by decide))
    (by simp [exact_string]))
  have chainExact : chain.Exact (room + 2) := exact_member (exact_object
    (sorted_iff_names.2 (show List.Pairwise _
      ["family", "hook", "name", "policy", "prio", "table", "type"] by decide))
    (by simp [exact_string, exact_nat _ (n := 0) (by decide)]))
  exact List.forall_mem_cons.2
    ⟨exact_member tableExact, List.forall_mem_singleton.2 (exact_member chainExact)⟩

theorem exact_addRule (room : Nat) (rule : Rule) : (addRule rule).Exact (room + 8) :=
  exact_member (exact_member (exact_object (sent rule).sorted (exact_sent room rule)))

theorem exact_deleteRule (room : Nat) {handle : Nat} (fits : handle ≤ Word.greatest64) :
    (deleteRule handle).Exact (room + 3) :=
  exact_member (exact_member (exact_object
    (sorted_iff_names.2 (show List.Pairwise _ ["chain", "family", "handle", "table"] by decide))
    (by simp [exact_string, exact_nat _ fits])))

theorem exact_deleteTable (room : Nat) : (member "delete" table).Exact (room + 3) :=
  exact_member (exact_member (exact_object
    (sorted_iff_names.2 (show List.Pairwise _ ["family", "name"] by decide))
    (by simp [exact_string])))

theorem exact_batch {room : Nat} {commands : List Json}
    (exact : ∀ command ∈ commands, command.Exact room) : (batch commands).Exact (room + 2) :=
  exact_member (exact_array exact)

/-- A batch is read as it was written if each of its commands is.  A command stands two levels deep
in its batch. -/
theorem parse?_batch {commands : List Json} (exact : ∀ command ∈ commands, command.Exact 125) :
    Json.parse? (batch commands).compact = some (batch commands) := by
  rw [parse?_compact]
  exact exact_batch exact

/-- The commands that add rules are read as they were written. -/
theorem exact_allowBatch (asked : List Rule) :
    ∀ command ∈ setup ++ asked.map addRule, command.Exact 125 :=
  List.forall_mem_append.2
    ⟨exact_setup 122, List.forall_mem_map.2 fun rule _ => exact_addRule 117 rule⟩

/-- A batch of commands is served as these commands, if each of them is read as it was written. -/
theorem serve_batch {commands : List Json} (exact : ∀ command ∈ commands, command.Exact 125)
    (ruleset : Ruleset) (echo : Bool) :
    ruleset.serve (batchCommand (batch commands) echo) = ruleset.commit commands echo := by
  have read := parse?_batch exact
  have found : ((batch commands).member? "nftables").bind Json.items? = some commands := rfl
  have noList : (batchCommand (batch commands) echo).arguments.contains "list" = false := by
    cases echo <;> rfl
  have echoes : (batchCommand (batch commands) echo).arguments.contains "--echo" = echo := by
    cases echo <;> rfl
  have input : (batchCommand (batch commands) echo).input = some (batch commands).compact := rfl
  simp only [Ruleset.serve, noList, echoes, input, Option.bind_some, read, found,
    Option.getD_some, Bool.false_eq_true, if_false]

/-! ## What the commands do -/

namespace Ruleset

/-- The ruleset with rules at the next handles. -/
def enter (ruleset : Ruleset) (asked : List Rule) : Ruleset :=
  { ruleset with
    rules := (asked.zipIdx ruleset.next).foldl
      (fun rules entry => rules.insert entry.2 (sent entry.1)) ruleset.rules
    next := ruleset.next + asked.length }

/-- What is echoed for rules at the next handles. -/
def echo (ruleset : Ruleset) (asked : List Rule) : List Json :=
  (asked.zipIdx ruleset.next).map fun entry => member "add" (numbered entry.2 (sent entry.1))

variable {ruleset after : Ruleset} {echoed : List Json}

theorem processAll_setup (ruleset : Ruleset) (rest : List Json) :
    ruleset.processAll (setup ++ rest) = { ruleset with table := true }.processAll rest := by
  have tableAdded (ruleset : Ruleset) : ruleset.process (member "add" Nftables.table) =
      .ok ({ ruleset with table := true }, []) := rfl
  have chainAdded (ruleset : Ruleset) : ruleset.process (member "add" chain) =
      .ok (ruleset, []) := rfl
  simp only [setup, List.cons_append, List.nil_append, processAll, tableAdded, chainAdded, bind,
    Except.bind]
  cases processAll { ruleset with table := true } rest <;> rfl

/-- Rules that are added without a complaint stand at the next handles. -/
theorem processAll_addRules {asked : List Rule} (bounded : ruleset.next ≤ Word.greatest64 + 1)
    (processed : ruleset.processAll (asked.map addRule) = .ok (after, echoed)) :
    after = ruleset.enter asked ∧ echoed = ruleset.echo asked ∧
      after.next ≤ Word.greatest64 + 1 := by
  induction asked generalizing ruleset echoed with
  | nil =>
      cases processed
      exact ⟨rfl, rfl, bounded⟩
  | cons rule rest ih =>
      have added : ruleset.process (addRule rule) = ruleset.add (.object (sent rule).toList) := rfl
      rw [List.map_cons, processAll, added, add, SortedMap.ofList_toList] at processed
      by_cases room : ruleset.next ≤ Word.greatest64
      · rw [if_pos room] at processed
        simp only [bind, Except.bind] at processed
        split at processed
        · cases processed
        · rename_i others follows
          cases processed
          obtain ⟨entered, same, inRange⟩ := ih (Nat.succ_le_succ room) follows
          have count : ruleset.next + 1 + rest.length = ruleset.next + (rest.length + 1) := by
            omega
          refine ⟨?_, ?_, inRange⟩
          · simp only [entered, enter, List.zipIdx_cons, List.foldl_cons, List.length_cons, count]
          · simp only [same, echo, List.zipIdx_cons, List.map_cons, List.cons_append,
              List.nil_append]
      · rw [if_neg room] at processed
        cases processed

/-- A single command is processed as the batch of it. -/
theorem processAll_singleton (ruleset : Ruleset) (command : Json) :
    ruleset.processAll [command] = ruleset.process command := by
  simp only [processAll, bind, Except.bind]
  cases ruleset.process command with
  | error complaint => rfl
  | ok first => simp [pure, Except.pure]

theorem process_deleteRule {handle : Nat}
    (processed : ruleset.process (deleteRule handle) = .ok (after, echoed)) :
    after = { ruleset with rules := ruleset.rules.erase handle } := by
  have deleted : ruleset.process (deleteRule handle) = ruleset.delete handle := rfl
  rw [deleted, delete] at processed
  split at processed
  · cases processed
    rfl
  · cases processed

theorem process_deleteTable
    (processed : ruleset.process (member "delete" Nftables.table) = .ok (after, echoed)) :
    after = { ruleset with table := false, rules := .empty } := by
  have deleted : ruleset.process (member "delete" Nftables.table) = ruleset.drop := rfl
  rw [deleted, drop] at processed
  split at processed
  · cases processed
    rfl
  · cases processed

/-! ## Rulesets after a change -/

theorem handle_le_of_mem_zipIdx {asked : List Rule} {start handle : Nat} {rule : Rule}
    (bounded : start + asked.length ≤ Word.greatest64 + 1)
    (placed : (rule, handle) ∈ asked.zipIdx start) : handle ≤ Word.greatest64 := by
  have below : handle < start + asked.length := List.snd_lt_add_of_mem_zipIdx placed
  omega

theorem exists_mem_zipIdx {asked : List Rule} {rule : Rule} (isAsked : rule ∈ asked) (start : Nat) :
    ∃ handle, (rule, handle) ∈ asked.zipIdx start := by
  rw [← List.zipIdx_map_fst start asked] at isAsked
  obtain ⟨⟨_, handle⟩, placed, rfl⟩ := List.mem_map.1 isAsked
  exact ⟨handle, placed⟩

/-- A handle is given to one rule. -/
theorem rule_eq_of_mem_zipIdx {asked : List Rule} {start handle : Nat} {rule other : Rule}
    (here : (rule, handle) ∈ asked.zipIdx start) (there : (other, handle) ∈ asked.zipIdx start) :
    rule = other := by
  rw [List.mk_mem_zipIdx_iff_le_and_getElem?_sub] at here there
  exact Option.some.inj (here.2.symm.trans there.2)

/-- A rule that is asked for once is given one handle. -/
theorem handle_eq_of_mem_zipIdx {asked : List Rule} (once : asked.Nodup) {start : Nat} {rule : Rule}
    {first second : Nat} (here : (rule, first) ∈ asked.zipIdx start)
    (there : (rule, second) ∈ asked.zipIdx start) : first = second := by
  have bound : first < start + asked.length := List.snd_lt_add_of_mem_zipIdx here
  rw [List.mk_mem_zipIdx_iff_le_and_getElem?_sub] at here there
  have same := (List.getElem?_inj (by omega) once).1 (here.2.trans there.2.symm)
  omega

/-- Handles are given once, so rules that are added replace none. -/
theorem get?_enter (wellFormed : ruleset.WellFormed) {asked : List Rule} {handle : Nat}
    {document : Document} :
    (ruleset.enter asked).rules.get? handle = some document ↔
      (∃ rule, (rule, handle) ∈ asked.zipIdx ruleset.next ∧ sent rule = document) ∨
        ruleset.rules.get? handle = some document := by
  have placed {key : Nat} {content : Document} :
      (key, content) ∈ (asked.zipIdx ruleset.next).map (fun entry => (entry.2, sent entry.1)) ↔
        ∃ rule, (rule, key) ∈ asked.zipIdx ruleset.next ∧ sent rule = content := by
    simp [List.mem_map]
  have agree (key : Nat) (first second : Document)
      (here : (key, first) ∈ (asked.zipIdx ruleset.next).map fun entry => (entry.2, sent entry.1))
      (there : (key, second) ∈ (asked.zipIdx ruleset.next).map fun entry =>
        (entry.2, sent entry.1)) : first = second := by
    obtain ⟨rule, one, rfl⟩ := placed.1 here
    obtain ⟨other, two, rfl⟩ := placed.1 there
    rw [rule_eq_of_mem_zipIdx one two]
  have folded : (ruleset.enter asked).rules =
      ((asked.zipIdx ruleset.next).map fun entry => (entry.2, sent entry.1)).foldl
        (fun rules entry => rules.insert entry.1 entry.2) ruleset.rules := by
    rw [List.foldl_map]
    rfl
  rw [folded, SortedMap.get?_foldl_insert agree, placed]
  constructor
  · rintro (new | ⟨_, old⟩)
    · exact .inl new
    · exact .inr old
  · rintro (new | old)
    · exact .inl new
    · refine .inr ⟨fun other isMember => ?_, old⟩
      obtain ⟨rule, new, _⟩ := placed.1 isMember
      have below : handle < ruleset.next := wellFormed.fresh old
      have above : ruleset.next ≤ handle := List.le_snd_of_mem_zipIdx new
      omega

theorem rule?_enter (wellFormed : ruleset.WellFormed) {asked : List Rule}
    (valid : ∀ rule ∈ asked, rule.port ≠ 0) {handle : Nat} {rule : Rule} :
    (ruleset.enter asked).rule? handle = some rule ↔
      (rule, handle) ∈ asked.zipIdx ruleset.next ∨ ruleset.rule? handle = some rule := by
  simp only [rule?, Option.bind_eq_some_iff, get?_enter wellFormed]
  constructor
  · rintro ⟨document, ⟨other, new, rfl⟩ | old, found⟩
    · rw [rule?_sent (valid other (List.fst_mem_of_mem_zipIdx new))] at found
      exact .inl (Option.some.inj found ▸ new)
    · exact .inr ⟨document, old, found⟩
  · rintro (new | ⟨document, old, found⟩)
    · have isAsked : rule ∈ asked := List.fst_mem_of_mem_zipIdx new
      exact ⟨sent rule, .inl ⟨rule, new, rfl⟩, rule?_sent (valid rule isAsked)⟩
    · exact ⟨document, .inr old, found⟩

theorem rule?_erase {handle place : Nat} {rule : Rule} :
    ({ ruleset with rules := ruleset.rules.erase place } : Ruleset).rule? handle = some rule ↔
      handle ≠ place ∧ ruleset.rule? handle = some rule := by
  simp only [Ruleset.rule?, Option.bind_eq_some_iff, SortedMap.get?_erase_eq_some]
  constructor
  · rintro ⟨document, ⟨apart, held⟩, found⟩
    exact ⟨apart, document, held, found⟩
  · rintro ⟨apart, document, held, found⟩
    exact ⟨document, ⟨apart, held⟩, found⟩

namespace WellFormed

theorem setup (wellFormed : ruleset.WellFormed) :
    ({ ruleset with table := true } : Ruleset).WellFormed where
  rooted := nofun
  fresh := wellFormed.fresh
  bounded := wellFormed.bounded
  canonical := wellFormed.canonical

theorem enter (wellFormed : ruleset.WellFormed) (isTable : ruleset.table = true)
    {asked : List Rule} (bounded : (ruleset.enter asked).next ≤ Word.greatest64 + 1) :
    (ruleset.enter asked).WellFormed where
  rooted noTable := by
    have same : (ruleset.enter asked).table = ruleset.table := rfl
    rw [same, isTable] at noTable
    cases noTable
  fresh held := by
    rcases (get?_enter wellFormed).1 held with ⟨rule, new, _⟩ | old
    · exact List.snd_lt_add_of_mem_zipIdx new
    · exact Nat.lt_of_lt_of_le (wellFormed.fresh old) (Nat.le_add_right _ _)
  bounded := bounded
  canonical held := by
    rcases (get?_enter wellFormed).1 held with ⟨rule, _, rfl⟩ | old
    · exact canonical_sent rule
    · exact wellFormed.canonical old

theorem erase (wellFormed : ruleset.WellFormed) (place : Nat) :
    ({ ruleset with rules := ruleset.rules.erase place } : Ruleset).WellFormed where
  rooted noTable := by
    have empty : ruleset.rules = .empty := wellFormed.rooted noTable
    rw [empty]
    rfl
  fresh held := wellFormed.fresh (SortedMap.get?_erase_eq_some.1 held).2
  bounded := wellFormed.bounded
  canonical held := wellFormed.canonical (SortedMap.get?_erase_eq_some.1 held).2

theorem drop (wellFormed : ruleset.WellFormed) :
    ({ ruleset with table := false, rules := .empty } : Ruleset).WellFormed where
  rooted _ := rfl
  fresh := nofun
  bounded := wellFormed.bounded
  canonical := nofun

end WellFormed

end Ruleset

end Gatehouse.Firewall.Nftables
