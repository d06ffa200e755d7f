import Gatehouse.Firewall.Nftables
import Gatehouse.Proofs.Firewall.Nftables.Listing
/-!
# The packet filter that nftables stands for

A ruleset is what the kernel has of the managed table: the rules of the chain by their handles, as
the documents that they were sent as.  The filter commits a batch as a whole, gives each new rule
the next handle, and prints rules with their handles when it lists or echoes them.  A filter in use
serves a command like that, or refuses it and has done nothing.
-/

namespace Gatehouse.Firewall.Nftables

/-- A rule as the filter keeps it. -/
abbrev Document := SortedMap String Json

/-- A rule as it is printed with its handle. -/
def numbered (handle : Nat) (document : Document) : Json :=
  member "rule" (.object (document.insert "handle" (.nat handle)).toList)

/-- The allow rule that a document amounts to, if it is in the managed table. -/
def Document.rule? (document : Document) : Option Rule :=
  if (document.get? "table").bind Json.text? = some tableName then
    (document.get? "expr").bind ruleOfExpressions?
  else none

/-- What the kernel has of the managed table. -/
structure Ruleset where
  /-- Whether the table is there. -/
  table : Bool
  /-- The rules of the chain. -/
  rules : SortedMap Nat Document
  /-- The handle of the next rule. -/
  next : Nat

namespace Ruleset

/-- The allow rule with a handle. -/
def rule? (ruleset : Ruleset) (handle : Nat) : Option Rule :=
  (ruleset.rules.get? handle).bind Document.rule?

/-! ## Commands of a batch -/

/-- What the filter says about something that is not there. -/
def missing : String := "Error: No such file or directory"

/-- Add a rule at the next handle, as long as there is one, and echo it. -/
def add (ruleset : Ruleset) : Json → Except String (Ruleset × List Json)
  | .object members =>
      if ruleset.next ≤ Word.greatest64 then
        let document := SortedMap.ofList members
        .ok ({ ruleset with
            rules := ruleset.rules.insert ruleset.next document, next := ruleset.next + 1 },
          [member "add" (numbered ruleset.next document)])
      else .error "Error: Could not process rule: No space left on device"
  | _ => .error "Error: syntax error"

/-- Delete the rule with a handle. -/
def delete (ruleset : Ruleset) (handle : Nat) : Except String (Ruleset × List Json) :=
  if ruleset.rules.contains handle then
    .ok ({ ruleset with rules := ruleset.rules.erase handle }, [])
  else .error "Error: Could not process rule: No such file or directory"

/-- Delete the table with its rules. -/
def drop (ruleset : Ruleset) : Except String (Ruleset × List Json) :=
  if ruleset.table then .ok ({ ruleset with table := false, rules := .empty }, [])
  else .error missing

/-- Process one command: the ruleset after it, and what is echoed. -/
def process (ruleset : Ruleset) (command : Json) : Except String (Ruleset × List Json) :=
  let added (kind : String) := (command.member? "add").bind (Json.member? kind)
  let deleted (kind : String) := (command.member? "delete").bind (Json.member? kind)
  if (added "table").isSome then .ok ({ ruleset with table := true }, [])
  else
    match added "rule", deleted "rule" with
    | some rule, _ => ruleset.add rule
    | none, some rule => ruleset.delete (((rule.member? "handle").bind Json.nat?).getD 0)
    | none, none => if (deleted "table").isSome then ruleset.drop else .ok (ruleset, [])

/-- Process commands one after the other, up to the first that fails. -/
def processAll (ruleset : Ruleset) : List Json → Except String (Ruleset × List Json)
  | [] => .ok (ruleset, [])
  | command :: rest => do
      let first ← ruleset.process command
      let others ← processAll first.1 rest
      return (others.1, first.2 ++ others.2)

/-! ## Runs of the program -/

/-- A run that failed with a complaint. -/
def failure (complaint : String) : Output := ⟨.exited 1, [], Utf8.encode complaint⟩

/-- A run that printed a document. -/
def printed (json : Json) : Output := ⟨.exited 0, Utf8.encode json.compact, []⟩

/-- The entry of a listing that comes before the rules. -/
def metainfo : Json := member "metainfo" (member "json_schema_version" (.nat 1))

/-- The listing of the chain. -/
def listing (ruleset : Ruleset) : Json :=
  batch (metainfo :: ruleset.rules.toList.map fun entry => numbered entry.1 entry.2)

/-- Commit commands as a whole, if none of them fails. -/
def commit (ruleset : Ruleset) (commands : List Json) (echo : Bool) : Output × Ruleset :=
  match ruleset.processAll commands with
  | .error complaint => (failure complaint, ruleset)
  | .ok (after, echoed) => (if echo then printed (batch echoed) else .silent, after)

/-- Serve a command: the output, and the ruleset afterwards. -/
def serve (ruleset : Ruleset) (command : Command) : Output × Ruleset :=
  if command.arguments.contains "list" then
    (if ruleset.table then printed ruleset.listing else failure missing, ruleset)
  else
    match command.input.bind Json.parse? with
    | none => (failure "Error: syntax error", ruleset)
    | some document =>
        ruleset.commit (((document.member? "nftables").bind Json.items?).getD [])
          (command.arguments.contains "--echo")

/-- The reply is that of no run that succeeded. -/
def Refused (reply : Reply) : Prop := ∀ output, reply = .ok output → output.status.isSuccess = false

/-- What may follow a command: it is served, or refused without effect. -/
inductive MayReply (ruleset : Ruleset) (command : Command) : Reply → Ruleset → Prop where
  | served : MayReply ruleset command (.ok (ruleset.serve command).1) (ruleset.serve command).2
  | refused {reply : Reply} (refused : Refused reply) : MayReply ruleset command reply ruleset

/-! ## Rulesets that can come about -/

/-- What holds of every ruleset in a kernel. -/
structure WellFormed (ruleset : Ruleset) : Prop where
  /-- There are no rules without the table. -/
  rooted : ruleset.table = false → ruleset.rules = .empty
  /-- The next handle is above all handles. -/
  fresh : ∀ {handle document}, ruleset.rules.get? handle = some document → handle < ruleset.next
  /-- Handles are numbers of 64 bits. -/
  bounded : ruleset.next ≤ Word.greatest64 + 1
  /-- Rules are documents that a text can hold. -/
  canonical : ∀ {handle document}, ruleset.rules.get? handle = some document →
    ∀ entry ∈ document.toList, entry.2.Canonical

theorem WellFormed.handle_le {ruleset : Ruleset} (wellFormed : ruleset.WellFormed) {handle : Nat}
    {document : Document} (held : ruleset.rules.get? handle = some document) :
    handle ≤ Word.greatest64 := by
  have below := wellFormed.fresh held
  have bounded := wellFormed.bounded
  omega

/-- No two rules of the chain allow the same. -/
def Distinct (ruleset : Ruleset) : Prop :=
  ∀ first second rule, ruleset.rule? first = some rule → ruleset.rule? second = some rule →
    first = second

end Ruleset

end Gatehouse.Firewall.Nftables
