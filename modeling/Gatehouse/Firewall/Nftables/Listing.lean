import Gatehouse.Firewall.Nftables.Batch
/-!
# What nftables reports

Rules with their handles, read from what the program prints: the listing of a chain, or the echo of
a batch.  The program may spell a rule otherwise than it was sent; a rule is recognised by the
protocol and the port that it matches and by its verdict.
-/

namespace Gatehouse.Firewall.Nftables

/-- What has been made out of the expressions of a rule so far. -/
structure Reading where
  protocol : Option Protocol
  port : Option Nat
  accepts : Bool
deriving DecidableEq, Repr

/-- Before the first expression. -/
def Reading.blank : Reading := ⟨none, none, false⟩

/-- The protocol that a value stands for, by name or by number. -/
def protocolOf? : Json → Option Protocol
  | .string name => Protocol.parse? name
  | value => value.nat?.bind Protocol.ofNumber?

/-- Whether a field of a packet is the protocol. -/
def isProtocolField (field : Json) : Bool :=
  ((field.member? "meta").bind (Json.member? "key")).bind Json.text? = some "l4proto"

/-- Whether a payload is the destination port, by name or by its place. -/
def isPortPayload (payload : Json) : Bool :=
  (payload.member? "field").bind Json.text? = some "dport" ||
    ((payload.member? "base").bind Json.text? = some "th" &&
      (payload.member? "offset").bind Json.nat? = some 16 &&
      (payload.member? "len").bind Json.nat? = some 16)

/-- Take a condition into account. -/
def Reading.condition (reading : Reading) (left right : Json) : Reading :=
  if isProtocolField left then { reading with protocol := protocolOf? right }
  else
    match left.member? "payload" with
    | some payload =>
        if isPortPayload payload then { reading with port := right.nat?.filter (· < 65536) }
        else reading
    | none => reading

/-- Take one expression into account. -/
def Reading.step (reading : Reading) (expression : Json) : Reading :=
  if (expression.member? "accept").isSome then { reading with accepts := true }
  else
    match expression.member? "match" with
    | some condition =>
        match condition.member? "left", condition.member? "right" with
        | some left, some right => reading.condition left right
        | _, _ => reading
    | none => reading

/-- The rule that has been made out. -/
def Reading.rule? : Reading → Option Rule
  | ⟨some protocol, some port, true⟩ =>
      if port = 0 then none else some ⟨protocol, UInt16.ofNat port⟩
  | _ => none

/-- The allow rule that expressions amount to. -/
def ruleOfExpressions? (expressions : Json) : Option Rule :=
  expressions.items?.bind fun items => (items.foldl Reading.step .blank).rule?

/-- A rule of the managed table as it is reported. -/
structure ReportedRule where
  handle : Nat
  decoded : Option Rule
deriving DecidableEq, Repr

/-- The rule that an entry adds or lists. -/
def entryRule? (entry : Json) : Option Json :=
  match (entry.member? "add").bind (Json.member? "rule") with
  | some rule => some rule
  | none => entry.member? "rule"

/-- The rule of the managed table that an entry reports with its handle. -/
def reportedRule? (entry : Json) : Option ReportedRule := do
  let rule ← entryRule? entry
  let table ← (rule.member? "table").bind Json.text?
  if table = tableName then
    let handle ← (rule.member? "handle").bind Json.nat?
    return ⟨handle, (rule.member? "expr").bind ruleOfExpressions?⟩
  else none

/-- Give each reported rule its name: the rule that its expressions amount to, or else the requested
rule at the same place. -/
def assign : List ReportedRule → List Rule → List (Rule × Nat)
  | [], _ => []
  | report :: reports, requested =>
      let others := assign reports requested.tail
      match report.decoded.or requested.head? with
      | some rule => (rule, report.handle) :: others
      | none => others

/-- The rules with their handles that an output reports, where `requested` are the rules of the
batch that it echoes. -/
def reportedHandles (output : Json) (requested : List Rule) : List (Rule × Nat) :=
  match (output.member? "nftables").bind Json.items? with
  | some entries => assign (entries.filterMap reportedRule?) requested
  | none => []

end Gatehouse.Firewall.Nftables
