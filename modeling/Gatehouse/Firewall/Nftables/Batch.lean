import Gatehouse.Json.Basic
import Gatehouse.Firewall.Rule
/-!
# Batches for nftables

The documents that change the managed table.  The table holds one chain, hooked to input with an
accepting policy, so that it only ever adds verdicts.  An allow rule matches the protocol number of
a packet and its destination port, the sixteen bits at bit sixteen of the transport header.
-/

namespace Gatehouse.Firewall.Nftables

/-- The address family of the managed table. -/
def tableFamily : String := "inet"

/-- The name of the managed table. -/
def tableName : String := "sleuth_fw"

/-- The name of the chain in the managed table. -/
def chainName : String := "input"

/-- A document of one member. -/
def member (name : String) (value : Json) : Json := .object [(name, value)]

/-- The managed table. -/
def table : Json :=
  member "table" (.object [("family", .string tableFamily), ("name", .string tableName)])

/-- The chain of the managed table. -/
def chain : Json :=
  member "chain" (.object [
    ("family", .string tableFamily), ("hook", .string "input"), ("name", .string chainName),
    ("policy", .string "accept"), ("prio", .nat 0), ("table", .string tableName),
    ("type", .string "filter")])

/-- The commands that create table and chain; they change nothing when both are there. -/
def setup : List Json := [member "add" table, member "add" chain]

/-- The condition that something equals a value. -/
def matching (left right : Json) : Json :=
  member "match" (.object [("left", left), ("op", .string "=="), ("right", right)])

/-- The protocol of a packet. -/
def protocolField : Json := member "meta" (member "key" (.string "l4proto"))

/-- The destination port of a packet, by its place in the transport header. -/
def portField : Json :=
  member "payload" (.object [("base", .string "th"), ("len", .nat 16), ("offset", .nat 16)])

/-- The expressions of an allow rule: protocol, port, verdict. -/
def expressions (rule : Rule) : List Json := [
  matching protocolField (.string rule.protocol.name),
  matching portField (.nat rule.port.toNat),
  member "accept" .null]

/-- The command that adds an allow rule. -/
def addRule (rule : Rule) : Json :=
  member "add" (member "rule" (.object [
    ("chain", .string chainName), ("comment", .string ("sleuth " ++ rule.text)),
    ("expr", .array (expressions rule)), ("family", .string tableFamily),
    ("table", .string tableName)]))

/-- The command that deletes the rule with a handle. -/
def deleteRule (handle : Nat) : Json :=
  member "delete" (member "rule" (.object [
    ("chain", .string chainName), ("family", .string tableFamily), ("handle", .nat handle),
    ("table", .string tableName)]))

/-- The batch of some commands. -/
def batch (commands : List Json) : Json := member "nftables" (.array commands)

/-- The batch that creates table and chain. -/
def setupBatch : Json := batch setup

/-- The batch that adds rules, and the table and chain if need be. -/
def allowBatch (rules : List Rule) : Json := batch (setup ++ rules.map addRule)

/-- The batch that deletes one rule. -/
def revokeBatch (handle : Nat) : Json := batch [deleteRule handle]

/-- The batch that deletes the managed table with all its rules. -/
def flushBatch : Json := batch [member "delete" table]

end Gatehouse.Firewall.Nftables
