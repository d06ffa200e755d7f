import Gatehouse.Firewall.Nftables.Listing
/-!
# What a rule does with packets

A rule is a row of statements, and a packet goes through them from the first on.  A condition that
the packet does not meet ends the rule for it, a verdict decides about it, and a note, such as a
counter, lets it pass.  Statements are known here by the shapes in which the filter prints them,
whatever is made out of them elsewhere.  What a statement of another shape does with a packet is
left open: it may let it pass, end the rule for it or accept it, and each packet brings its own
answer.
-/

namespace Gatehouse.Firewall.Nftables

open Json

/-! ## Statements -/

/-- A field of a packet that a condition may be about.  The port may be asked for in the header of
one protocol, which packets of other protocols do not have. -/
inductive Field where
  | protocol
  | port (transport : Option Protocol)
deriving DecidableEq, Repr

/-- How a condition compares a field with a value. -/
inductive Comparison where
  | equal
  | unequal
  | below
  | above
  | atMost
  | atLeast
deriving DecidableEq, Repr

/-- The comparison that an operator stands for. -/
def Comparison.ofOperator? (operator : String) : Option Comparison :=
  if operator = "==" then some .equal
  else if operator = "!=" then some .unequal
  else if operator = "<" then some .below
  else if operator = ">" then some .above
  else if operator = "<=" then some .atMost
  else if operator = ">=" then some .atLeast
  else none

/-- Whether a comparison holds between what is found in a field and a value. -/
def Comparison.holds : Comparison → Nat → Nat → Bool
  | .equal, found, value => found = value
  | .unequal, found, value => found ≠ value
  | .below, found, value => found < value
  | .above, found, value => value < found
  | .atMost, found, value => found ≤ value
  | .atLeast, found, value => value ≤ found

/-- A statement of a rule. -/
inductive Statement where
  /-- A field has to compare with a value. -/
  | condition (field : Field) (comparison : Comparison) (value : Nat)
  /-- The verdict that accepts. -/
  | accept
  /-- A verdict that ends the rule without accepting. -/
  | refuse
  /-- A statement without consequences for the packet. -/
  | note
  /-- A statement of another shape. -/
  | other (item : Json)

/-- The header whose destination port a payload is by its name, where the transport header may be
that of any protocol. -/
def namedHeader? (payload : Json) : Option (Option Protocol) :=
  if (payload.member? "field").bind text? = some "dport" then
    match (payload.member? "protocol").bind text? with
    | some "th" => some none
    | some "tcp" => some (some .tcp)
    | some "udp" => some (some .udp)
    | _ => none
  else none

/-- The header whose destination port a payload is by its place, the sixteen bits at bit sixteen of
the transport header. -/
def placedHeader? (payload : Json) : Option (Option Protocol) :=
  if (payload.member? "base").bind text? = some "th" ∧
      (payload.member? "offset").bind nat? = some 16 ∧
      (payload.member? "len").bind nat? = some 16 then some none
  else none

/-- The header whose destination port a payload is, by its name or else by its place. -/
def header? (payload : Json) : Option (Option Protocol) :=
  match payload.member? "field", payload.member? "base" with
  | some _, none => namedHeader? payload
  | none, some _ => placedHeader? payload
  | _, _ => none

/-- The field that the left side of a condition is. -/
def field? : Json → Option Field
  | .object [(kind, inner)] =>
      if kind = "meta" then
        if (inner.member? "key").bind text? = some "l4proto" then some .protocol else none
      else if kind = "payload" then (header? inner).map .port
      else none
  | _ => none

/-- The number that the right side of a condition is.  A protocol may go by its name. -/
def Field.value? : Field → Json → Option Nat
  | .protocol, .string name =>
      ([.tcp, .udp] : List Protocol).find? (name = ·.name) |>.map Protocol.number
  | _, value => value.nat?

/-- The field, the comparison and the value of the condition that the body of a match is. -/
def condition? (body : Json) : Option (Field × Comparison × Nat) := do
  let field ← (body.member? "left").bind field?
  let comparison ← ((body.member? "op").bind text?).bind Comparison.ofOperator?
  let value ← (body.member? "right").bind field.value?
  return (field, comparison, value)

/-- The verdicts that end a rule without accepting. -/
def refusals : List String := ["drop", "reject", "return", "continue"]

/-- The statements that only take note of a packet. -/
def notes : List String := ["counter", "log"]

/-- The statement that an item of the listed expressions is. -/
def statement : Json → Statement
  | .object [(kind, body)] =>
      if kind = "match" then
        match condition? body with
        | some (field, comparison, value) => .condition field comparison value
        | none => .other (member kind body)
      else if kind = "accept" then .accept
      else if kind ∈ refusals then .refuse
      else if kind ∈ notes then .note
      else .other (member kind body)
  | item => .other item

/-- The shapes in which statements are printed. -/
inductive Printed : Json → Statement → Prop where
  | condition {body : Json} {field : Field} {comparison : Comparison} {value : Nat}
      (known : condition? body = some (field, comparison, value)) :
      Printed (member "match" body) (.condition field comparison value)
  | accept {body : Json} : Printed (member "accept" body) .accept
  | refuse {kind : String} {body : Json} (isRefusal : kind ∈ refusals) :
      Printed (member kind body) .refuse
  | note {kind : String} {body : Json} (isNote : kind ∈ notes) : Printed (member kind body) .note
  | other {item : Json} : Printed item (.other item)

/-- Every item is printed in a shape of the statement that it is. -/
theorem printed_statement (item : Json) : Printed item (statement item) := by
  unfold statement
  split
  · rename_i kind body
    split
    · rename_i isMatch
      subst isMatch
      split
      · rename_i known
        exact .condition known
      · exact .other
    · split
      · rename_i isAccept
        subst isAccept
        exact .accept
      · split
        · rename_i isRefusal
          exact .refuse isRefusal
        · split
          · rename_i isNote
            exact .note isNote
          · exact .other
  · exact .other

/-! ## Packets -/

/-- What a statement does with a packet. -/
inductive Effect where
  | passes
  | accepts
  | ends
deriving DecidableEq, Repr

/-- A packet, as far as rules can tell. -/
structure Packet where
  /-- The number of its transport protocol. -/
  protocol : Nat
  /-- The sixteen bits at bit sixteen of its transport header, which are the destination port. -/
  port : Nat
  /-- What statements of other shapes do with it. -/
  elsewhere : Json → Effect

namespace Packet

/-- What a field holds, if the packet has it. -/
def read? (packet : Packet) : Field → Option Nat
  | .protocol => some packet.protocol
  | .port none => some packet.port
  | .port (some transport) => if packet.protocol = transport.number then some packet.port else none

theorem port_of_read? {packet : Packet} {transport : Option Protocol} {found : Nat}
    (read : packet.read? (.port transport) = some found) : packet.port = found := by
  cases transport with
  | none => exact Option.some.inj read
  | some transport =>
      simp only [read?, Option.ite_none_right_eq_some] at read
      exact Option.some.inj read.2

/-- Fields depend on protocol and port only. -/
theorem read?_eq_of_same {packet other : Packet} (sameProtocol : packet.protocol = other.protocol)
    (samePort : packet.port = other.port) (field : Field) :
    packet.read? field = other.read? field := by
  cases field with
  | protocol => simp only [read?, sameProtocol]
  | port transport => cases transport <;> simp only [read?, sameProtocol, samePort]

/-- Whether the packet has a field that compares with a value. -/
def meets (packet : Packet) (field : Field) (comparison : Comparison) (value : Nat) : Bool :=
  (packet.read? field).any (comparison.holds · value)

/-- What a statement does with the packet. -/
def undergo (packet : Packet) : Statement → Effect
  | .condition field comparison value =>
      if packet.meets field comparison value then .passes else .ends
  | .accept => .accepts
  | .refuse => .ends
  | .note => .passes
  | .other item => packet.elsewhere item

/-- Whether a rule of these statements accepts the packet. -/
def accepted (packet : Packet) : List Json → Bool
  | [] => false
  | item :: rest =>
      match packet.undergo (statement item) with
      | .passes => packet.accepted rest
      | .accepts => true
      | .ends => false

section
variable {packet : Packet} {item : Json} {rest : List Json}

theorem accepted_of_accept (read : statement item = .accept) :
    packet.accepted (item :: rest) = true := by
  simp only [accepted, read, undergo]

theorem accepted_of_note (read : statement item = .note) :
    packet.accepted (item :: rest) = packet.accepted rest := by
  simp only [accepted, read, undergo]

theorem accepted_of_ends (ends : packet.undergo (statement item) = .ends) :
    packet.accepted (item :: rest) = false := by
  simp only [accepted, ends]

/-- A packet gets past an equality if the field holds the value. -/
theorem accepted_of_equality {field : Field} {value : Nat}
    (read : statement item = .condition field .equal value) :
    packet.accepted (item :: rest) = true ↔
      packet.read? field = some value ∧ packet.accepted rest = true := by
  have meets : packet.meets field .equal value = true ↔ packet.read? field = some value := by
    simp [Packet.meets, Comparison.holds, Option.any_eq_true]
  rw [← meets]
  simp only [accepted, read, undergo]
  cases packet.meets field .equal value <;> simp

end

/-- The packet is of the traffic that an allow rule stands for. -/
def Concerns (packet : Packet) (rule : Rule) : Prop :=
  packet.protocol = rule.protocol.number ∧ packet.port = rule.port.toNat

end Packet

/-- The statements accept the traffic of an allow rule and nothing else. -/
def Opens (items : List Json) (rule : Rule) : Prop :=
  ∀ packet : Packet, packet.accepted items = true ↔ packet.Concerns rule

end Gatehouse.Firewall.Nftables
