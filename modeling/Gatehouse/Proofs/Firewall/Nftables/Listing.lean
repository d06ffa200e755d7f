import Gatehouse.Firewall.Nftables.Listing
import Gatehouse.Proofs.Firewall.Rule
import Gatehouse.Proofs.Json.Canonical
/-!
# What is made out of a listing

The rules and handles that an output reports do not depend on the reals in it.  The program may
write the expressions of a rule otherwise than they were sent; in each of these spellings they are
recognised as that rule.
-/

namespace Gatehouse.Firewall.Nftables

open Json

/-! ## Reals do not matter -/

theorem protocolOf?_outline (value : Json) : protocolOf? value.outline = protocolOf? value := by
  cases value with
  | number n => cases n <;> rfl
  | _ => rfl

/-- Looking at a member through something that sees no reals. -/
theorem bind_member?_outline {α : Type} {look : Json → Option α}
    (blind : ∀ value, look value.outline = look value) (json : Json) (name : String) :
    (json.outline.member? name).bind look = (json.member? name).bind look := by
  rw [member?_outline]
  cases json.member? name with
  | none => rfl
  | some value => exact blind value

theorem isProtocolField_outline (field : Json) :
    isProtocolField field.outline = isProtocolField field := by
  have key (field : Json) : (field.outline.member? "meta").bind
      (fun inner => (inner.member? "key").bind text?) =
        (field.member? "meta").bind fun inner => (inner.member? "key").bind text? :=
    bind_member?_outline (fun inner => bind_member?_outline text?_outline inner "key") field "meta"
  simp only [isProtocolField, Option.bind_assoc, key]

theorem isPortPayload_outline (payload : Json) :
    isPortPayload payload.outline = isPortPayload payload := by
  simp only [isPortPayload, bind_member?_outline text?_outline, bind_member?_outline nat?_outline]

theorem condition_outline (reading : Reading) (left right : Json) :
    reading.condition left.outline right.outline = reading.condition left right := by
  simp only [Reading.condition, isProtocolField_outline, protocolOf?_outline, nat?_outline,
    member?_outline]
  cases left.member? "payload" with
  | none => rfl
  | some payload => simp only [Option.map_some, isPortPayload_outline]

theorem step_outline (reading : Reading) (expression : Json) :
    reading.step expression.outline = reading.step expression := by
  simp only [Reading.step, member?_outline, Option.isSome_map]
  cases expression.member? "match" with
  | none => rfl
  | some condition =>
      simp only [Option.map_some, member?_outline]
      cases condition.member? "left" with
      | none => rfl
      | some left =>
          cases condition.member? "right" with
          | none => rfl
          | some right => simp only [Option.map_some, condition_outline]

theorem ruleOfExpressions?_outline (expressions : Json) :
    ruleOfExpressions? expressions.outline = ruleOfExpressions? expressions := by
  simp only [ruleOfExpressions?, items?_outline]
  cases expressions.items? with
  | none => rfl
  | some items => simp only [Option.map_some, Option.bind_some, List.foldl_map, step_outline]

theorem entryRule?_outline (entry : Json) :
    entryRule? entry.outline = (entryRule? entry).map outline := by
  simp only [entryRule?, member?_outline]
  cases entry.member? "add" with
  | none => rfl
  | some added =>
      simp only [Option.map_some, Option.bind_some, member?_outline]
      cases added.member? "rule" <;> rfl

theorem reportedRule?_outline (entry : Json) :
    reportedRule? entry.outline = reportedRule? entry := by
  simp only [reportedRule?, entryRule?_outline]
  cases entryRule? entry with
  | none => rfl
  | some rule =>
      simp only [Option.map_some, Option.bind_eq_bind, Option.bind_some,
        bind_member?_outline text?_outline, bind_member?_outline nat?_outline,
        bind_member?_outline ruleOfExpressions?_outline]

/-- The rules and handles that an output reports are those of its outline. -/
theorem reportedHandles_outline (output : Json) (requested : List Rule) :
    reportedHandles output.outline requested = reportedHandles output requested := by
  simp only [reportedHandles, member?_outline]
  cases output.member? "nftables" with
  | none => rfl
  | some listed =>
      simp only [Option.map_some, Option.bind_some, items?_outline]
      cases listed.items? with
      | none => rfl
      | some entries =>
          have unchanged : (reportedRule? ∘ outline) = reportedRule? :=
            funext reportedRule?_outline
          simp only [Option.map_some, List.filterMap_map, unchanged]

/-- A canonical output reports the same rules and handles after it has been read back. -/
theorem reportedHandles_of_readBack? {output back : Json} (canonical : output.Canonical)
    {room : Nat} (read : output.readBack? room = some back) (requested : List Rule) :
    reportedHandles back requested = reportedHandles output requested := by
  rw [← reportedHandles_outline back, outline_of_readBack? output canonical read,
    reportedHandles_outline]

/-! ## Rules are recognised -/

/-- The ways to write a protocol: by its number, or by its name in any letter case. -/
inductive SpellsProtocol (protocol : Protocol) : Json → Prop where
  | number : SpellsProtocol protocol (.nat protocol.number)
  | name {text : String} (same : text.toList.map Char.toLower = protocol.name.toList) :
      SpellsProtocol protocol (.string text)

/-- The ways to write the destination port of a packet: by its place in the transport header, or by
its name, whatever else is said about it. -/
inductive SpellsPort : Json → Prop where
  | place : SpellsPort (.object [("base", .string "th"), ("len", .nat 16), ("offset", .nat 16)])
  | name {payload : Json} (named : payload.member? "field" = some (.string "dport")) :
      SpellsPort payload

/-- The ways to write the expressions of an allow rule. -/
inductive Spells (rule : Rule) : List Json → Prop where
  | intro {protocol payload : Json} (isProtocol : SpellsProtocol rule.protocol protocol)
      (isPort : SpellsPort payload) :
      Spells rule [matching protocolField protocol,
        matching (member "payload" payload) (.nat rule.port.toNat), member "accept" .null]

theorem SpellsProtocol.protocolOf? {protocol : Protocol} {value : Json}
    (spells : SpellsProtocol protocol value) : protocolOf? value = some protocol := by
  cases spells with
  | number => cases protocol <;> rfl
  | name same => rw [Nftables.protocolOf?, Protocol.parse?_of_toLower same]

theorem SpellsPort.isPortPayload {payload : Json} (spells : SpellsPort payload) :
    isPortPayload payload = true := by
  cases spells with
  | place => rfl
  | name named =>
      rw [Nftables.isPortPayload, named]
      rfl

/-- A rule is sent in one of its spellings. -/
theorem spells_expressions (rule : Rule) : Spells rule (expressions rule) := by
  have isProtocol : SpellsProtocol rule.protocol (.string rule.protocol.name) := by
    refine .name ?_
    cases rule.protocol <;> rfl
  exact .intro isProtocol .place

/-- A rule that may take effect is recognised in all its spellings. -/
theorem Spells.ruleOfExpressions? {rule : Rule} {items : List Json} (spells : Spells rule items) :
    ruleOfExpressions? (.array items) = if rule.port = 0 then none else some rule := by
  obtain @⟨protocol, payload, isProtocol, isPort⟩ := spells
  have inRange : rule.port.toNat < 65536 := rule.port.toNat_lt
  have first (reading : Reading) : reading.step (matching protocolField protocol) =
      { reading with protocol := some rule.protocol } := by
    rw [← isProtocol.protocolOf?]
    rfl
  have second (reading : Reading) :
      reading.step (matching (member "payload" payload) (.nat rule.port.toNat)) =
        { reading with port := some rule.port.toNat } := by
    have number : (Json.nat rule.port.toNat).nat?.filter (· < 65536) = some rule.port.toNat := by
      simp [Json.nat, nat?, inRange]
    have taken : reading.step (matching (member "payload" payload) (.nat rule.port.toNat)) =
        if isPortPayload payload then
          { reading with port := (Json.nat rule.port.toNat).nat?.filter (· < 65536) }
        else reading := rfl
    rw [taken, if_pos isPort.isPortPayload, number]
  have verdict (reading : Reading) :
      reading.step (member "accept" .null) = { reading with accepts := true } := rfl
  have zero : rule.port.toNat = 0 ↔ rule.port = 0 :=
    ⟨fun none => UInt16.toNat_inj.1 none, congrArg UInt16.toNat⟩
  simp only [Nftables.ruleOfExpressions?, items?, Option.bind_some, List.foldl_cons,
    List.foldl_nil, first, second, verdict, Reading.rule?, zero, UInt16.ofNat_toNat]

/-- The expressions of a rule that may take effect are recognised as this rule. -/
theorem ruleOfExpressions?_expressions {rule : Rule} (valid : rule.port ≠ 0) :
    ruleOfExpressions? (.array (expressions rule)) = some rule := by
  rw [(spells_expressions rule).ruleOfExpressions?, if_neg valid]

/-! ## Names of reported rules -/

/-- Reported rules have the names that their expressions give them, if there are no requested rules
to name them after or if none of them needs that. -/
theorem assign_of_named {reports : List ReportedRule} {requested : List Rule}
    (named : requested = [] ∨ ∀ report ∈ reports, report.decoded.isSome = true) :
    assign reports requested =
      reports.filterMap fun report => report.decoded.map fun rule => (rule, report.handle) := by
  induction reports generalizing requested with
  | nil => rfl
  | cons report rest ih =>
      have namedRest : requested.tail = [] ∨ ∀ report ∈ rest, report.decoded.isSome = true := by
        rcases named with rfl | named
        · exact .inl rfl
        · exact .inr fun other isMember => named other (List.mem_cons_of_mem _ isMember)
      rw [assign, List.filterMap_cons, ih namedRest]
      cases decoded : report.decoded with
      | some rule => rfl
      | none =>
          rcases named with rfl | named
          · rfl
          · have isNamed := named report List.mem_cons_self
            rw [decoded] at isNamed
            cases isNamed

end Gatehouse.Firewall.Nftables
