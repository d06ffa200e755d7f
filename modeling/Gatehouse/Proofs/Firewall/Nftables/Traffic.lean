import Gatehouse.Proofs.Firewall.Nftables.Packets
import Gatehouse.Proofs.Firewall.Nftables.Listing
/-!
# The traffic of a reported rule

The expressions of a listed rule are read for three things: what they say about the protocol, what
they say about the port, and whether they accept.  Of each the last word counts, and whatever says
nothing about them is passed over, as is the operator of a condition.  So a rule can be reported
that accepts other traffic, or none.

A rule of plain equalities, with one verdict behind them, accepts nothing but the traffic of the
rule that is reported for it; and if its equalities can be met at all, it accepts all of that
traffic.
-/

namespace Gatehouse.Firewall.Nftables

open Json

/-! ## What an item says -/

/-- The sides of the condition that is looked at in an item. -/
def sides? (item : Json) : Option (Json × Json) :=
  if (item.member? "accept").isSome then none
  else (item.member? "match").bind fun body =>
    (body.member? "left").bind fun left => (body.member? "right").map fun right => (left, right)

/-- What an item says about the protocol, if it speaks of it. -/
def saidProtocol? (item : Json) : Option (Option Protocol) :=
  (sides? item).bind fun (left, right) =>
    if isProtocolField left then some (protocolOf? right) else none

/-- What an item says about the port, if it speaks of it. -/
def saidPort? (item : Json) : Option (Option Nat) :=
  (sides? item).bind fun (left, right) =>
    if isProtocolField left then none
    else (left.member? "payload").bind fun payload =>
      if isPortPayload payload then some (right.nat?.filter (· < 65536)) else none

/-- Whether an item accepts, if it does. -/
def saidVerdict? (item : Json) : Option Bool := (item.member? "accept").map fun _ => true

theorem saidProtocol?_eq_some_iff {item : Json} {word : Option Protocol} :
    saidProtocol? item = some word ↔ ∃ left right, sides? item = some (left, right) ∧
      isProtocolField left = true ∧ protocolOf? right = word := by
  simp [saidProtocol?, Option.bind_eq_some_iff]

theorem saidPort?_eq_some_iff {item : Json} {word : Option Nat} :
    saidPort? item = some word ↔ ∃ left right payload, sides? item = some (left, right) ∧
      isProtocolField left = false ∧ left.member? "payload" = some payload ∧
        isPortPayload payload = true ∧ right.nat?.filter (· < 65536) = word := by
  simp [saidPort?, Option.bind_eq_some_iff]

/-- The last word of a row of items. -/
def lastSaid {α : Type} (said : Json → Option α) (items : List Json) : Option α :=
  (items.filterMap said).getLast?

/-- An item has the last word if the items after it have none. -/
theorem lastSaid_cons {α : Type} (said : Json → Option α) (item : Json) (rest : List Json) :
    lastSaid said (item :: rest) = (lastSaid said rest).or (said item) := by
  rw [lastSaid, List.filterMap_cons]
  cases said item with
  | none => exact (Option.or_none).symm
  | some word =>
      rw [List.getLast?_cons]
      cases found : (rest.filterMap said).getLast? <;> simp [lastSaid, found]

/-- An item that does not accept is taken into account by the sides of its condition. -/
theorem step_of_no_accept {reading : Reading} {item : Json}
    (silent : item.member? "accept" = none) : reading.step item =
      (sides? item).elim reading fun (left, right) => reading.condition left right := by
  simp only [Reading.step, sides?, silent, Option.isSome_none, Bool.false_eq_true, if_false]
  cases item.member? "match" with
  | none => rfl
  | some body =>
      simp only [Option.bind_some]
      cases body.member? "left" with
      | none => rfl
      | some left => cases body.member? "right" <;> rfl

/-- One item replaces what has been said before where it speaks. -/
theorem step_eq (reading : Reading) (item : Json) :
    reading.step item = ⟨(saidProtocol? item).getD reading.protocol,
      (saidPort? item).getD reading.port, (saidVerdict? item).getD reading.accepts⟩ := by
  cases verdict : item.member? "accept" with
  | some body =>
      have silent : sides? item = none := by
        simp only [sides?, verdict, Option.isSome_some, if_true]
      simp only [saidProtocol?, saidPort?, saidVerdict?, silent, verdict, Option.bind_none,
        Option.map_some, Option.getD_none, Option.getD_some, Reading.step, Option.isSome_some,
        if_true]
  | none =>
      rw [step_of_no_accept verdict]
      simp only [saidProtocol?, saidPort?, saidVerdict?, verdict]
      cases sides? item with
      | none => rfl
      | some sides =>
          obtain ⟨left, right⟩ := sides
          simp only [Option.elim_some, Option.bind_some, Reading.condition]
          cases isProtocolField left with
          | true => rfl
          | false =>
              cases left.member? "payload" with
              | none => rfl
              | some payload =>
                  simp only [Option.bind_some]
                  cases isPortPayload payload <;> rfl

/-- A row of items leaves the last word on each of the three. -/
theorem foldl_step (reading : Reading) (items : List Json) :
    items.foldl Reading.step reading = ⟨(lastSaid saidProtocol? items).getD reading.protocol,
      (lastSaid saidPort? items).getD reading.port,
      (lastSaid saidVerdict? items).getD reading.accepts⟩ := by
  induction items generalizing reading with
  | nil => rfl
  | cons item rest ih =>
      rw [List.foldl_cons, ih, step_eq]
      simp only [lastSaid_cons, Option.getD_or]

/-! ## What is reported -/

/-- What the items of a rule say for an allow rule to be reported. -/
structure Reported (items : List Json) (rule : Rule) : Prop where
  /-- The last word on the protocol is that of the rule. -/
  protocol : lastSaid saidProtocol? items = some (some rule.protocol)
  /-- The last word on the port is that of the rule. -/
  port : lastSaid saidPort? items = some (some rule.port.toNat)
  /-- Some item accepts. -/
  verdict : lastSaid saidVerdict? items = some true
  /-- The port may take effect. -/
  nonzero : rule.port ≠ 0

theorem exists_of_lastSaid {α : Type} {said : Json → Option α} {items : List Json} {word : α}
    (last : lastSaid said items = some word) : ∃ item ∈ items, said item = some word :=
  List.mem_filterMap.1 (List.mem_of_getLast? last)

theorem lt_of_saidPort {item : Json} {port : Nat} (said : saidPort? item = some (some port)) :
    port < 65536 := by
  obtain ⟨left, right, payload, -, -, -, -, kept⟩ := saidPort?_eq_some_iff.1 said
  exact of_decide_eq_true (Option.filter_eq_some_iff.1 kept).2

theorem Reading.rule?_eq_some_iff {reading : Reading} {rule : Rule} :
    reading.rule? = some rule ↔ ∃ port, reading = ⟨some rule.protocol, some port, true⟩ ∧
      port ≠ 0 ∧ UInt16.ofNat port = rule.port := by
  constructor
  · intro read
    unfold Reading.rule? at read
    split at read
    · split at read
      · cases read
      · rename_i port nonzero
        cases read
        exact ⟨port, rfl, nonzero, rfl⟩
    · cases read
  · rintro ⟨port, rfl, nonzero, word⟩
    rw [Reading.rule?, if_neg nonzero, word]

/-- An allow rule is reported exactly for a row of items with these last words. -/
theorem ruleOfExpressions?_eq_some_iff {expressions : Json} {rule : Rule} :
    ruleOfExpressions? expressions = some rule ↔
      ∃ items, expressions = .array items ∧ Reported items rule := by
  have last {α : Type} {said : Json → Option (Option α)} {items : List Json} {word : α} :
      (lastSaid said items).getD none = some word ↔ lastSaid said items = some (some word) := by
    cases lastSaid said items <;> simp
  have verdict {items : List Json} :
      (lastSaid saidVerdict? items).getD false = true ↔
        lastSaid saidVerdict? items = some true := by
    cases lastSaid saidVerdict? items <;> simp
  rw [ruleOfExpressions?, Option.bind_eq_some_iff]
  refine exists_congr fun items => and_congr ?_ ?_
  · cases expressions <;> simp [items?]
  · rw [foldl_step, Reading.rule?_eq_some_iff]
    simp only [Reading.blank, Reading.mk.injEq, last, verdict]
    constructor
    · rintro ⟨port, ⟨protocol, said, accepts⟩, nonzero, word⟩
      -- A port that has been said is in range, so that its word is the port itself.
      obtain ⟨item, -, spoken⟩ := exists_of_lastSaid said
      have same : rule.port.toNat = port := by
        rw [← word, UInt16.toNat_ofNat_of_lt' (lt_of_saidPort spoken)]
      refine ⟨protocol, same ▸ said, accepts, fun zero => nonzero ?_⟩
      rw [← same, zero]
      rfl
    · rintro ⟨protocol, said, accepts, nonzero⟩
      exact ⟨rule.port.toNat, ⟨protocol, said, accepts⟩,
        fun zero => nonzero (UInt16.toNat_inj.1 zero), UInt16.ofNat_toNat⟩

/-! ## What is passed over -/

/-- Whatever stands in front of the items of a rule, the same rule is reported. -/
theorem Reported.cons {items : List Json} {rule : Rule} (reported : Reported items rule)
    (item : Json) : Reported (item :: items) rule where
  protocol := by rw [lastSaid_cons, reported.protocol, Option.some_or]
  port := by rw [lastSaid_cons, reported.port, Option.some_or]
  verdict := by rw [lastSaid_cons, reported.verdict, Option.some_or]
  nonzero := reported.nonzero

/-- A statement in front that ends the rule for some of its traffic, such as another verdict or a
further condition, changes what the rule opens, and the same rule is reported. -/
theorem Reported.narrowed {items : List Json} {rule : Rule} (reported : Reported items rule)
    {item : Json} {packet : Packet} (concerns : packet.Concerns rule)
    (ends : packet.undergo (statement item) = .ends) :
    ruleOfExpressions? (.array (item :: items)) = some rule ∧ ¬ Opens (item :: items) rule := by
  refine ⟨ruleOfExpressions?_eq_some_iff.2 ⟨_, rfl, reported.cons item⟩, fun opens => ?_⟩
  have accepted := (opens packet).2 concerns
  rw [Packet.accepted_of_ends ends] at accepted
  cases accepted

/-- A rule for every port but one. -/
def otherPorts : List Json := [
  matching protocolField (.string "tcp"),
  member "match" (.object [("left", portField), ("op", .string "!="), ("right", .nat 22)]),
  member "accept" .null]

/-- The operator of a condition is passed over: the rule for every port but one is reported as the
rule for this one, whose traffic it is the only one not to accept. -/
theorem opposite_rule_is_reported :
    ruleOfExpressions? (.array otherPorts) = some ⟨.tcp, 22⟩ ∧ ¬ Opens otherPorts ⟨.tcp, 22⟩ ∧
      (⟨6, 80, fun _ => .ends⟩ : Packet).accepted otherPorts = true ∧
      (⟨6, 22, fun _ => .ends⟩ : Packet).accepted otherPorts = false := by
  have refused : (⟨6, 22, fun _ => .ends⟩ : Packet).accepted otherPorts = false := by decide
  refine ⟨by decide, fun opens => ?_, by decide, refused⟩
  have accepted := (opens ⟨6, 22, fun _ => .ends⟩).2 ⟨rfl, rfl⟩
  rw [refused] at accepted
  cases accepted

/-! ## Plain rules -/

/-- An item says nothing about protocol and port. -/
def Mute (item : Json) : Prop := saidProtocol? item = none ∧ saidPort? item = none

/-- Equalities and notes, and behind them the verdict that accepts.  What comes after the verdict is
out of reach for packets, and does not speak. -/
inductive Plain : List Json → Prop where
  | verdict {item : Json} {rest : List Json} (read : statement item = .accept)
      (mute : ∀ other ∈ rest, Mute other) : Plain (item :: rest)
  | note {item : Json} {rest : List Json} (read : statement item = .note) (plain : Plain rest) :
      Plain (item :: rest)
  | equality {item : Json} {rest : List Json} {field : Field} {value : Nat}
      (read : statement item = .condition field .equal value) (plain : Plain rest) :
      Plain (item :: rest)

theorem mute_of_sides {item : Json} (silent : sides? item = none) : Mute item := by
  simp only [Mute, saidProtocol?, saidPort?, silent, Option.bind_none, and_self]

theorem mute_of_accept {item : Json} (read : statement item = .accept) : Mute item := by
  have printed := printed_statement item
  rw [read] at printed
  cases printed
  exact mute_of_sides rfl

theorem mute_of_note {item : Json} (read : statement item = .note) : Mute item := by
  have printed := printed_statement item
  rw [read] at printed
  cases printed with
  | @note kind body isNote =>
      have notMatch : kind ≠ "match" := by rintro rfl; exact absurd isNote (by decide)
      refine mute_of_sides ?_
      simp [sides?, member, member?, notMatch]

theorem sides?_match (body : Json) :
    sides? (member "match" body) = (body.member? "left").bind fun left =>
      (body.member? "right").map fun right => (left, right) := rfl

/-- A condition is looked at by its field and its value. -/
theorem sides_of_condition {item : Json} {field : Field} {comparison : Comparison} {value : Nat}
    (read : statement item = .condition field comparison value) :
    ∃ left right, sides? item = some (left, right) ∧ field? left = some field ∧
      field.value? right = some value := by
  have printed := printed_statement item
  rw [read] at printed
  cases printed with
  | @condition body _ _ _ known =>
      obtain ⟨_, knownField, known⟩ := Option.bind_eq_some_iff.1 known
      obtain ⟨left, isLeft, isField⟩ := Option.bind_eq_some_iff.1 knownField
      obtain ⟨_, -, known⟩ := Option.bind_eq_some_iff.1 known
      obtain ⟨_, knownValue, known⟩ := Option.bind_eq_some_iff.1 known
      obtain ⟨right, isRight, isValue⟩ := Option.bind_eq_some_iff.1 knownValue
      cases known
      exact ⟨left, right, by rw [sides?_match, isLeft, Option.bind_some, isRight]; rfl,
        isField, isValue⟩

/-- The two readers agree on which of the two known fields a left side is. -/
theorem isProtocolField_of_field? {left : Json} {field : Field}
    (isField : field? left = some field) :
    isProtocolField left = decide (field = .protocol) := by
  unfold field? at isField
  split at isField
  · rename_i kind inner
    split at isField
    · rename_i isMeta
      subst isMeta
      split at isField
      · rename_i isKey
        cases isField
        exact decide_eq_true isKey
      · cases isField
    · split at isField
      · rename_i isPayload
        subst isPayload
        obtain ⟨transport, -, rfl⟩ := Option.map_eq_some_iff.1 isField
        rfl
      · cases isField
  · cases isField

/-- A value that both sides take for a protocol is taken for the same one. -/
theorem value_of_protocolOf? {right : Json} {value : Nat} {protocol : Protocol}
    (isValue : Field.protocol.value? right = some value)
    (known : protocolOf? right = some protocol) : value = protocol.number := by
  cases right with
  | string name =>
      obtain ⟨named, found, rfl⟩ := Option.map_eq_some_iff.1 isValue
      have isName : name = named.name := by simpa using List.find?_some found
      rw [isName, protocolOf?, Protocol.parse?_name] at known
      cases known
      rfl
  | number n =>
      have isNumber : (Json.number n).nat? = some value := isValue
      have isKnown : (Json.number n).nat?.bind Protocol.ofNumber? = some protocol := known
      rw [isNumber] at isKnown
      exact Protocol.eq_number_of_ofNumber? isKnown
  | _ => cases isValue

/-- What a condition says about the protocol is what it asks for. -/
theorem condition_of_saidProtocol {item : Json} {field : Field} {comparison : Comparison}
    {value : Nat} {protocol : Protocol} (read : statement item = .condition field comparison value)
    (said : saidProtocol? item = some (some protocol)) :
    field = .protocol ∧ value = protocol.number := by
  obtain ⟨left, right, sides, isField, isValue⟩ := sides_of_condition read
  obtain ⟨_, _, same, isProtocol, known⟩ := saidProtocol?_eq_some_iff.1 said
  cases sides.symm.trans same
  rw [isProtocolField_of_field? isField] at isProtocol
  obtain rfl := of_decide_eq_true isProtocol
  exact ⟨rfl, value_of_protocolOf? isValue known⟩

/-- What a condition says about the port is what it asks for. -/
theorem condition_of_saidPort {item : Json} {field : Field} {comparison : Comparison}
    {value port : Nat} (read : statement item = .condition field comparison value)
    (said : saidPort? item = some (some port)) :
    (∃ transport, field = .port transport) ∧ value = port := by
  obtain ⟨left, right, sides, isField, isValue⟩ := sides_of_condition read
  obtain ⟨_, _, payload, same, isNoProtocol, -, -, kept⟩ := saidPort?_eq_some_iff.1 said
  cases sides.symm.trans same
  rw [isProtocolField_of_field? isField] at isNoProtocol
  cases field with
  | protocol => exact absurd rfl (of_decide_eq_false isNoProtocol)
  | port transport =>
      have isNumber : right.nat? = some value := isValue
      obtain ⟨isPort, -⟩ := Option.filter_eq_some_iff.1 kept
      exact ⟨⟨transport, rfl⟩, Option.some.inj (isNumber.symm.trans isPort)⟩

/-! ## What plain rules accept -/

section
variable {packet : Packet} {items : List Json} {rule : Rule}

/-- Every item of a plain rule that speaks is an equality, and an accepted packet meets it. -/
theorem Plain.equality_of_speaking (plain : Plain items) (accepted : packet.accepted items = true)
    {item : Json} (isItem : item ∈ items) (speaks : ¬ Mute item) :
    ∃ field value, statement item = .condition field .equal value ∧
      packet.read? field = some value := by
  induction plain with
  | verdict read mute =>
      rcases List.mem_cons.1 isItem with rfl | isItem
      · exact absurd (mute_of_accept read) speaks
      · exact absurd (mute item isItem) speaks
  | note read _ ih =>
      rw [Packet.accepted_of_note read] at accepted
      rcases List.mem_cons.1 isItem with rfl | isItem
      · exact absurd (mute_of_note read) speaks
      · exact ih accepted isItem
  | equality read _ ih =>
      obtain ⟨holds, accepted⟩ := (Packet.accepted_of_equality read).1 accepted
      rcases List.mem_cons.1 isItem with rfl | isItem
      · exact ⟨_, _, read, holds⟩
      · exact ih accepted isItem

/-- A plain rule accepts only packets of the rule that is reported for it. -/
theorem Plain.concerns_of_accepted (plain : Plain items) (reported : Reported items rule)
    (accepted : packet.accepted items = true) : packet.Concerns rule := by
  constructor
  · obtain ⟨item, isItem, said⟩ := exists_of_lastSaid reported.protocol
    have speaks : ¬ Mute item := fun mute => by simp [mute.1] at said
    obtain ⟨field, value, read, holds⟩ := plain.equality_of_speaking accepted isItem speaks
    obtain ⟨rfl, rfl⟩ := condition_of_saidProtocol read said
    exact Option.some.inj holds
  · obtain ⟨item, isItem, said⟩ := exists_of_lastSaid reported.port
    have speaks : ¬ Mute item := fun mute => by simp [mute.2] at said
    obtain ⟨field, value, read, holds⟩ := plain.equality_of_speaking accepted isItem speaks
    obtain ⟨⟨transport, rfl⟩, rfl⟩ := condition_of_saidPort read said
    exact packet.port_of_read? holds

/-- A plain rule does with a packet what it does with another of the same protocol and port. -/
theorem Plain.accepted_of_same (plain : Plain items) {other : Packet}
    (sameProtocol : packet.protocol = other.protocol) (samePort : packet.port = other.port)
    (accepted : other.accepted items = true) : packet.accepted items = true := by
  induction plain with
  | verdict read _ => exact Packet.accepted_of_accept read
  | note read _ ih =>
      rw [Packet.accepted_of_note read] at accepted ⊢
      exact ih accepted
  | equality read _ ih =>
      obtain ⟨holds, accepted⟩ := (Packet.accepted_of_equality read).1 accepted
      refine (Packet.accepted_of_equality read).2 ⟨?_, ih accepted⟩
      rw [packet.read?_eq_of_same sameProtocol samePort, holds]

/-- A plain rule that accepts anything accepts the traffic of the rule that is reported for it, and
nothing else. -/
theorem Plain.opens (plain : Plain items) (reported : Reported items rule) {sample : Packet}
    (accepted : sample.accepted items = true) : Opens items rule := by
  intro packet
  refine ⟨plain.concerns_of_accepted reported, fun concerns => ?_⟩
  -- The sample is of the same protocol and port, and plain rules look at nothing else.
  have known := plain.concerns_of_accepted reported accepted
  exact plain.accepted_of_same (concerns.1.trans known.1.symm) (concerns.2.trans known.2.symm)
    accepted

end

/-! ## Rules that are sent -/

theorem statement_protocol (protocol : Protocol) :
    statement (matching protocolField (.string protocol.name)) =
      .condition .protocol .equal protocol.number := by
  cases protocol <;> rfl

theorem statement_port (port : Nat) :
    statement (matching portField (.nat port)) = .condition (.port none) .equal port := by
  have number : (Json.nat port).nat? = some port := by simp [Json.nat, nat?]
  have known : condition? (.object [("left", portField), ("op", .string "=="),
      ("right", .nat port)]) = (Json.nat port).nat?.map fun value => (.port none, .equal, value) :=
    rfl
  simp only [matching, member, statement, if_true, known, number, Option.map_some]

theorem plain_expressions (rule : Rule) : Plain (expressions rule) :=
  .equality (statement_protocol _) (.equality (statement_port _)
    (.verdict rfl fun _ isMember => nomatch isMember))

/-- A rule that is sent accepts the traffic that it is to allow, and nothing else. -/
theorem opens_expressions {rule : Rule} (valid : rule.port ≠ 0) :
    Opens (expressions rule) rule := by
  obtain ⟨_, same, reported⟩ :=
    ruleOfExpressions?_eq_some_iff.1 (ruleOfExpressions?_expressions valid)
  cases same
  let sample : Packet := ⟨rule.protocol.number, rule.port.toNat, fun _ => .ends⟩
  have accepted : sample.accepted (expressions rule) = true :=
    (Packet.accepted_of_equality (statement_protocol _)).2 ⟨rfl,
      (Packet.accepted_of_equality (statement_port _)).2 ⟨rfl, Packet.accepted_of_accept rfl⟩⟩
  exact (plain_expressions rule).opens reported accepted

/-! ## What is reported and what is opened -/

/-- A rule is reported for a row of items exactly if it has the last words in it.  If the row is
plain, it accepts nothing but the traffic of that rule; and if it accepts anything at all, it
accepts all of that traffic. -/
theorem plain_rules_open_what_is_reported (expressions : Json) (rule : Rule) :
    ruleOfExpressions? expressions = some rule ↔
      ∃ items, expressions = .array items ∧ Reported items rule ∧
        (Plain items →
          (∀ packet : Packet, packet.accepted items = true → packet.Concerns rule) ∧
          ((∃ packet : Packet, packet.accepted items = true) → Opens items rule)) := by
  rw [ruleOfExpressions?_eq_some_iff]
  constructor
  · rintro ⟨items, isArray, reported⟩
    exact ⟨items, isArray, reported, fun plain =>
      ⟨fun _ accepted => plain.concerns_of_accepted reported accepted,
        fun ⟨_, accepted⟩ => plain.opens reported accepted⟩⟩
  · rintro ⟨items, isArray, reported, -⟩
    exact ⟨items, isArray, reported⟩

/-- A rule as the filter prints it, with a counter and with the port by its name. -/
def countedRule : List Json := [
  matching protocolField (.nat 6),
  matching (member "payload" (.object [("field", .string "dport"), ("protocol", .string "tcp")]))
    (.nat 22),
  member "counter" (.object [("bytes", .nat 0), ("packets", .nat 0)]),
  member "accept" .null]

theorem plain_rules_open_what_is_reported_counted :
    ruleOfExpressions? (.array countedRule) = some ⟨.tcp, 22⟩ ∧ Plain countedRule ∧
      Opens countedRule ⟨.tcp, 22⟩ := by
  have decoded : ruleOfExpressions? (.array countedRule) = some ⟨.tcp, 22⟩ := by decide
  have plain : Plain countedRule :=
    .equality rfl (.equality rfl (.note rfl (.verdict rfl fun _ isMember => nomatch isMember)))
  obtain ⟨_, same, -, opens⟩ := (plain_rules_open_what_is_reported _ _).1 decoded
  cases same
  exact ⟨decoded, plain, (opens plain).2 ⟨⟨6, 22, fun _ => .ends⟩, by decide⟩⟩

end Gatehouse.Firewall.Nftables
