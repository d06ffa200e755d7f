import Gatehouse.Proofs.Firewall.Iptables.Chain
import Gatehouse.Proofs.Firewall.Rule
/-!
# What a listing of the chain shows

The line of a rule is recognised as this rule, and no other rule has the same line.  A listing shows
what its lines show one by one, so it shows each rule whose line is in the chain, and nothing else
if all other lines are somebody else's.
-/

namespace Gatehouse.Firewall.Iptables

open Text

/-! ## Lines of rules -/

theorem isWord_of_mem_specification {rule : Rule} {part : String}
    (isMember : part ∈ specification rule) : IsWord part := by
  have words : ∀ part ∈ specification rule, IsWord part := by
    simp only [specification, List.forall_mem_cons, Protocol.isWord_name, isWord_ofNat, comment,
      true_and]
    decide
  exact words part isMember

/-- The words of a line as it is printed. -/
theorem words_printed (rule : Rule) :
    words ("-A INPUT " ++ line rule) = "-A" :: "INPUT" :: specification rule := by
  have printed : "-A INPUT " ++ line rule =
      " ".intercalate ("-A" :: "INPUT" :: specification rule) := by
    have more : specification rule ≠ [] := by simp [specification]
    rw [line, String.intercalate_cons_cons, String.intercalate_cons_of_ne_nil more]
    simp [← String.append_assoc]
  rw [printed]
  apply words_intercalate_of_isWord
  simp only [List.forall_mem_cons]
  exact ⟨by decide, by decide, fun _ => isWord_of_mem_specification⟩

/-! ## Lines are recognised -/

theorem unquote_of_forall_ne {word : String} (plain : ∀ c ∈ word.toList, c ≠ '"') :
    unquote word = word := by
  have kept : word.toList.dropWhile (· = '"') = word.toList :=
    dropWhile_of_forall_not fun c isMember => decide_eq_false (plain c isMember)
  have keptBack : word.toList.reverse.dropWhile (· = '"') = word.toList.reverse :=
    dropWhile_of_forall_not fun c isMember =>
      decide_eq_false (plain c (List.mem_reverse.1 isMember))
  rw [unquote, kept, keptBack, List.reverse_reverse, String.ofList_toList]

theorem unquote_ofNat (n : Nat) : unquote (ofNat n) = ofNat n := by
  apply unquote_of_forall_ne
  rintro c isMember rfl
  rw [ofNat, String.toList_ofList] at isMember
  exact absurd (isDigit_of_mem_digits isMember) (by decide)

theorem unquote_name (protocol : Protocol) : unquote protocol.name = protocol.name := by
  cases protocol <;> decide

/-- A flag that is not among some words is looked for behind them. -/
theorem valueAfter?_append {flag : String} {front rest : List String} (absent : flag ∉ front) :
    valueAfter? flag (front ++ rest) = valueAfter? flag rest := by
  induction front with
  | nil => rfl
  | cons word more ih =>
      obtain ⟨other, absent⟩ := not_or.1 (mt List.mem_cons.2 absent)
      rw [List.cons_append, valueAfter?, if_neg (Ne.symm other), ih absent]

/-- The values of the flags in the words of a printed line.  Neither the name of the protocol nor
the number of the port is taken for a flag. -/
theorem valueAfter?_printed (rule : Rule) :
    valueAfter? "-p" (words ("-A INPUT " ++ line rule)) = some rule.protocol.name ∧
      valueAfter? "--dport" (words ("-A INPUT " ++ line rule)) = some (ofNat rule.port.toNat) ∧
      valueAfter? "--comment" (words ("-A INPUT " ++ line rule)) = some comment ∧
      valueAfter? "-j" (words ("-A INPUT " ++ line rule)) = some "ACCEPT" := by
  have name : rule.protocol.name ≠ "--dport" ∧ rule.protocol.name ≠ "--comment" ∧
      rule.protocol.name ≠ "-j" := by
    cases rule.protocol <;> decide
  have port : ofNat rule.port.toNat ≠ "--comment" ∧ ofNat rule.port.toNat ≠ "-j" := by
    constructor <;> exact ofNat_ne rfl (by decide)
  have mark : comment ≠ "-j" ∧ unquote comment = comment := by decide
  have target : unquote "ACCEPT" = "ACCEPT" := by decide
  rw [words_printed, specification]
  simp [valueAfter?, name, port, unquote_name, unquote_ofNat, mark, target]

/-- A line is recognised by the values of its flags. -/
theorem ruleOfLine?_eq_some_iff {text : String} {rule : Rule} :
    ruleOfLine? text = some rule ↔
      ((words text).head? = some "-A" ∧ (words text)[1]? = some chain) ∧
      valueAfter? "--comment" (words text) = some comment ∧
      valueAfter? "-j" (words text) = some "ACCEPT" ∧
      (valueAfter? "-p" (words text)).bind Protocol.parse? = some rule.protocol ∧
      ((valueAfter? "--dport" (words text)).bind fun port => readNat? 65535 port.toList) =
        some rule.port.toNat ∧
      rule.port ≠ 0 := by
  simp only [ruleOfLine?, Option.bind_eq_bind, Option.ite_none_right_eq_some,
    Option.bind_eq_some_iff]
  constructor
  · rintro ⟨start, _, mark, rfl, _, target, rfl, _, protocol, _, parsed, _, port, number, read,
      found⟩
    split at found
    · cases found
    · rename_i nonzero
      cases found
      have value : (UInt16.ofNat number).toNat = number :=
        UInt16.toNat_ofNat_of_lt' (Nat.lt_succ_of_le (le_of_readNat? read))
      refine ⟨start, mark, target, ⟨_, protocol, parsed⟩, ⟨_, port, ?_⟩, fun zero => ?_⟩
      · rw [value, read]
      · exact nonzero (value ▸ congrArg UInt16.toNat zero)
  · rintro ⟨start, mark, target, ⟨_, protocol, parsed⟩, ⟨_, port, read⟩, valid⟩
    have nonzero : rule.port.toNat ≠ 0 := fun zero => valid (UInt16.toNat_inj.1 zero)
    refine ⟨start, _, mark, rfl, _, target, rfl, _, protocol, _, parsed, _, port, _, read, ?_⟩
    rw [if_neg nonzero, UInt16.ofNat_toNat]
    rfl

/-- The number of a port is read as this port. -/
theorem readNat?_ofNat_port (rule : Rule) :
    readNat? 65535 (ofNat rule.port.toNat).toList = some rule.port.toNat := by
  rw [ofNat, String.toList_ofList]
  exact readNat?_digits (Nat.le_of_lt_succ rule.port.toNat_lt)

/-- The line of a rule that may take effect is recognised as this rule. -/
theorem ruleOfLine?_printed {rule : Rule} (valid : rule.port ≠ 0) :
    ruleOfLine? ("-A INPUT " ++ line rule) = some rule := by
  obtain ⟨protocol, port, mark, target⟩ := valueAfter?_printed rule
  refine ruleOfLine?_eq_some_iff.2 ⟨?_, mark, target, ?_, ?_, valid⟩
  · rw [words_printed]
    exact ⟨rfl, rfl⟩
  · rw [protocol, Option.bind_some, Protocol.parse?_name]
  · rw [port, Option.bind_some, readNat?_ofNat_port]

/-- A rule that is recognised may take effect. -/
theorem port_ne_zero_of_ruleOfLine? {text : String} {rule : Rule}
    (recognised : ruleOfLine? text = some rule) : rule.port ≠ 0 :=
  (ruleOfLine?_eq_some_iff.1 recognised).2.2.2.2.2

/-- No two rules have the same line. -/
theorem line_injective {first second : Rule} (same : line first = line second) :
    first = second := by
  obtain ⟨firstProtocol, firstPort, _⟩ := valueAfter?_printed first
  obtain ⟨secondProtocol, secondPort, _⟩ := valueAfter?_printed second
  rw [same] at firstProtocol firstPort
  have protocol := Option.some.inj (firstProtocol.symm.trans secondProtocol)
  have port := Option.some.inj (firstPort.symm.trans secondPort)
  obtain ⟨_, _⟩ := first
  obtain ⟨_, _⟩ := second
  rw [Rule.mk.injEq]
  exact ⟨Protocol.name_injective protocol, UInt16.toNat_inj.1 (ofNat_injective port)⟩

/-! ## Listings -/

/-- Lines with the same words show the same. -/
theorem ruleOfLine?_congr {first second : String} (same : words first = words second) :
    ruleOfLine? first = ruleOfLine? second := by
  simp only [ruleOfLine?, same]

/-- What a single line shows. -/
theorem rulesOfListing_line {text : String} (whole : '\n' ∉ text.toList) :
    rulesOfListing (text ++ "\n") = (ruleOfLine? text).toList := by
  obtain ⟨line, isLine, sameWords⟩ := exists_lines_eq whole
  rw [rulesOfListing, isLine, ← ruleOfLine?_congr sameWords]
  cases shows : ruleOfLine? line <;> simp [shows]

theorem rulesOfListing_append (first rest : String) :
    rulesOfListing (first ++ "\n" ++ rest) =
      rulesOfListing (first ++ "\n") ++ rulesOfListing rest := by
  rw [rulesOfListing, lines_append, List.filterMap_append]
  rfl

theorem port_ne_zero_of_mem_rulesOfListing {listing : String} {rule : Rule}
    (isMember : rule ∈ rulesOfListing listing) : rule.port ≠ 0 := by
  obtain ⟨_, _, recognised⟩ := List.mem_filterMap.1 isMember
  exact port_ne_zero_of_ruleOfLine? recognised

namespace Chain

theorem noFeed_line (rule : Rule) : '\n' ∉ ("-A INPUT " ++ line rule).toList := by
  have name : '\n' ∉ rule.protocol.name.toList := fun isMember =>
    absurd ((Protocol.isWord_name rule.protocol).2 '\n' isMember) (by decide)
  have port : '\n' ∉ (ofNat rule.port.toNat).toList := fun isMember =>
    absurd ((isWord_ofNat rule.port.toNat).2 '\n' isMember) (by decide)
  simp [line, specification, comment, name, port]

/-- The printed line of a rule shows this rule. -/
theorem rulesOfListing_shown {rule : Rule} (valid : rule.port ≠ 0) :
    rulesOfListing (shown (line rule)) = [rule] := by
  rw [shown, rulesOfListing_line (noFeed_line rule), ruleOfLine?_printed valid]
  rfl

/-- A line is somebody else's exactly if it is not recognised when it is printed. -/
theorem isForeign_iff {line : String} (whole : '\n' ∉ line.toList) :
    isForeign line = true ↔ ruleOfLine? ("-A INPUT " ++ line) = none := by
  have printed : '\n' ∉ ("-A INPUT " ++ line).toList := by
    simpa using whole
  rw [isForeign, shown, rulesOfListing_line printed]
  simp

/-- A listing shows what its lines show one by one. -/
theorem rulesOfListing_listing (chain : Chain) :
    rulesOfListing chain.listing = chain.flatMap fun line => rulesOfListing (shown line) := by
  have policy : rulesOfListing ("-P INPUT ACCEPT" ++ "\n") = [] := by
    rw [rulesOfListing_line (by decide)]
    decide
  have joined : rulesOfListing (String.join (chain.map shown)) =
      chain.flatMap fun line => rulesOfListing (shown line) := by
    induction chain with
    | nil => rfl
    | cons line rest ih =>
        rw [List.map_cons, String.join_cons, shown, rulesOfListing_append, ih]
        rfl
  have split : chain.listing = "-P INPUT ACCEPT" ++ "\n" ++ String.join (chain.map shown) := rfl
  rw [split, rulesOfListing_append, policy, joined]
  rfl

theorem mem_rulesOfListing {chain : Chain} {rule : Rule} :
    rule ∈ rulesOfListing chain.listing ↔ ∃ line ∈ chain, rule ∈ rulesOfListing (shown line) := by
  rw [rulesOfListing_listing, List.mem_flatMap]

end Chain

end Gatehouse.Firewall.Iptables
