import Gatehouse.Net.Network
import Gatehouse.Proofs.Net.Address
/-!
# Reading back endpoints and networks

An endpoint is an address with a port behind it, and a network is an address with a number of bits
behind it.  Both are read back from their texts: what stands behind an address ends it.
-/

namespace Gatehouse

open Text Address

/-! ## Endpoints -/

namespace Endpoint

variable {rest : List Char}

/-- A number within the limit is read up to its end. -/
theorem number?_digits (limit n : Nat) (bounded : n ≤ limit) (ends : EndsOctet rest) :
    number? limit (digits n ++ rest) = some (n, rest) := by
  have row : (digits n ++ rest).takeWhile Char.isDigit = digits n :=
    takeWhile_row (fun _ => isDigit_of_mem_digits) ends
  rw [number?, row, readDigits?_digits, Option.bind_some, if_pos bounded, List.drop_left]

/-- A port is read behind its colon. -/
theorem port?_digits (port : UInt16) : port? (':' :: digits port.toNat) = some port := by
  have read := number?_digits 65535 port.toNat (Nat.le_of_lt_succ port.toNat_lt) endsOctet_nil
  rw [List.append_nil] at read
  simp only [port?, after?_cons, Option.bind_eq_bind, Option.bind_some, read, whole,
    UInt16.ofNat_toNat]
  rfl

theorem endsGroups_cons {c : Char} (noDigit : Hex.isDigit c = false) (noDot : c ≠ '.')
    (noColon : c ≠ ':') (rest : List Char) : EndsGroups (c :: rest) where
  ends := endsGroup_cons noDigit noDot rest
  noColon := fun _ same => absurd (List.cons.inj same).1 noColon

theorem endsOctet_cons {c : Char} (noDigit : c.isDigit = false) (rest : List Char) :
    EndsOctet (c :: rest) := by
  rintro _ ⟨⟩
  exact noDigit

/-- The text of an endpoint of version four is read back. -/
theorem parse?_text_v4 (bits : BitVec 32) (port : UInt16) :
    parse? (text (.v4 bits port)) = some (.v4 bits port) := by
  have noBracket : ∀ more, dotted bits ++ ':' :: digits port.toNat ≠ '[' :: more := by
    intro more same
    have isMember : '[' ∈ dotted bits ++ ':' :: digits port.toNat := same ▸ List.mem_cons_self
    rcases List.mem_append.1 isMember with isMember | isMember
    · exact absurd (isMark_of_mem_dotted isMember) (by unfold IsMark; decide)
    · rcases List.mem_cons.1 isMember with isColon | isDigit
      · exact absurd isColon (by decide)
      · exact absurd (isDigit_of_mem_digits isDigit) (by decide)
  rw [parse?, text, String.toList_ofList]
  split
  · rename_i same
    exact absurd same (noBracket _)
  · simp only [scan4?_dotted bits (endsOctet_cons (c := ':') rfl _), Option.bind_eq_bind,
      Option.bind_some, port?_digits]
    rfl

/-- The text of an endpoint of version six is read back: the bracket or the percent sign behind the
address ends it. -/
theorem parse?_text_v6 (bits : BitVec 128) (scope : UInt32) (port : UInt16) :
    parse? (text (.v6 bits scope port)) = some (.v6 bits scope port) := by
  have behind (more : List Char) : after? ']' (']' :: more) = some more := after?_cons ']' more
  rw [parse?, text, String.toList_ofList]
  by_cases noZone : scope = 0
  · subst noZone
    have scanned := scan6?_text6 bits
      (endsGroups_cons (c := ']') (by decide) (by decide) (by decide) (':' :: digits port.toNat))
    simp only [if_true, List.cons_append, List.append_nil, scanned, Option.bind_eq_bind,
      Option.bind_some, behind, port?_digits]
    rfl
  · have scanned := scan6?_text6 bits
      (endsGroups_cons (c := '%') (by decide) (by decide) (by decide)
        (digits scope.toNat ++ ']' :: ':' :: digits port.toNat))
    have zone := number?_digits Word.greatest32 scope.toNat
      (Nat.le_of_lt_succ scope.toNat_lt) (endsOctet_cons (c := ']') rfl (':' :: digits port.toNat))
    simp only [noZone, if_false, List.cons_append, List.append_assoc, scanned, Option.bind_eq_bind,
      Option.bind_some, zone, behind, port?_digits, UInt32.ofNat_toNat]
    rfl

/-- Every endpoint is read back. -/
theorem parse?_text (endpoint : Endpoint) : parse? endpoint.text = some endpoint := by
  cases endpoint with
  | v4 bits port => exact parse?_text_v4 bits port
  | v6 bits scope port => exact parse?_text_v6 bits scope port

end Endpoint

/-! ## Networks -/

namespace Network

theorem ne_slash_of_isMark {c : Char} (isMark : IsMark c) : c ≠ '/' := by
  rintro rfl
  exact absurd isMark (by unfold IsMark; decide)

/-- A number of bits is no mask. -/
theorem parse4?_digits (n : Nat) : parse4? (digits n) = none := by
  have none : scan4? (digits n ++ []) = none :=
    scan4?_row (fun _ isMember => Hex.isDigit_of_isDigit (isDigit_of_mem_digits isMember))
      endsGroup_nil
  rw [List.append_nil] at none
  rw [parse4?, none]
  rfl

/-- Every network is read back. -/
theorem parse?_text (network : Network) : parse? network.text = some network := by
  cases network with
  | v4 bits length length_le =>
      have cut : cut? '/' (dotted bits ++ '/' :: digits length) = some (dotted bits, digits length) :=
        cut?_append fun isMember => ne_slash_of_isMark (isMark_of_mem_dotted isMember) rfl
      have count : length4? (some (digits length)) = some length := by
        rw [length4?, parse4?_digits]
        exact readNat?_digits (by omega)
      simp only [parse?, text, String.toList_ofList, cut, parse4?_dotted, count,
        Option.bind_eq_bind, Option.bind_some, dif_pos length_le]
  | v6 bits length length_le =>
      have cut : cut? '/' (text6 bits ++ '/' :: digits length) = some (text6 bits, digits length) :=
        cut?_append fun isMember => ne_slash_of_isMark (isMark_of_mem_text6 isMember) rfl
      have count : length6? (some (digits length)) = some length := readNat?_digits (by omega)
      simp only [parse?, text, String.toList_ofList, cut, parse4?_text6, parse6?_text6, count,
        Option.bind_eq_bind, Option.bind_some, dif_pos length_le]

end Network

end Gatehouse
