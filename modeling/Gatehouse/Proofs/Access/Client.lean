import Gatehouse.Access.Gate
import Gatehouse.Proofs.Text.Blank
/-!
# Who a client is taken for

A trusted proxy appends the address of its own peer to what it has been sent, after a comma.  As
long as all that was sent are addresses, the client is the nearest hop among the appended ones that
is not trusted.  Anything else in front makes the whole header unreadable, and then the client is
the peer.  So what a client sends can only choose between these two.
-/

namespace Gatehouse.Access.Gate

/-- The addresses that the bytes of a forwarding header name. -/
def named? (value : Bytes) : Option (List Address) := (Http.Headers.readable? value).bind hops?

/-- The byte between two hops. -/
def comma : UInt8 := 44

/-- The hop is the nearest one that is not trusted: all hops behind it are. -/
def IsNearest (gate : Gate) (hops : List Address) (hop : Address) : Prop :=
  ∃ before behind, hops = before ++ hop :: behind ∧ gate.trusts hop = false ∧
    ∀ other ∈ behind, gate.trusts other = true

variable {gate : Gate} {peer hop : Address} {hops : List Address}

/-! ## Hops -/

theorem hops?_append (first second : List Char) :
    hops? (String.ofList (first ++ ',' :: second)) =
      (hops? (String.ofList first)).bind fun sent =>
        (hops? (String.ofList second)).map fun appended => sent ++ appended := by
  simp only [hops?, Text.split, String.toList_ofList]
  rw [Text.splitWhere_break (by decide), List.map_append, List.mapM_append]
  simp [Option.bind_eq_bind, Option.map_eq_bind, Function.comp_def]

/-- A header names what its parts before and behind a comma name. -/
theorem named?_append (sent appended : Bytes) :
    named? (sent ++ comma :: appended) =
      (named? sent).bind fun first => (named? appended).map fun second => first ++ second := by
  have readable : Http.Headers.isReadable comma = true := by decide
  simp only [named?, Http.Headers.readable?, List.all_append, List.all_cons, readable,
    Bool.true_and]
  cases sent.all Http.Headers.isReadable with
  | false => simp
  | true =>
      cases appended.all Http.Headers.isReadable with
      | false => simp
      | true =>
          simp only [Bool.and_self, if_true, Option.bind_some, List.map_append, List.map_cons]
          exact hops?_append _ _

/-! ## The nearest hop -/

theorem isNearest_iff :
    gate.IsNearest hops hop ↔
      hops.reverse.find? (fun other => !gate.trusts other) = some hop := by
  rw [List.find?_eq_some_iff_append]
  constructor
  · rintro ⟨before, behind, rfl, isOutside, trusted⟩
    refine ⟨by simp [isOutside], behind.reverse, before.reverse, by simp, ?_⟩
    intro other isMember
    simp [trusted other (List.mem_reverse.1 isMember)]
  · rintro ⟨isOutside, behind, before, same, trusted⟩
    refine ⟨before.reverse, behind.reverse, ?_, by simpa using isOutside, ?_⟩
    · rw [← List.reverse_reverse hops, same]
      simp
    · intro other isMember
      simpa using trusted other (List.mem_reverse.1 isMember)

theorem exists_isNearest (outside : ∃ other ∈ hops, gate.trusts other = false) :
    ∃ nearest, gate.IsNearest hops nearest := by
  obtain ⟨other, isMember, isOutside⟩ := outside
  cases found : hops.reverse.find? fun other => !gate.trusts other with
  | some nearest => exact ⟨nearest, isNearest_iff.2 found⟩
  | none =>
      have trusted := List.find?_eq_none.1 found other (List.mem_reverse.2 isMember)
      simp [isOutside] at trusted

theorem IsNearest.unique {other : Address} (nearest : gate.IsNearest hops hop)
    (same : gate.IsNearest hops other) : hop = other := by
  rw [isNearest_iff] at nearest same
  exact Option.some.inj (nearest.symm.trans same)

/-- What comes before does not matter. -/
theorem IsNearest.append (nearest : gate.IsNearest hops hop) (sent : List Address) :
    gate.IsNearest (sent ++ hops) hop := by
  obtain ⟨before, behind, rfl, isOutside, trusted⟩ := nearest
  exact ⟨sent ++ before, behind, by simp, isOutside, trusted⟩

theorem clientAmong_of_isNearest (nearest : gate.IsNearest hops hop) :
    gate.clientAmong peer hops = hop := by
  rw [clientAmong, isNearest_iff.1 nearest]

/-! ## The client -/

theorem client?_of_untrusted (untrusted : gate.trusts peer = false) (headers : Http.Headers) :
    gate.client? (some peer) headers = some peer := by
  simp [client?, untrusted]

/-- Behind a trusted peer the client is one of the hops, if the header can be read. -/
theorem client?_of_trusted (trusted : gate.trusts peer = true) {headers : Http.Headers}
    {value : Bytes} (given : headers.get? "x-forwarded-for" = some value) :
    gate.client? (some peer) headers =
      some (match named? value with
        | some hops => gate.clientAmong peer hops
        | none => peer) := by
  simp only [client?, Option.map_some, trusted, if_true, Http.Headers.text?, given,
    Option.bind_some]
  rfl

/-- An untrusted peer is the client itself, whatever the header holds.  Behind a trusted peer, let
proxies have appended some addresses, not all of them trusted.  Then the nearest of these that is
not trusted is the client if all that was sent before are addresses, and otherwise the peer is. -/
theorem client?_of_appended (gate : Gate) (peer : Address) :
    (gate.trusts peer = false → ∀ headers, gate.client? (some peer) headers = some peer) ∧
    (gate.trusts peer = true → ∀ (appended : Bytes) (hops : List Address),
      named? appended = some hops → (∃ other ∈ hops, gate.trusts other = false) →
      ∃ nearest, gate.IsNearest hops nearest ∧
        ∀ (sent : Bytes) (headers : Http.Headers),
          headers.get? "x-forwarded-for" = some (sent ++ comma :: appended) →
          gate.client? (some peer) headers =
            some (if (named? sent).isSome then nearest else peer)) := by
  constructor
  · exact client?_of_untrusted
  · intro trusted appended hops named outside
    obtain ⟨nearest, isNearest⟩ := exists_isNearest outside
    refine ⟨nearest, isNearest, ?_⟩
    intro sent headers given
    rw [client?_of_trusted trusted given, named?_append, named]
    cases named? sent with
    | none => rfl
    | some first =>
        simp only [Option.bind_some, Option.map_some, Option.isSome_some, if_true]
        rw [clientAmong_of_isNearest (isNearest.append first)]

/-! ### Behind a private network -/

namespace Forwarded

/-- A gate that trusts the peers in one private network. -/
def border : Gate where
  issuer := ⟨[2], List.cons_ne_nil _ _, .zero, .zero⟩
  allowList := .ofLifetime .zero
  trustedProxies := [.v4 (Address.ofOctets 10 0 0 0) 8 (by decide)]
  publicFiles := none

/-- A peer in that network. -/
def proxy : Address := .v4 (Address.ofOctets 10 0 0 2)

/-- Somebody outside of it. -/
def outsider : Address := .v4 (Address.ofOctets 203 0 113 9)

/-- What the proxies have appended. -/
def appended : Bytes := Utf8.encode "203.0.113.9, 10.0.0.2"

/-- A header in which the proxies have appended to what was sent. -/
def headers (sent : Bytes) : Http.Headers := [("X-Forwarded-For", sent ++ comma :: appended)]

theorem get?_headers (sent : Bytes) :
    Http.Headers.get? (headers sent) "x-forwarded-for" = some (sent ++ comma :: appended) := by
  have same : Http.Headers.sameName "X-Forwarded-For" "x-forwarded-for" = true := by decide
  simp [Http.Headers.get?, Http.Headers.all, headers, same]

theorem named?_appended : named? appended = some [outsider, proxy] := rfl

theorem isNearest_outsider : border.IsNearest [outsider, proxy] outsider := isNearest_iff.2 rfl

end Forwarded

open Forwarded

/-- With an address in front, the client is the one whom the proxies name. -/
theorem client?_of_appended_outsider :
    border.trusts proxy = true ∧ named? appended = some [outsider, proxy] ∧
      border.client? (some proxy) (headers (Utf8.encode "198.51.100.4")) = some outsider := by
  have trusted : border.trusts proxy = true := by decide
  have outside : ∃ other ∈ [outsider, proxy], border.trusts other = false :=
    ⟨outsider, List.mem_cons_self, by decide⟩
  obtain ⟨nearest, isNearest, identity⟩ :=
    (client?_of_appended border proxy).2 trusted appended _ named?_appended outside
  rw [isNearest.unique isNearest_outsider] at identity
  exact ⟨trusted, named?_appended, identity _ _ (get?_headers (Utf8.encode "198.51.100.4"))⟩

/-- The hop that the proxies name is not the client whatever was sent: a word in front makes the
peer the client. -/
theorem client?_not_always_nearest :
    ¬ ∀ (gate : Gate) (peer : Address) (sent appended : Bytes) (hops : List Address)
        (nearest : Address) (headers : Http.Headers),
      gate.trusts peer = true → named? appended = some hops → gate.IsNearest hops nearest →
      headers.get? "x-forwarded-for" = some (sent ++ comma :: appended) →
      gate.client? (some peer) headers = some nearest := by
  intro always
  have trusted : border.trusts proxy = true := by decide
  have unreadable : named? (Utf8.encode "unknown") = none := rfl
  have identity := always border proxy _ appended [outsider, proxy] outsider _ trusted
    named?_appended isNearest_outsider (get?_headers (Utf8.encode "unknown"))
  rw [client?_of_trusted trusted (get?_headers _), named?_append, unreadable] at identity
  exact absurd (Option.some.inj identity) (by decide)

end Gatehouse.Access.Gate
