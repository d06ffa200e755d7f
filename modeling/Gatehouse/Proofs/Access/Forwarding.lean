import Mathlib.Data.List.Forall2
import Gatehouse.Proofs.Access.Client
/-!
# Across trusted hops

An address is trusted if it starts with the same bits as some trusted network.  Nobody is taken for a
client on the word of a peer that is not trusted, or of one that says anything but addresses.  Else the
client is one of the hops that a trusted peer names, and all hops nearer than it are trusted.  Only
the first line of a forwarding header is read.  So lines mean the same as one line that joins them
exactly when the later lines make no difference.
-/

namespace Gatehouse

/-! ## Addresses in networks -/

/-- Shifting all but the first bits out leaves these to be compared. -/
theorem Network.shiftRight_eq_iff {width length : Nat} (first second : BitVec width)
    (length_le : length ≤ width) :
    first >>> (width - length) = second >>> (width - length) ↔
      ∀ i < length, first.getMsbD i = second.getMsbD i := by
  constructor
  · intro same i early
    have place : width - length + (length - 1 - i) = width - 1 - i := by omega
    have bits := congrArg (fun row => row.getLsbD (length - 1 - i)) same
    simp only [BitVec.getLsbD_ushiftRight, place] at bits
    rw [BitVec.getMsbD, BitVec.getMsbD, bits]
  · intro same
    apply BitVec.eq_of_getLsbD_eq
    intro j _
    rw [BitVec.getLsbD_ushiftRight, BitVec.getLsbD_ushiftRight]
    rcases Nat.lt_or_ge j length with early | late
    · have place : width - 1 - (length - 1 - j) = width - length + j := by omega
      have inside : length - 1 - j < width := by omega
      have bits := same (length - 1 - j) (by omega)
      simpa only [BitVec.getMsbD, place, inside, decide_true, Bool.true_and] using bits
    · rw [BitVec.getLsbD_of_ge _ _ (by omega), BitVec.getLsbD_of_ge _ _ (by omega)]

/-- The address is of the version of the network and starts with the same bits, as many as the
network counts. -/
def Network.Covers : Network → Address → Prop
  | .v4 bits length _, .v4 other => ∀ i < length, bits.getMsbD i = other.getMsbD i
  | .v6 bits length _, .v6 other => ∀ i < length, bits.getMsbD i = other.getMsbD i
  | _, _ => False

theorem Network.contains_iff (network : Network) (address : Address) :
    network.contains address = true ↔ network.Covers address := by
  cases network <;> cases address <;> simp only [contains, Covers, decide_eq_true_eq,
    Bool.false_eq_true]
  · exact shiftRight_eq_iff _ _ ‹_›
  · exact shiftRight_eq_iff _ _ ‹_›

namespace Access.Gate

variable {gate : Gate} {peer address : Address} {hops : List Address} {headers : Http.Headers}

/-- Some trusted network covers the address. -/
def Trusted (gate : Gate) (address : Address) : Prop :=
  ∃ network ∈ gate.trustedProxies, network.Covers address

theorem trusts_iff : gate.trusts address = true ↔ gate.Trusted address := by
  simp only [trusts, List.any_eq_true, Network.contains_iff, Trusted]

theorem trusts_eq_false_iff : gate.trusts address = false ↔ ¬ gate.Trusted address := by
  rw [← trusts_iff, Bool.not_eq_true]

/-! ## What a header lists -/

/-- A value lists addresses: they are spelled between its commas, with any blanks around. -/
def Lists (value : String) (hops : List Address) : Prop :=
  List.Forall₂ (fun part hop => Address.parse? (Text.trim part).toList = some hop)
    (Text.split ',' value) hops

theorem mapM_eq_some_iff {α β : Type} {f : α → Option β} {items : List α} {results : List β} :
    items.mapM f = some results ↔
      List.Forall₂ (fun item result => f item = some result) items results := by
  induction items generalizing results with
  | nil => simp [eq_comm]
  | cons item rest ih =>
      simp only [List.mapM_cons, bind, pure, Option.bind_eq_some_iff, Option.some.injEq, ih,
        List.forall₂_cons_left_iff]
      constructor
      · rintro ⟨result, here, others, there, rfl⟩
        exact ⟨result, others, here, there, rfl⟩
      · rintro ⟨result, others, here, there, rfl⟩
        exact ⟨result, here, others, there, rfl⟩

theorem hops?_eq_some_iff {value : String} : hops? value = some hops ↔ Lists value hops :=
  mapM_eq_some_iff

/-- The forwarding header of a request lists addresses. -/
def Tells (headers : Http.Headers) (hops : List Address) : Prop :=
  ∃ value, headers.text? "x-forwarded-for" = some value ∧ Lists value hops

theorem tells_iff : Tells headers hops ↔ (headers.text? "x-forwarded-for").bind hops? = some hops := by
  simp only [Tells, Option.bind_eq_some_iff, hops?_eq_some_iff]

theorem tells_of_all {line : Bytes} {lines : List Bytes}
    (given : headers.all "x-forwarded-for" = line :: lines) (named : named? line = some hops) :
    Tells headers hops := by
  rw [tells_iff, Http.Headers.text?, Http.Headers.get?, given, List.head?_cons, Option.bind_some]
  exact named

/-- A header that lists addresses lists at least one. -/
theorem Tells.ne_nil (tells : Tells headers hops) : hops ≠ [] := by
  obtain ⟨value, _, lists⟩ := tells
  rintro rfl
  have empty := List.forall₂_nil_right_iff.1 lists
  rw [Text.split, List.map_eq_nil_iff] at empty
  exact Text.splitWhere_ne_nil _ empty

/-! ## The hop that is taken -/

/-- All hops nearer than the one that is taken are trusted.  It is trusted itself only if it is the
farthest. -/
def Takes (gate : Gate) (hops : List Address) (address : Address) : Prop :=
  ∃ before behind, hops = before ++ address :: behind ∧ (∀ hop ∈ behind, gate.Trusted hop) ∧
    (gate.Trusted address → before = [])

theorem takes_of_isNearest (nearest : gate.IsNearest hops address) : gate.Takes hops address := by
  obtain ⟨before, behind, split, isOutside, trusted⟩ := nearest
  refine ⟨before, behind, split, fun hop isMember => trusts_iff.1 (trusted hop isMember), ?_⟩
  intro isTrusted
  exact absurd isTrusted (trusts_eq_false_iff.1 isOutside)

/-- Among hops that are trusted one and all, the farthest is taken. -/
theorem clientAmong_of_trusted (trusted : ∀ hop ∈ hops, gate.Trusted hop) :
    gate.clientAmong peer hops = hops.head?.getD peer := by
  have none : hops.reverse.find? (fun hop => !gate.trusts hop) = none := by
    rw [List.find?_eq_none]
    intro hop isMember
    simpa using trusts_iff.2 (trusted hop (List.mem_reverse.1 isMember))
  rw [clientAmong, none]

/-- Either all hops are trusted, or there is a nearest one that is not. -/
theorem trusted_or_exists_isNearest (gate : Gate) (hops : List Address) :
    (∀ hop ∈ hops, gate.Trusted hop) ∨ ∃ nearest, gate.IsNearest hops nearest := by
  by_cases trusted : ∀ hop ∈ hops, gate.Trusted hop
  · exact .inl trusted
  · simp only [not_forall] at trusted
    obtain ⟨hop, isMember, isOutside⟩ := trusted
    exact .inr (exists_isNearest ⟨hop, isMember, trusts_eq_false_iff.2 isOutside⟩)

theorem takes_clientAmong (some : hops ≠ []) : gate.Takes hops (gate.clientAmong peer hops) := by
  rcases trusted_or_exists_isNearest gate hops with trusted | ⟨nearest, isNearest⟩
  · obtain ⟨first, others, rfl⟩ := List.exists_cons_of_ne_nil some
    rw [clientAmong_of_trusted trusted]
    exact ⟨[], others, rfl, fun hop isMember => trusted hop (List.mem_cons_of_mem _ isMember),
      fun _ => rfl⟩
  · rw [clientAmong_of_isNearest isNearest]
    exact takes_of_isNearest isNearest

/-- Where a trusted hop is taken, all are trusted. -/
theorem Takes.trusted (takes : gate.Takes hops address) (isTrusted : gate.Trusted address) :
    hops.head? = some address ∧ ∀ hop ∈ hops, gate.Trusted hop := by
  obtain ⟨before, behind, rfl, nearer, farthest⟩ := takes
  obtain rfl := farthest isTrusted
  refine ⟨rfl, ?_⟩
  rintro hop (_ | ⟨_, isMember⟩)
  · exact isTrusted
  · exact nearer hop isMember

/-! ## The client behind a peer -/

theorem client?_of_not_trusted (untrusted : ¬ gate.Trusted peer) (headers : Http.Headers) :
    gate.client? (some peer) headers = some peer :=
  client?_of_untrusted (trusts_eq_false_iff.2 untrusted) headers

theorem client?_of_tells (trusted : gate.Trusted peer) (tells : Tells headers hops) :
    gate.client? (some peer) headers = some (gate.clientAmong peer hops) := by
  simp only [client?, Option.map_some, trusts_iff.2 trusted, if_true, tells_iff.1 tells]

theorem client?_of_silent (silent : ∀ hops, ¬ Tells headers hops) :
    gate.client? (some peer) headers = some peer := by
  have none : (headers.text? "x-forwarded-for").bind hops? = none := by
    rw [Option.eq_none_iff_forall_ne_some]
    intro hops said
    exact silent hops (tells_iff.2 said)
  simp [client?, none]

/-- A request without a peer has no client.  A peer that is not trusted, or that does not list
addresses, is the client itself.  Else one of the hops that it lists is, all hops nearer than it being
trusted, and it is trusted itself only if all are and it is the farthest.  Nobody but the peer becomes
the client in any other way. -/
theorem client?_comes_across_trusted_hops (gate : Gate) (headers : Http.Headers) :
    gate.client? none headers = none ∧
    ∀ peer,
      (¬ gate.Trusted peer → gate.client? (some peer) headers = some peer) ∧
      ((∀ hops, ¬ Tells headers hops) → gate.client? (some peer) headers = some peer) ∧
      (∀ hops, gate.Trusted peer → Tells headers hops →
        ∃ client, gate.client? (some peer) headers = some client ∧ gate.Takes hops client) ∧
      ∀ client, gate.client? (some peer) headers = some client → client ≠ peer →
        gate.Trusted peer ∧ ∃ hops, Tells headers hops ∧ gate.Takes hops client ∧
          (gate.Trusted client → hops.head? = some client ∧ ∀ hop ∈ hops, gate.Trusted hop) := by
  have taken {peer : Address} {hops : List Address} (trusted : gate.Trusted peer)
      (tells : Tells headers hops) :
      ∃ client, gate.client? (some peer) headers = some client ∧ gate.Takes hops client := by
    exact ⟨_, client?_of_tells trusted tells, takes_clientAmong tells.ne_nil⟩
  refine ⟨rfl, fun peer => ⟨?_, ?_, ?_, ?_⟩⟩
  · intro untrusted
    exact client?_of_not_trusted untrusted headers
  · exact client?_of_silent
  · intro hops trusted tells
    exact taken trusted tells
  · intro client identity differs
    have trusted : gate.Trusted peer := by
      by_contra untrusted
      rw [client?_of_not_trusted untrusted] at identity
      exact differs (Option.some.inj identity).symm
    have said : ∃ hops, Tells headers hops := by
      by_contra silent
      rw [client?_of_silent (not_exists.1 silent)] at identity
      exact differs (Option.some.inj identity).symm
    obtain ⟨hops, tells⟩ := said
    obtain ⟨other, same, takes⟩ := taken trusted tells
    obtain rfl := Option.some.inj (identity.symm.trans same)
    exact ⟨trusted, hops, tells, takes, takes.trusted⟩

/-! ### Hops before a private network -/

namespace Forwarded

/-- What a client sends. -/
def sent : Bytes := Utf8.encode "198.51.100.4"

/-- The address in it. -/
def stranger : Address := .v4 (Address.ofOctets 198 51 100 4)

theorem named?_sent : named? sent = some [stranger] := rfl

theorem trusted_proxy : border.Trusted proxy := trusts_iff.1 (by decide)

end Forwarded

open Forwarded

/-- Among hops of which the farthest is the client's own claim, the one that is taken is the nearest
that is not trusted.  Nothing is taken from anybody else than the proxy, and nothing without a
header. -/
theorem client?_comes_across_trusted_hops_outsider :
    (border.client? (some proxy) (Forwarded.headers sent) = some outsider ∧ outsider ≠ proxy ∧
      border.Trusted proxy ∧
      ∃ hops, Tells (Forwarded.headers sent) hops ∧ border.Takes hops outsider) ∧
    (¬ border.Trusted outsider ∧
      border.client? (some outsider) (Forwarded.headers sent) = some outsider) ∧
    (∀ hops, ¬ Tells [] hops) ∧ border.client? (some proxy) [] = some proxy := by
  have comes := client?_comes_across_trusted_hops border
  have given : Http.Headers.all (Forwarded.headers sent) "x-forwarded-for" =
      [sent ++ comma :: appended] := by
    have same : Http.Headers.sameName "X-Forwarded-For" "x-forwarded-for" = true := by decide
    simp [Http.Headers.all, Forwarded.headers, same]
  have named : named? (sent ++ comma :: appended) = some [stranger, outsider, proxy] := by
    rw [named?_append, named?_sent, named?_appended]
    rfl
  have identity : border.client? (some proxy) (Forwarded.headers sent) = some outsider := by
    rw [client?_of_tells trusted_proxy (tells_of_all given named)]
    decide
  have differs : outsider ≠ proxy := by decide
  have outside : ¬ border.Trusted outsider := trusts_eq_false_iff.1 (by decide)
  have silent : ∀ hops, ¬ Tells [] hops := by
    rintro hops ⟨value, given, _⟩
    cases given
  obtain ⟨trusted, hops, tells, takes, _⟩ :=
    ((comes (Forwarded.headers sent)).2 proxy).2.2.2 outsider identity differs
  refine ⟨⟨identity, differs, trusted, hops, tells, takes⟩, ⟨outside, ?_⟩, silent, ?_⟩
  · exact ((comes _).2 outsider).1 outside
  · exact ((comes _).2 proxy).2.1 silent

/-! ## Several lines -/

/-- Lines that are joined by commas name what they name one after the other. -/
theorem named?_intercalate {lines : List Bytes} {parts : List (List Address)}
    (named : List.Forall₂ (fun line hops => named? line = some hops) lines parts)
    (some : lines ≠ []) : named? ([comma].intercalate lines) = .some parts.flatten := by
  induction named with
  | nil => contradiction
  | @cons line hops lines parts first further ih =>
      cases further with
      | nil => simpa using first
      | cons second others =>
          rw [List.intercalate_cons_of_ne_nil (List.cons_ne_nil _ _), List.append_assoc,
            List.singleton_append, named?_append, first, ih (List.cons_ne_nil _ _)]
          rfl

/-- Trusted hops that are nearer make no difference. -/
theorem clientAmong_append_of_trusted {nearer : List Address} (some : hops ≠ [])
    (trusted : ∀ hop ∈ nearer, gate.Trusted hop) :
    gate.clientAmong peer (hops ++ nearer) = gate.clientAmong peer hops := by
  rcases trusted_or_exists_isNearest gate hops with all | ⟨nearest, isNearest⟩
  · have both : ∀ hop ∈ hops ++ nearer, gate.Trusted hop := by
      intro hop isMember
      exact (List.mem_append.1 isMember).elim (all hop) (trusted hop)
    rw [clientAmong_of_trusted both, clientAmong_of_trusted all, List.head?_append_of_ne_nil _ some]
  · rw [clientAmong_of_isNearest isNearest]
    apply clientAmong_of_isNearest
    obtain ⟨before, behind, rfl, isOutside, trusted'⟩ := isNearest
    refine ⟨before, behind ++ nearer, by simp, isOutside, ?_⟩
    intro hop isMember
    exact (List.mem_append.1 isMember).elim (trusted' hop) fun isNearer =>
      trusts_iff.2 (trusted hop isNearer)

/-- The nearest hop that is not trusted decides, however many lines there are to look through. -/
theorem clientAmong_append_eq_iff {nearer : List Address} (some : hops ≠ []) :
    gate.clientAmong peer hops = gate.clientAmong peer (hops ++ nearer) ↔
      (∀ hop ∈ nearer, gate.Trusted hop) ∨
        ∃ nearest, gate.IsNearest nearer nearest ∧ gate.Takes hops nearest := by
  rcases trusted_or_exists_isNearest gate nearer with trusted | ⟨nearest, isNearest⟩
  · exact iff_of_true (clientAmong_append_of_trusted some trusted).symm (.inl trusted)
  · have whole : gate.clientAmong peer (hops ++ nearer) = nearest :=
      clientAmong_of_isNearest (isNearest.append hops)
    rw [whole]
    constructor
    · rintro same
      exact .inr ⟨nearest, isNearest, same ▸ takes_clientAmong some⟩
    · obtain ⟨_, _, split, isOutside, _⟩ := id isNearest
      rintro (trusted | ⟨other, isOther, before, behind, split', nearer', _⟩)
      · have isTrusted := trusted nearest (by simp [split])
        exact absurd isTrusted (trusts_eq_false_iff.1 isOutside)
      · obtain rfl := isNearest.unique isOther
        exact clientAmong_of_isNearest
          ⟨before, behind, split', isOutside, fun hop isMember => trusts_iff.2 (nearer' hop isMember)⟩

/-- Of a forwarding header in several lines of addresses only the first line counts.  The lines mean
the same as one line that joins them by commas exactly if the peer is not trusted, or the later lines
name trusted hops only, or the nearest other hop that they name is the one that the first line leads to
as well. -/
theorem client?_of_lines (gate : Gate) (peer : Option Address) {line : Bytes} {lines : List Bytes}
    {hops : List Address} {parts : List (List Address)} {headers joined : Http.Headers}
    (split : headers.all "x-forwarded-for" = line :: lines)
    (whole : joined.all "x-forwarded-for" = [[comma].intercalate (line :: lines)])
    (named : List.Forall₂ (fun line hops => named? line = some hops) (line :: lines) (hops :: parts)) :
    (∀ alone : Http.Headers, alone.all "x-forwarded-for" = [line] →
      gate.client? peer headers = gate.client? peer alone) ∧
    (gate.client? peer headers = gate.client? peer joined ↔
      ∀ proxy ∈ peer, gate.Trusted proxy →
        (∀ hop ∈ parts.flatten, gate.Trusted hop) ∨
          ∃ nearest, gate.IsNearest parts.flatten nearest ∧ gate.Takes hops nearest) := by
  have first : named? line = some hops := (List.forall₂_cons.1 named).1
  have tells := tells_of_all split first
  have tellsAll := tells_of_all whole (named?_intercalate named (List.cons_ne_nil _ _))
  cases peer with
  | none => exact ⟨fun _ _ => rfl, iff_of_true rfl (by simp)⟩
  | some proxy =>
      by_cases trusted : gate.Trusted proxy
      · constructor
        · intro alone one
          rw [client?_of_tells trusted tells, client?_of_tells trusted (tells_of_all one first)]
        · rw [client?_of_tells trusted tells, client?_of_tells trusted tellsAll, Option.some.injEq,
            List.flatten_cons, clientAmong_append_eq_iff tells.ne_nil]
          simp [trusted]
      · constructor
        · intro alone _
          rw [client?_of_not_trusted trusted, client?_of_not_trusted trusted]
        · rw [client?_of_not_trusted trusted, client?_of_not_trusted trusted]
          simp [trusted]

/-! ### Lines before a private network -/

namespace Forwarded

/-- A header with some forwarding lines and a cookie between them. -/
def inLines (lines : List Bytes) : Http.Headers :=
  lines.flatMap fun line => [("X-Forwarded-For", line), ("Cookie", [])]

theorem all_inLines (lines : List Bytes) :
    Http.Headers.all (inLines lines) "x-forwarded-for" = lines := by
  have same : Http.Headers.sameName "X-Forwarded-For" "x-forwarded-for" = true := by decide
  have other : Http.Headers.sameName "Cookie" "x-forwarded-for" = false := by decide
  induction lines with
  | nil => rfl
  | cons line rest ih =>
      rw [Http.Headers.all, inLines, List.flatMap_cons]
      simp only [List.cons_append, List.nil_append, List.filter_cons, same, other, if_true,
        Bool.false_eq_true, if_false, List.map_cons]
      exact congrArg (line :: ·) ih

/-- What the proxies in front of a private network add. -/
def added : Bytes := Utf8.encode "203.0.113.9"

theorem named?_added : named? added = some [outsider] := rfl

end Forwarded

/-- A later line that names a trusted hop makes no difference. -/
theorem client?_of_lines_trusted :
    border.client? (some proxy) (inLines [sent, Utf8.encode "10.0.0.2"]) =
      border.client? (some proxy) (inLines [[comma].intercalate [sent, Utf8.encode "10.0.0.2"]]) := by
  have own : named? (Utf8.encode "10.0.0.2") = some [proxy] := rfl
  have named : List.Forall₂ (fun line hops => named? line = some hops)
      [sent, Utf8.encode "10.0.0.2"] [[stranger], [proxy]] := .cons named?_sent (.cons own .nil)
  refine ((client?_of_lines border (some proxy) (all_inLines _) (all_inLines _) named).2).2 ?_
  rintro _ _ _
  left
  rintro _ (_ | ⟨_, isMember⟩)
  · exact trusted_proxy
  · cases isMember

/-- The line that a client sends in front of the line that the proxy adds decides, though it would not
in one line with it. -/
theorem first_line_decides :
    border.client? (some proxy) (inLines [sent, added]) = some stranger ∧
      border.client? (some proxy) (inLines [[comma].intercalate [sent, added]]) = some outsider ∧
      stranger ≠ outsider := by
  refine ⟨?_, ?_, by decide⟩
  · rw [client?_of_tells trusted_proxy (tells_of_all (all_inLines _) named?_sent)]
    decide
  · have named := named?_intercalate (.cons named?_sent (.cons named?_added .nil))
      (List.cons_ne_nil _ _)
    rw [client?_of_tells trusted_proxy (tells_of_all (all_inLines _) named)]
    decide

end Access.Gate

end Gatehouse
