import Gatehouse.Proofs.Firewall.Nftables.Batches
/-!
# What the backend learns from the filter

What the filter prints can be read.  From a listing the backend takes the allow rules of the chain,
and from the echo of a batch the rules that it has asked for, each with its handle.
-/

namespace Gatehouse.Firewall.Nftables

open Json

/-! ## Entries -/

theorem reportedRule?_eq {entry : Json} {handle : Nat} {document : Document}
    (shown : entryRule? entry = some (.object (document.insert "handle" (.nat handle)).toList)) :
    ((reportedRule? entry).bind fun report =>
        report.decoded.map fun rule => (rule, report.handle)) =
      document.rule?.map fun rule => (rule, handle) := by
  have other {name : String} (apart : name ≠ "handle") :
      (Json.object (document.insert "handle" (.nat handle)).toList).member? name =
        document.get? name := by
    rw [member?_ofMap, SortedMap.get?_insert_of_ne _ _ apart]
  have number :
      ((Json.object (document.insert "handle" (.nat handle)).toList).member? "handle").bind
        Json.nat? = some handle := by
    rw [member?_ofMap, SortedMap.get?_insert_self]
    rfl
  simp only [reportedRule?, shown, Option.bind_eq_bind, Option.bind_some, number,
    other (show "table" ≠ "handle" by decide), other (show "expr" ≠ "handle" by decide),
    Document.rule?]
  cases (document.get? "table").bind Json.text? with
  | none => rfl
  | some name =>
      by_cases managed : name = tableName
      · simp [managed]
      · simp [managed]

theorem entryRule?_numbered (handle : Nat) (document : Document) :
    entryRule? (numbered handle document) =
      some (.object (document.insert "handle" (.nat handle)).toList) := rfl

theorem entryRule?_add_numbered (handle : Nat) (document : Document) :
    entryRule? (member "add" (numbered handle document)) =
      some (.object (document.insert "handle" (.nat handle)).toList) := rfl

/-- An output with entries of which each that reports a rule has its name from its expressions. -/
theorem reportedHandles_batch {entries : List Json} {requested : List Rule}
    (named : requested = [] ∨
      ∀ report ∈ entries.filterMap reportedRule?, report.decoded.isSome = true) :
    reportedHandles (batch entries) requested = entries.filterMap fun entry =>
      (reportedRule? entry).bind fun report =>
        report.decoded.map fun rule => (rule, report.handle) := by
  have found : ((batch entries).member? "nftables").bind Json.items? = some entries := rfl
  simp only [reportedHandles, found]
  rw [assign_of_named named, List.filterMap_filterMap]

/-! ## Listings -/

/-- A listing shows the allow rules of the chain with their handles. -/
theorem mem_reportedHandles_listing {ruleset : Ruleset} {rule : Rule} {handle : Nat} :
    (rule, handle) ∈ reportedHandles ruleset.listing [] ↔ ruleset.rule? handle = some rule := by
  have introduced : reportedRule? Ruleset.metainfo = none := rfl
  rw [Ruleset.listing, reportedHandles_batch (.inl rfl), List.filterMap_cons, introduced]
  simp only [Option.bind_none, List.filterMap_map, Function.comp_def,
    reportedRule?_eq (entryRule?_numbered _ _), List.mem_filterMap, Option.map_eq_some_iff,
    Ruleset.rule?, Option.bind_eq_some_iff]
  constructor
  · rintro ⟨⟨place, document⟩, isMember, decoded, found, same⟩
    cases same
    exact ⟨document, (SortedMap.mem_toList_iff _ _ _).1 isMember, found⟩
  · rintro ⟨document, held, found⟩
    exact ⟨(handle, document), (SortedMap.mem_toList_iff _ _ _).2 held, rule, found, rfl⟩

theorem canonical_numbered {handle : Nat} (fits : handle ≤ Word.greatest64) {document : Document}
    (canonical : ∀ entry ∈ document.toList, entry.2.Canonical) :
    (numbered handle document).Canonical := by
  refine canonical_object.2 ⟨List.pairwise_singleton _ _, List.forall_mem_singleton.2
    (canonical_ofMap fun entry isMember => ?_)⟩
  rcases SortedMap.mem_toList_insert isMember with rfl | isMember
  · exact canonical_nat.2 fits
  · exact canonical entry isMember

/-- The listing of a ruleset that can come about is canonical. -/
theorem canonical_listing {ruleset : Ruleset} (wellFormed : ruleset.WellFormed) :
    ruleset.listing.Canonical := by
  have introduced : Ruleset.metainfo.Canonical :=
    (exact_member (exact_member (exact_nat 0 (by decide)))).canonical
  refine canonical_object.2 ⟨List.pairwise_singleton _ _, List.forall_mem_singleton.2
    (canonical_array.2 (List.forall_mem_cons.2 ⟨introduced, ?_⟩))⟩
  intro entry isMember
  obtain ⟨⟨handle, document⟩, held, rfl⟩ := List.mem_map.1 isMember
  have found := (SortedMap.mem_toList_iff _ _ _).1 held
  exact canonical_numbered (wellFormed.handle_le found) (wellFormed.canonical found)

/-- All rules can be read where a listing has them. -/
def Ruleset.Legible (ruleset : Ruleset) : Prop :=
  ∀ {handle document}, ruleset.rules.get? handle = some document →
    (numbered handle document).Readable 125

/-- A listing can be read when all its rules can. -/
theorem readable_listing {ruleset : Ruleset} :
    ruleset.listing.Readable Draft.deepest ↔ ruleset.Legible := by
  have introduced : Ruleset.metainfo.Readable 125 :=
    (exact_member (exact_member (exact_nat 123 (by decide)))).readable
  rw [Ruleset.listing, batch, member, Draft.deepest, readable_object, List.forall_mem_singleton,
    readable_array, List.forall_mem_cons]
  constructor
  · rintro ⟨_, readable⟩ handle document held
    have listed := (SortedMap.mem_toList_iff _ _ _).2 held
    exact readable _ (List.mem_map.2 ⟨(handle, document), listed, rfl⟩)
  · intro legible
    refine ⟨introduced, fun entry isMember => ?_⟩
    obtain ⟨⟨handle, document⟩, held, rfl⟩ := List.mem_map.1 isMember
    exact legible ((SortedMap.mem_toList_iff _ _ _).1 held)

/-! ## Echoes -/

/-- An echo shows the rules that were added with the next handles, whatever was asked for. -/
theorem reportedHandles_echo {asked requested : List Rule}
    (valid : ∀ rule ∈ asked, rule.port ≠ 0) (ruleset : Ruleset) :
    reportedHandles (batch (ruleset.echo asked)) requested = asked.zipIdx ruleset.next := by
  have shown {entry : Rule × Nat} (placed : entry ∈ asked.zipIdx ruleset.next) :
      ((reportedRule? (member "add" (numbered entry.2 (sent entry.1)))).bind fun report =>
        report.decoded.map fun rule => (rule, report.handle)) = some entry := by
    rw [reportedRule?_eq (entryRule?_add_numbered _ _),
      rule?_sent (valid _ (List.fst_mem_of_mem_zipIdx placed))]
    rfl
  rw [reportedHandles_batch (.inr ?_)]
  · rw [Ruleset.echo, List.filterMap_map]
    exact (List.filterMap_congr fun entry placed => shown placed).trans List.filterMap_some
  · intro report isMember
    obtain ⟨echoed, isEcho, reported⟩ := List.mem_filterMap.1 isMember
    obtain ⟨entry, placed, rfl⟩ := List.mem_map.1 isEcho
    have found := shown placed
    rw [reported, Option.bind_some] at found
    obtain ⟨rule, decoded, _⟩ := Option.map_eq_some_iff.1 found
    rw [decoded]
    rfl

theorem exact_numbered {room handle : Nat} (fits : handle ≤ Word.greatest64) {document : Document}
    (exact : ∀ entry ∈ document.toList, entry.2.Exact room) :
    (numbered handle document).Exact (room + 2) := by
  refine exact_member (exact_object (SortedMap.sorted _) fun entry isMember => ?_)
  rcases SortedMap.mem_toList_insert isMember with rfl | isMember
  · exact exact_nat _ fits
  · exact exact entry isMember

/-- The echo for rules that have been added is read as it was written. -/
theorem exact_echo {ruleset : Ruleset} {asked : List Rule}
    (bounded : (ruleset.enter asked).next ≤ Word.greatest64 + 1) :
    (batch (ruleset.echo asked)).Exact Draft.deepest := by
  have exact : ∀ entry ∈ ruleset.echo asked, entry.Exact 125 := by
    intro entry isMember
    obtain ⟨⟨rule, handle⟩, placed, rfl⟩ := List.mem_map.1 isMember
    have fits := Ruleset.handle_le_of_mem_zipIdx bounded placed
    exact exact_member (exact_numbered fits (exact_sent 117 rule))
  exact exact_batch exact

/-! ## Texts -/

/-- What was printed is read back. -/
theorem document_compact_eq_ok {json back : Json} :
    document (Utf8.encode json.compact) = .ok back ↔ json.readBack? Draft.deepest = some back := by
  rw [document, parseBytes?_compact]
  cases json.readBack? Draft.deepest <;> simp

/-- A batch that was printed is not taken for nothing. -/
theorem report_batch (entries : List Json) :
    report (Utf8.encode (batch entries).compact) =
      document (Utf8.encode (batch entries).compact) := by
  have printed : (Utf8.encode (batch entries).compact).all isBlankByte = false := by
    simp only [Utf8.encode, compact, batch, member, compactChars, String.toList_ofList,
      List.flatMap_cons, List.all_append]
    rfl
  rw [report, printed]
  rfl

end Gatehouse.Firewall.Nftables
