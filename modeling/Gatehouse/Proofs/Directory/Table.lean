import Mathlib.Data.List.TakeWhile
import Gatehouse.Proofs.Directory.Keys
import Gatehouse.Proofs.SortedMap
/-!
# Tables of records

A table holds records of one kind by their labels.  It is stored as rows: the documents of its records,
at keys that put one text in front of every label.  Rows of one table stand together, in the order of
the labels, so that a look for the text in front finds them all and nothing else.
-/

namespace Gatehouse

/-- Entries that begin with a text are found, if no other ones stand among them. -/
theorem Store.scan_eq {store : Store} {start : String} {low found high : List (String × Json)}
    (split : store.toList = low ++ (found ++ high))
    (below : ∀ entry ∈ low, compare entry.1 start = .lt)
    (notBelow : ∀ entry ∈ found ++ high, compare entry.1 start ≠ .lt)
    (begin : ∀ entry ∈ found, begins start entry.1 = true)
    (other : ∀ entry ∈ high, begins start entry.1 = false) : store.scan start = found := by
  have reached : (found ++ high).dropWhile (fun entry => compare entry.1 start = .lt) =
      found ++ high := by
    refine List.dropWhile_eq_self_iff.2 fun nonempty => ?_
    simpa using notBelow _ (List.getElem_mem nonempty)
  have stops : high.takeWhile (fun entry => begins start entry.1) = [] := by
    refine List.takeWhile_eq_nil_iff.2 fun nonempty => ?_
    simpa using other _ (List.getElem_mem nonempty)
  rw [scan, split, List.dropWhile_append_of_pos (by simpa using below), reached,
    List.takeWhile_append_of_pos begin, stops, List.append_nil]

/-! ## Tables -/

/-- Records of one kind, each at its label. -/
structure Table {α : Type} (label : α → String) where
  entries : SortedMap String α
  labelled : ∀ name record, entries.get? name = some record → label record = name

namespace Table

variable {α : Type} {label : α → String}

/-- The table without records. -/
def empty : Table label := ⟨.empty, fun _ _ impossible => nomatch impossible⟩

/-- The record with a label. -/
def get? (table : Table label) (name : String) : Option α := table.entries.get? name

/-- The table with a record, in place of the one with the same label. -/
def put (table : Table label) (record : α) : Table label where
  entries := table.entries.insert (label record) record
  labelled name found isFound := by
    rw [SortedMap.get?_insert] at isFound
    split at isFound
    · rename_i same
      cases isFound
      exact (Std.LawfulEqCmp.eq_of_compare same).symm
    · exact table.labelled name found isFound

/-- The table without the record with a label. -/
def remove (table : Table label) (name : String) : Table label where
  entries := table.entries.erase name
  labelled other found isFound :=
    table.labelled other found (SortedMap.get?_erase_eq_some.1 isFound).2

/-- All records. -/
def records (table : Table label) : List α := table.entries.toList.map Prod.snd

variable (table : Table label)

theorem get?_put (record : α) (name : String) :
    (table.put record).get? name = if name = label record then some record else table.get? name := by
  unfold get? put
  simp only [SortedMap.get?_insert, Std.LawfulEqOrd.compare_eq_iff_eq]

theorem get?_remove (name other : String) :
    (table.remove name).get? other = if other = name then none else table.get? other := by
  unfold get? remove
  simp only [SortedMap.get?_erase, Std.LawfulEqOrd.compare_eq_iff_eq]

theorem remove_of_absent {name : String} (absent : table.get? name = none) :
    table.remove name = table := by
  obtain ⟨entries, labelled⟩ := table
  simp only [remove, SortedMap.erase_eq_self absent]

theorem label_of_get? {name : String} {record : α} (found : table.get? name = some record) :
    label record = name :=
  table.labelled name record found

/-- Each record is listed. -/
theorem mem_records {record : α} :
    record ∈ table.records ↔ table.get? (label record) = some record := by
  unfold records get?
  rw [List.mem_map]
  constructor
  · rintro ⟨⟨name, found⟩, isMember, rfl⟩
    have held := (SortedMap.mem_toList_iff ..).1 isMember
    rwa [table.labelled name found held]
  · intro held
    exact ⟨_, (SortedMap.mem_toList_iff ..).2 held, rfl⟩

/-- The list goes by increasing labels, so that no record comes twice. -/
theorem pairwise_records :
    table.records.Pairwise fun first second => compare (label first) (label second) = .lt := by
  unfold records
  rw [List.pairwise_map]
  refine table.entries.sorted.imp_of_mem fun {first second} isFirst isSecond below => ?_
  rwa [table.labelled _ _ ((SortedMap.mem_toList_iff ..).1 isFirst),
    table.labelled _ _ ((SortedMap.mem_toList_iff ..).1 isSecond)]

/-! ## Rows -/

variable [Record α]

/-- The entries that the records of a table are stored as. -/
def rows (start : String) : List (String × Json) :=
  table.entries.toList.map fun entry => (start ++ entry.1, Record.document entry.2)

theorem mem_rows {start key : String} {json : Json} :
    (key, json) ∈ table.rows start ↔
      ∃ name, key = start ++ name ∧ (table.get? name).map Record.document = some json := by
  unfold rows get?
  simp only [List.mem_map, Prod.mk.injEq, Option.map_eq_some_iff]
  constructor
  · rintro ⟨⟨name, record⟩, isMember, rfl, rfl⟩
    exact ⟨name, rfl, record, (SortedMap.mem_toList_iff ..).1 isMember, rfl⟩
  · rintro ⟨name, rfl, record, held, rfl⟩
    exact ⟨(name, record), (SortedMap.mem_toList_iff ..).2 held, rfl, rfl⟩

theorem exists_of_mem_rows {start : String} {entry : String × Json}
    (isRow : entry ∈ table.rows start) : ∃ name, entry.1 = start ++ name := by
  obtain ⟨name, isKey, _⟩ := table.mem_rows.1 isRow
  exact ⟨name, isKey⟩

theorem startsWith_of_mem_rows {start : String} {c : Char} {entry : String × Json}
    (starts : Key.StartsWith c start) (isRow : entry ∈ table.rows start) :
    Key.StartsWith c entry.1 := by
  obtain ⟨name, isKey⟩ := table.exists_of_mem_rows isRow
  exact isKey ▸ starts.append name

theorem compare_ne_lt_of_mem_rows {start : String} {entry : String × Json}
    (isRow : entry ∈ table.rows start) : compare entry.1 start ≠ .lt := by
  obtain ⟨name, isKey⟩ := table.exists_of_mem_rows isRow
  exact isKey ▸ Key.compare_append_ne_lt start name

theorem begins_of_mem_rows {start : String} {entry : String × Json}
    (isRow : entry ∈ table.rows start) : Store.begins start entry.1 = true := by
  obtain ⟨name, isKey⟩ := table.exists_of_mem_rows isRow
  exact isKey ▸ Key.begins_append start name

theorem sorted_rows (start : String) : Entries.Sorted (table.rows start) := by
  unfold rows
  rw [Entries.Sorted, List.pairwise_map]
  exact table.entries.sorted.imp Key.compare_append_eq_lt.2

/-- The rows are read as the records. -/
theorem decodeAll_rows [LawfulRecord α] (start : String) :
    Directory.decodeAll (table.rows start) = .ok table.records := by
  unfold rows records
  induction table.entries.toList with
  | nil => rfl
  | cons entry rest ih =>
      have decoded (key : String) :
          Directory.decode key (Record.document entry.2) = .ok entry.2 := by
        rw [Directory.decode, LawfulRecord.parse?_document]
      unfold Directory.decodeAll at ih ⊢
      rw [List.map_cons, List.mapM_cons, decoded, ih]
      rfl

end Table

end Gatehouse
