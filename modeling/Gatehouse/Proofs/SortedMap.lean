import Gatehouse.SortedMap
/-!
# Maps made of lists

Putting the entries of a list into a map one after the other makes each of them visible, as long
as no two of them disagree.  A list with increasing keys is the list of the map that is made of it.
-/

namespace Gatehouse

universe u v

variable {κ : Type u} {α : Type v} [Ord κ]

namespace Entries

theorem eq_of_mem_of_mem [Std.TransOrd κ] [Std.LawfulEqOrd κ] {entries : List (κ × α)}
    (sorted : Sorted entries) {key : κ} {first second : α} (here : (key, first) ∈ entries)
    (there : (key, second) ∈ entries) : first = second := by
  have found := (mem_iff_get?_eq_some sorted).1 here
  rw [(mem_iff_get?_eq_some sorted).1 there] at found
  exact (Option.some.inj found).symm

end Entries

namespace SortedMap

variable [Std.TransOrd κ]

theorem mem_toList_insert {map : SortedMap κ α} {key : κ} {value : α} {entry : κ × α}
    (isMember : entry ∈ (map.insert key value).toList) :
    entry = (key, value) ∨ entry ∈ map.toList :=
  Entries.mem_insert isMember

theorem mem_of_mem_ofList {entries : List (κ × α)} {entry : κ × α}
    (isMember : entry ∈ (ofList entries).toList) : entry ∈ entries := by
  have inserted (map : SortedMap κ α) :
      entry ∈ (entries.foldl (fun map entry => map.insert entry.1 entry.2) map).toList →
        entry ∈ entries ∨ entry ∈ map.toList := by
    clear isMember
    induction entries generalizing map with
    | nil => exact .inr
    | cons head rest ih =>
        intro isMember
        rcases ih _ isMember with inRest | before
        · exact .inl (List.mem_cons_of_mem _ inRest)
        · rcases mem_toList_insert before with same | before
          · exact .inl (same ▸ List.mem_cons_self)
          · exact .inr before
  exact (inserted empty isMember).resolve_right (List.not_mem_nil)

variable [Std.LawfulEqOrd κ]

theorem get?_insert_of_ne (map : SortedMap κ α) {key other : κ} (value : α) (apart : other ≠ key) :
    (map.insert key value).get? other = map.get? other := by
  rw [get?_insert, if_neg fun same => apart (Std.LawfulEqCmp.eq_of_compare same)]

theorem get?_erase_of_ne (map : SortedMap κ α) {key other : κ} (apart : other ≠ key) :
    (map.erase key).get? other = map.get? other := by
  rw [get?_erase, if_neg fun same => apart (Std.LawfulEqCmp.eq_of_compare same)]

theorem erase_eq_self {map : SortedMap κ α} {key : κ} (absent : map.get? key = none) :
    map.erase key = map := by
  refine ext_get? fun other => ?_
  by_cases same : other = key
  · rw [same, get?_erase_self, absent]
  · rw [get?_erase_of_ne _ same]

theorem insert_eq_self {map : SortedMap κ α} {key : κ} {value : α}
    (held : map.get? key = some value) : map.insert key value = map := by
  refine ext_get? fun other => ?_
  by_cases same : other = key
  · rw [same, get?_insert_self, held]
  · rw [get?_insert_of_ne _ _ same]

/-- What is left are the values at other keys. -/
theorem get?_erase_eq_some {map : SortedMap κ α} {key other : κ} {value : α} :
    (map.erase key).get? other = some value ↔ other ≠ key ∧ map.get? other = some value := by
  rw [get?_erase]
  by_cases same : other = key
  · simp [same]
  · have apart : compare other key ≠ .eq := fun equal => same (Std.LawfulEqCmp.eq_of_compare equal)
    simp [same, apart]

/-- Of entries that do not disagree, each is found, and nothing has changed at other keys. -/
theorem get?_foldl_insert {entries : List (κ × α)}
    (agree : ∀ key first second, (key, first) ∈ entries → (key, second) ∈ entries →
      first = second) (map : SortedMap κ α) (key : κ) (value : α) :
    (entries.foldl (fun map entry => map.insert entry.1 entry.2) map).get? key = some value ↔
      (key, value) ∈ entries ∨
        (∀ other, (key, other) ∉ entries) ∧ map.get? key = some value := by
  induction entries generalizing map with
  | nil => simp
  | cons head rest ih =>
      obtain ⟨place, content⟩ := head
      have agreeRest : ∀ key first second, (key, first) ∈ rest → (key, second) ∈ rest →
          first = second := fun key first second here there =>
        agree key first second (List.mem_cons_of_mem _ here) (List.mem_cons_of_mem _ there)
      rw [List.foldl_cons, ih agreeRest]
      by_cases same : key = place
      · subst same
        have isHead {other : α} (isMember : (key, other) ∈ rest) : other = content :=
          agree key other content (List.mem_cons_of_mem _ isMember) List.mem_cons_self
        rw [get?_insert_self, Option.some.injEq, List.mem_cons]
        constructor
        · rintro (isMember | ⟨_, rfl⟩)
          · exact .inl (.inr isMember)
          · exact .inl (.inl rfl)
        · rintro ((here | isMember) | ⟨absent, _⟩)
          · have same : value = content := congrArg Prod.snd here
            by_cases again : (key, value) ∈ rest
            · exact .inl again
            · refine .inr ⟨fun other isMember => again ?_, same.symm⟩
              rw [same, ← isHead isMember]
              exact isMember
          · exact .inl isMember
          · exact absurd List.mem_cons_self (absent content)
      · have notHead (other : α) :
            (key, other) ∈ (place, content) :: rest ↔ (key, other) ∈ rest := by
          simp [same]
        simp only [get?_insert_of_ne map content same, notHead]

/-- A map has the entries that it is made of, if no two of them disagree. -/
theorem get?_ofList {entries : List (κ × α)}
    (agree : ∀ key first second, (key, first) ∈ entries → (key, second) ∈ entries →
      first = second) (key : κ) (value : α) :
    (ofList entries).get? key = some value ↔ (key, value) ∈ entries := by
  simp [ofList, get?_foldl_insert agree]

/-- A list with increasing keys is the list of the map that is made of it. -/
theorem ofList_eq {entries : List (κ × α)} (sorted : Entries.Sorted entries) :
    ofList entries = ⟨entries, sorted⟩ := by
  refine ext_get? fun key => Option.ext fun value => ?_
  rw [get?_ofList fun _ _ _ => Entries.eq_of_mem_of_mem sorted, ← mem_toList_iff]

theorem toList_ofList {entries : List (κ × α)} (sorted : Entries.Sorted entries) :
    (ofList entries).toList = entries :=
  congrArg toList (ofList_eq sorted)

theorem ofList_toList (map : SortedMap κ α) : ofList map.toList = map :=
  ofList_eq map.sorted

/-! ## Keys -/

theorem mem_keys_iff {map : SortedMap κ α} {key : κ} :
    key ∈ map.keys ↔ ∃ value, map.get? key = some value := by
  simp [keys, ← mem_toList_iff]

theorem contains_iff {map : SortedMap κ α} {key : κ} :
    map.contains key = true ↔ key ∈ map.keys := by
  rw [contains, Option.isSome_iff_exists, mem_keys_iff]

theorem mem_keys_insert {map : SortedMap κ α} {key other : κ} {value : α} :
    other ∈ (map.insert key value).keys ↔ other = key ∨ other ∈ map.keys := by
  rw [mem_keys_iff, mem_keys_iff]
  by_cases same : other = key
  · simp [same]
  · simp [same, get?_insert_of_ne]

theorem mem_keys_erase {map : SortedMap κ α} {key other : κ} :
    other ∈ (map.erase key).keys ↔ other ≠ key ∧ other ∈ map.keys := by
  simp [mem_keys_iff, get?_erase_eq_some]

omit [Std.TransOrd κ] [Std.LawfulEqOrd κ] in
/-- What is left are the other keys, in the same order. -/
theorem keys_erase {map : SortedMap κ α} {key : κ} :
    (map.erase key).keys = map.keys.filter fun other => compare key other ≠ .eq := by
  rw [keys, keys, List.filter_map]
  rfl

omit [Std.TransOrd κ] in
theorem nodup_keys (map : SortedMap κ α) : map.keys.Nodup := by
  refine List.pairwise_map.2 (map.sorted.imp fun {first second} less same => ?_)
  simp [same] at less

/-- Maps without contents are the same if they have the same keys. -/
theorem eq_of_mem_keys_iff {first second : SortedMap κ Unit}
    (same : ∀ key, key ∈ first.keys ↔ key ∈ second.keys) : first = second := by
  have some {map : SortedMap κ Unit} {key : κ} (value : Unit) :
      map.get? key = some value ↔ key ∈ map.keys :=
    ⟨fun found => mem_keys_iff.2 ⟨value, found⟩, fun isKey => (mem_keys_iff.1 isKey).choose_spec⟩
  exact ext_get? fun key => Option.ext fun value => by rw [some, some, same]

/-- A map into which entries are put has their keys besides its own. -/
theorem mem_keys_foldl_insert {entries : List (κ × α)} {key : κ} (map : SortedMap κ α) :
    key ∈ (entries.foldl (fun map entry => map.insert entry.1 entry.2) map).keys ↔
      key ∈ entries.map Prod.fst ∨ key ∈ map.keys := by
  induction entries generalizing map with
  | nil => simp
  | cons head rest ih =>
      rw [List.foldl_cons, ih, mem_keys_insert, List.map_cons, List.mem_cons,
        or_left_comm, or_assoc]

/-- The keys of a map that is made of a list are those of the list. -/
theorem mem_keys_ofList {entries : List (κ × α)} {key : κ} :
    key ∈ (ofList entries).keys ↔ key ∈ entries.map Prod.fst := by
  rw [ofList, mem_keys_foldl_insert]
  simp [keys, empty]

end SortedMap

end Gatehouse
