/-!
# Finite maps with their entries in key order

A `SortedMap` is a list of entries whose keys strictly increase, so two maps with the same
entries are the same value and the order in which a listing shows them is a property of the map
and not of its history.  The operations are structural recursions on that list; the laws at the
end say what each of them does to the view `get?`, and that the view determines the map.
-/

namespace Gatehouse

universe u v

variable {κ : Type u} {α : Type v} [Ord κ]

/-! ## Operations on entry lists -/

namespace Entries

/-- Put `value` at `key` into entries with increasing keys, replacing what the key held. -/
def insert (key : κ) (value : α) : List (κ × α) → List (κ × α)
  | [] => [(key, value)]
  | entry :: rest =>
      match compare key entry.1 with
      | .lt => (key, value) :: entry :: rest
      | .eq => (key, value) :: rest
      | .gt => entry :: insert key value rest

/-- The value at `key`. -/
def get? (key : κ) : List (κ × α) → Option α
  | [] => none
  | entry :: rest => if compare key entry.1 = .eq then some entry.2 else get? key rest

/-- The entries at other keys than `key`. -/
def erase (key : κ) (entries : List (κ × α)) : List (κ × α) :=
  entries.filter fun entry => compare key entry.1 ≠ .eq

/-- The keys of the entries strictly increase. -/
def Sorted (entries : List (κ × α)) : Prop :=
  entries.Pairwise fun first second => compare first.1 second.1 = .lt

theorem sorted_nil : Sorted ([] : List (κ × α)) := List.Pairwise.nil

theorem mem_insert {key : κ} {value : α} {entries : List (κ × α)} {entry : κ × α}
    (isMember : entry ∈ insert key value entries) :
    entry = (key, value) ∨ entry ∈ entries := by
  induction entries with
  | nil => simpa [insert] using isMember
  | cons head rest ih =>
      unfold insert at isMember
      split at isMember
      · simpa using isMember
      · rcases List.mem_cons.1 isMember with h | h
        · exact .inl h
        · exact .inr (List.mem_cons_of_mem _ h)
      · rcases List.mem_cons.1 isMember with h | h
        · exact .inr (h ▸ List.mem_cons_self)
        · exact (ih h).imp id (List.mem_cons_of_mem _)

theorem sorted_insert [Std.TransOrd κ] {key : κ} {value : α} {entries : List (κ × α)}
    (sorted : Sorted entries) : Sorted (insert key value entries) := by
  induction entries with
  | nil => simp [insert, Sorted]
  | cons head rest ih =>
      have tailSorted : Sorted rest := (List.pairwise_cons.1 sorted).2
      have below := (List.pairwise_cons.1 sorted).1
      unfold insert
      split <;> rename_i order
      · refine List.pairwise_cons.2 ⟨?_, sorted⟩
        intro entry isMember
        rcases List.mem_cons.1 isMember with rfl | isMember
        · exact order
        · exact Std.TransCmp.lt_trans order (below entry isMember)
      · refine List.pairwise_cons.2 ⟨?_, tailSorted⟩
        intro entry isMember
        exact Std.TransCmp.lt_of_eq_of_lt order (below entry isMember)
      · refine List.pairwise_cons.2 ⟨?_, ih tailSorted⟩
        intro entry isMember
        rcases mem_insert isMember with rfl | isMember
        · exact Std.OrientedCmp.lt_of_gt order
        · exact below entry isMember

theorem sorted_erase {key : κ} {entries : List (κ × α)} (sorted : Sorted entries) :
    Sorted (erase key entries) :=
  List.Pairwise.filter _ sorted

/-! ### What the operations do to the view -/

theorem get?_insert [Std.TransOrd κ] (key : κ) (value : α) (entries : List (κ × α)) (other : κ) :
    get? other (insert key value entries) =
      if compare other key = .eq then some value else get? other entries := by
  induction entries with
  | nil => rfl
  | cons head rest ih =>
      unfold insert
      split <;> rename_i order
      · rfl
      · have same : compare other head.1 = compare other key :=
          (Std.TransCmp.congr_right order).symm
        simp only [get?, same]
        split <;> rfl
      · simp only [get?, ih]
        by_cases here : compare other head.1 = .eq
        · have apart : compare other key ≠ .eq := by
            intro equal
            have same : compare other head.1 = compare key head.1 :=
              Std.TransCmp.congr_left equal
            simp [here, order] at same
          simp [here, apart]
        · simp [here]

theorem get?_erase [Std.TransOrd κ] (key : κ) (entries : List (κ × α)) (other : κ) :
    get? other (erase key entries) =
      if compare other key = .eq then none else get? other entries := by
  induction entries with
  | nil => simp [erase, get?]
  | cons head rest ih =>
      unfold erase at ih ⊢
      by_cases order : compare key head.1 = .eq
      · have same : compare other head.1 = compare other key :=
          (Std.TransCmp.congr_right order).symm
        simp only [List.filter_cons, order, ne_eq, not_true_eq_false, decide_false,
          Bool.false_eq_true, if_false, ih, get?, same]
        split <;> rfl
      · simp only [List.filter_cons, ne_eq, order, not_false_eq_true, decide_true, if_true, get?,
          ih]
        by_cases here : compare other head.1 = .eq
        · have apart : compare other key ≠ .eq := by
            intro equal
            have same : compare other head.1 = compare key head.1 :=
              Std.TransCmp.congr_left equal
            exact order (same.symm.trans here)
          simp [here, apart]
        · simp [here]

/-- In entries with increasing keys, an entry is there exactly when its value is at its key. -/
theorem mem_iff_get?_eq_some [Std.TransOrd κ] [Std.LawfulEqOrd κ] {entries : List (κ × α)}
    (sorted : Sorted entries) {key : κ} {value : α} :
    (key, value) ∈ entries ↔ get? key entries = some value := by
  induction entries with
  | nil => simp [get?]
  | cons head rest ih =>
      obtain ⟨below, tailSorted⟩ := List.pairwise_cons.1 sorted
      unfold get?
      split <;> rename_i order
      · have same : key = head.1 := Std.LawfulEqCmp.eq_of_compare order
        constructor
        · intro isMember
          rcases List.mem_cons.1 isMember with rfl | isMember
          · rfl
          · have := below _ isMember
            simp [← same] at this
        · intro found
          exact List.mem_cons.2 (.inl (Prod.ext same (Option.some.inj found).symm))
      · rw [List.mem_cons, ih tailSorted]
        constructor
        · rintro (rfl | found)
          · simp at order
          · exact found
        · exact .inr

theorem get?_eq_none_of_below {key : κ} {entries : List (κ × α)}
    (below : ∀ entry ∈ entries, compare key entry.1 = .lt) : get? key entries = none := by
  induction entries with
  | nil => rfl
  | cons head rest ih =>
      have order := below head List.mem_cons_self
      simp only [get?, order, reduceCtorEq, if_false]
      exact ih fun entry isMember => below entry (List.mem_cons_of_mem _ isMember)

/-- Entries with increasing keys that look the same at every key are the same. -/
theorem eq_of_get?_eq [Std.TransOrd κ] [Std.LawfulEqOrd κ] {first second : List (κ × α)}
    (firstSorted : Sorted first) (secondSorted : Sorted second)
    (same : ∀ key, get? key first = get? key second) : first = second := by
  induction first generalizing second with
  | nil =>
      cases second with
      | nil => rfl
      | cons head rest => simpa [get?] using same head.1
  | cons head rest ih =>
      obtain ⟨below, restSorted⟩ := List.pairwise_cons.1 firstSorted
      cases second with
      | nil => simpa [get?] using same head.1
      | cons other others =>
          obtain ⟨otherBelow, othersSorted⟩ := List.pairwise_cons.1 secondSorted
          have keyEq : head.1 = other.1 := by
            cases order : compare head.1 other.1 with
            | eq => exact Std.LawfulEqCmp.eq_of_compare order
            | lt =>
                have missing : get? head.1 (other :: others) = none :=
                  get?_eq_none_of_below fun entry isMember => by
                    rcases List.mem_cons.1 isMember with rfl | isMember
                    · exact order
                    · exact Std.TransCmp.lt_trans order (otherBelow entry isMember)
                have found := (same head.1).trans missing
                simp [get?] at found
            | gt =>
                have missing : get? other.1 (head :: rest) = none :=
                  get?_eq_none_of_below fun entry isMember => by
                    have swapped := Std.OrientedCmp.lt_of_gt order
                    rcases List.mem_cons.1 isMember with rfl | isMember
                    · exact swapped
                    · exact Std.TransCmp.lt_trans swapped (below entry isMember)
                have found := (same other.1).symm.trans missing
                simp [get?] at found
          have valueEq : head.2 = other.2 := by
            have found := same head.1
            simpa [get?, keyEq] using found
          have tailEq : rest = others := by
            refine ih restSorted othersSorted fun key => ?_
            have found := same key
            simp only [get?, ← keyEq] at found
            split at found <;> rename_i order
            · have keyIs : key = head.1 := Std.LawfulEqCmp.eq_of_compare order
              rw [keyIs, get?_eq_none_of_below below,
                get?_eq_none_of_below fun entry isMember => keyEq ▸ otherBelow entry isMember]
            · exact found
          rw [tailEq, Prod.ext keyEq valueEq]

end Entries

/-! ## Maps -/

/-- A finite map from `κ` to `α`, listed in key order. -/
structure SortedMap (κ : Type u) (α : Type v) [Ord κ] where
  /-- The entries, by increasing key. -/
  toList : List (κ × α)
  sorted : Entries.Sorted toList

namespace SortedMap

/-- The map without entries. -/
def empty : SortedMap κ α := ⟨[], Entries.sorted_nil⟩

instance : Inhabited (SortedMap κ α) := ⟨empty⟩
instance : EmptyCollection (SortedMap κ α) := ⟨empty⟩

/-- The value at `key`. -/
def get? (map : SortedMap κ α) (key : κ) : Option α := Entries.get? key map.toList

@[simp] theorem get?_empty (key : κ) : (empty : SortedMap κ α).get? key = none := rfl

/-- Whether `key` has a value. -/
def contains (map : SortedMap κ α) (key : κ) : Bool := (map.get? key).isSome

/-- The keys, increasing. -/
def keys (map : SortedMap κ α) : List κ := map.toList.map Prod.fst

/-- The number of entries. -/
def size (map : SortedMap κ α) : Nat := map.toList.length

/-- Whether there is no entry. -/
def isEmpty (map : SortedMap κ α) : Bool := map.toList.isEmpty

/-- The map without what it held at `key`. -/
def erase (map : SortedMap κ α) (key : κ) : SortedMap κ α :=
  ⟨Entries.erase key map.toList, Entries.sorted_erase map.sorted⟩

variable [Std.TransOrd κ]

/-- The map with `value` at `key`, whatever the key held before. -/
def insert (map : SortedMap κ α) (key : κ) (value : α) : SortedMap κ α :=
  ⟨Entries.insert key value map.toList, Entries.sorted_insert map.sorted⟩

/-- The map of a list of entries; of several entries at one key the last stays. -/
def ofList (entries : List (κ × α)) : SortedMap κ α :=
  entries.foldl (fun map entry => map.insert entry.1 entry.2) empty

/-! ## What the operations do to the view -/

theorem get?_insert (map : SortedMap κ α) (key : κ) (value : α) (other : κ) :
    (map.insert key value).get? other =
      if compare other key = .eq then some value else map.get? other :=
  Entries.get?_insert key value map.toList other

theorem get?_erase (map : SortedMap κ α) (key other : κ) :
    (map.erase key).get? other = if compare other key = .eq then none else map.get? other :=
  Entries.get?_erase key map.toList other

@[simp] theorem get?_insert_self (map : SortedMap κ α) (key : κ) (value : α) :
    (map.insert key value).get? key = some value := by
  simp [get?_insert]

@[simp] theorem get?_erase_self (map : SortedMap κ α) (key : κ) :
    (map.erase key).get? key = none := by
  simp [get?_erase]

theorem mem_toList_iff [Std.LawfulEqOrd κ] (map : SortedMap κ α) (key : κ) (value : α) :
    (key, value) ∈ map.toList ↔ map.get? key = some value :=
  Entries.mem_iff_get?_eq_some map.sorted

/-- Maps that look the same at every key are the same. -/
theorem ext_get? [Std.LawfulEqOrd κ] {first second : SortedMap κ α}
    (same : ∀ key, first.get? key = second.get? key) : first = second := by
  obtain ⟨entries, sorted⟩ := first
  obtain ⟨others, othersSorted⟩ := second
  have equal : entries = others := Entries.eq_of_get?_eq sorted othersSorted same
  subst equal
  rfl

end SortedMap

end Gatehouse
