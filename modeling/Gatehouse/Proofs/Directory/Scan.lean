import Gatehouse.Proofs.Data.ByteOrder
import Gatehouse.Proofs.Directory.Keys
/-!
# What a scan finds

A scan goes to the first key that is not below a text and stops at the first key that does not begin
with it.  No key that begins with the text is passed over in this way: such keys are not below the
text, and a key between the text and one of them begins with it too.
-/

namespace Gatehouse

/-! ## Rows whose first entries have a property -/

namespace Entries

variable {α : Type} {has : α → Bool} {row : List α}

/-- To stop at the first entry without a property loses none that has it if all of these stand in
front. -/
theorem takeWhile_eq_filter (inFront : row.Pairwise fun first second => has second → has first) :
    row.takeWhile has = row.filter has := by
  induction row with
  | nil => rfl
  | cons head rest ih =>
      obtain ⟨before, inRest⟩ := List.pairwise_cons.1 inFront
      by_cases holds : has head
      · rw [List.takeWhile_cons_of_pos holds, List.filter_cons_of_pos holds, ih inRest]
      · rw [List.takeWhile_cons_of_neg holds, List.filter_cons_of_neg holds, eq_comm,
          List.filter_eq_nil_iff]
        exact fun entry isMember later => holds (before entry isMember later)

/-- To start at the first entry without a property passes over all that have it if these stand in
front. -/
theorem dropWhile_eq_filter_not
    (inFront : row.Pairwise fun first second => has second → has first) :
    row.dropWhile has = row.filter fun entry => !has entry := by
  induction row with
  | nil => rfl
  | cons head rest ih =>
      obtain ⟨before, inRest⟩ := List.pairwise_cons.1 inFront
      by_cases holds : has head
      · rw [List.dropWhile_cons_of_pos holds, List.filter_cons_of_neg (by simp [holds]), ih inRest]
      · rw [List.dropWhile_cons_of_neg holds, eq_comm, List.filter_eq_self]
        intro entry isMember
        rcases List.mem_cons.1 isMember with rfl | later
        · simp [holds]
        · simp [mt (before entry later) holds]

end Entries

namespace Store

variable {start key first second : String}

/-! ## Keys that begin with a text -/

/-- A row of characters that is not below another one, and not above one that begins with it, begins
with it too. -/
theorem isPrefix_of_between {front word rest : List Char} (notBelow : ¬ word < front)
    (notAbove : ¬ front ++ rest < word) : front <+: word := by
  induction front generalizing word with
  | nil => exact List.nil_prefix
  | cons c front ih =>
      cases word with
      | nil => exact absurd (List.nil_lt_cons c front) notBelow
      | cons d word =>
          rw [List.cons_lt_cons_iff, not_or] at notBelow
          rw [List.cons_append, List.cons_lt_cons_iff, not_or] at notAbove
          obtain rfl : d = c := le_antisymm (not_lt.1 notAbove.1) (not_lt.1 notBelow.1)
          refine (List.prefix_cons_inj d).2 (ih ?_ ?_)
          · exact fun below => notBelow.2 ⟨rfl, below⟩
          · exact fun above => notAbove.2 ⟨rfl, above⟩

theorem begins_iff : begins start key = true ↔ start.toList <+: key.toList :=
  List.isPrefixOf_iff_prefix

/-- A key that begins with a text is not below it. -/
theorem not_below_of_begins (isBegun : begins start key = true) : compare key start ≠ .lt := by
  obtain ⟨rest, same⟩ := begins_iff.1 isBegun
  have isKey : key = start ++ String.ofList rest := by
    rw [← String.toList_inj, String.toList_append, String.toList_ofList, same]
  rw [isKey]
  exact Key.compare_append_ne_lt start _

/-- Between a text and a key that begins with it there are only keys that do so. -/
theorem begins_of_between (notBelow : compare first start ≠ .lt)
    (ordered : compare first second = .lt) (isBegun : begins start second = true) :
    begins start first = true := by
  obtain ⟨rest, same⟩ := begins_iff.1 isBegun
  rw [Ne, compare_lt_iff_lt, String.lt_iff_toList_lt] at notBelow
  rw [compare_lt_iff_lt, String.lt_iff_toList_lt, ← same] at ordered
  exact begins_iff.2 (isPrefix_of_between notBelow (List.lt_asymm ordered))

/-! ## Scans -/

/-- A scan finds the entries whose keys begin with a text. -/
theorem scan_eq_filter_begins (store : Store) (start : String) :
    store.scan start = store.toList.filter fun entry => begins start entry.1 := by
  have lowInFront : store.toList.Pairwise fun first second =>
      decide (compare second.1 start = .lt) → decide (compare first.1 start = .lt) := by
    refine store.sorted.imp fun {first second} ordered low => ?_
    exact decide_eq_true (Std.TransCmp.lt_trans ordered (of_decide_eq_true low))
  have begunInFront :
      (store.toList.filter fun entry => !decide (compare entry.1 start = .lt)).Pairwise
        fun first second => begins start second.1 → begins start first.1 := by
    refine List.pairwise_filter.2 (store.sorted.imp fun {first second} ordered notLow _ => ?_)
    exact begins_of_between (by simpa using notLow) ordered
  rw [scan, Entries.dropWhile_eq_filter_not lowInFront, Entries.takeWhile_eq_filter begunInFront,
    List.filter_filter]
  refine List.filter_congr fun entry _ => ?_
  cases isBegun : begins start entry.1 with
  | false => rfl
  | true => simp [not_below_of_begins isBegun]

/-- A key begins with a text exactly if its bytes begin with those of the text. -/
theorem begins_eq (start key : String) :
    begins start key = (Utf8.encode start).isPrefixOf (Utf8.encode key) := by
  rw [Bool.eq_iff_iff, begins_iff, List.isPrefixOf_iff_prefix, Utf8.encode_isPrefix_iff]

/-- A scan finds the entries whose keys begin, byte by byte, with a text, whatever text it is.  It
shows what the store holds at each of these keys, once, and the keys increase in the order of their
bytes. -/
theorem scan_eq_filter (store : Store) (start : String) :
    store.scan start =
      store.toList.filter (fun entry => (Utf8.encode start).isPrefixOf (Utf8.encode entry.1)) ∧
    (∀ key value, (key, value) ∈ store.scan start ↔
      Utf8.encode start <+: Utf8.encode key ∧ store.get? key = some value) ∧
    (store.scan start).Pairwise fun first second =>
      Utf8.encode first.1 < Utf8.encode second.1 := by
  have found : store.scan start = store.toList.filter
      fun entry => (Utf8.encode start).isPrefixOf (Utf8.encode entry.1) := by
    simp only [scan_eq_filter_begins, begins_eq]
  refine ⟨found, fun key value => ?_, ?_⟩
  · rw [found, List.mem_filter, List.isPrefixOf_iff_prefix, SortedMap.mem_toList_iff, and_comm]
  · rw [found]
    refine (store.sorted.filter _).imp fun {first second} ordered => ?_
    exact Utf8.encode_lt_encode_iff.2 (compare_lt_iff_lt.1 ordered)

/-- A key that agrees with a text up to its last character is passed over. -/
example :
    (scan (.ofList [("userx", .null), ("user:bob", .null), ("user:alice", .null)]) "user:").map
      Prod.fst = ["user:alice", "user:bob"] := by
  decide +kernel

end Store

end Gatehouse
