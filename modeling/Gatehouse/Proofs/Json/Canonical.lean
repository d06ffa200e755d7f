import Mathlib.Data.List.Forall2
import Gatehouse.Proofs.Json.Reading
import Gatehouse.Proofs.SortedMap
/-!
# Documents that survive being written and read

Every document that a text can hold is canonical: its integers fit into 64 bits, and the members of
its objects stand by increasing name.  When a canonical document is written and read, only its reals
may change.  So what comes back has the same outline, and a reader that looks at no real sees no
difference.
-/

namespace Gatehouse.Json

open Draft

/-! ## Outlines -/

mutual

/-- The document with all its reals made alike. -/
def outline : Json → Json
  | .number (.real _) => .number (.real 0)
  | .array items => .array (outlineItems items)
  | .object members => .object (outlineMembers members)
  | json => json

/-- The outlines of the items of an array. -/
def outlineItems : List Json → List Json
  | [] => []
  | item :: rest => item.outline :: outlineItems rest

/-- The members of an object with the outlines of their values. -/
def outlineMembers : List (String × Json) → List (String × Json)
  | [] => []
  | (name, value) :: rest => (name, value.outline) :: outlineMembers rest

end

theorem outlineItems_eq_map (items : List Json) : outlineItems items = items.map outline := by
  induction items with
  | nil => rfl
  | cons item rest ih => simp only [outlineItems, List.map_cons, ih]

theorem outlineMembers_eq_map (members : List (String × Json)) :
    outlineMembers members = members.map fun entry => (entry.1, entry.2.outline) := by
  induction members with
  | nil => rfl
  | cons entry rest ih => simp only [outlineMembers, List.map_cons, ih]

/-! Looking into an outline shows the outline of what is there. -/

theorem member?_outline (name : String) (json : Json) :
    json.outline.member? name = (json.member? name).map outline := by
  cases json with
  | object members =>
      simp only [outline, member?, outlineMembers_eq_map, List.find?_map, Option.map_map]
      rfl
  | number n => cases n <;> rfl
  | _ => rfl

theorem text?_outline (json : Json) : json.outline.text? = json.text? := by
  cases json with
  | number n => cases n <;> rfl
  | _ => rfl

theorem nat?_outline (json : Json) : json.outline.nat? = json.nat? := by
  cases json with
  | number n => cases n <;> rfl
  | _ => rfl

theorem items?_outline (json : Json) :
    json.outline.items? = json.items?.map (List.map outline) := by
  cases json with
  | number n => cases n <;> rfl
  | array items => simp only [outline, items?, outlineItems_eq_map, Option.map_some]
  | _ => rfl

/-! ## Canonical documents -/

mutual

/-- A document that a text can hold: integers fit into 64 bits, and members stand by increasing
name. -/
def Canonical : Json → Prop
  | .number (.int n) => Word.leastSigned ≤ n ∧ n ≤ (Word.greatest64 : Int)
  | .array items => AreCanonical items
  | .object members => Entries.Sorted members ∧ HaveCanonical members
  | _ => True

/-- All items are canonical. -/
def AreCanonical : List Json → Prop
  | [] => True
  | item :: rest => item.Canonical ∧ AreCanonical rest

/-- The values of all members are canonical. -/
def HaveCanonical : List (String × Json) → Prop
  | [] => True
  | (_, value) :: rest => value.Canonical ∧ HaveCanonical rest

end

theorem areCanonical_iff {items : List Json} :
    AreCanonical items ↔ ∀ item ∈ items, item.Canonical := by
  induction items with
  | nil => simp [AreCanonical]
  | cons item rest ih => simp only [AreCanonical, ih, List.forall_mem_cons]

theorem haveCanonical_iff {members : List (String × Json)} :
    HaveCanonical members ↔ ∀ entry ∈ members, entry.2.Canonical := by
  induction members with
  | nil => simp [HaveCanonical]
  | cons entry rest ih => simp only [HaveCanonical, ih, List.forall_mem_cons]

theorem canonical_array {items : List Json} :
    (array items).Canonical ↔ ∀ item ∈ items, item.Canonical := by
  rw [Canonical, areCanonical_iff]

theorem canonical_object {members : List (String × Json)} :
    (object members).Canonical ↔
      Entries.Sorted members ∧ ∀ entry ∈ members, entry.2.Canonical := by
  rw [Canonical, haveCanonical_iff]

theorem canonical_nat {n : Nat} : (nat n).Canonical ↔ n ≤ Word.greatest64 := by
  rw [nat, Canonical]
  unfold Word.leastSigned
  omega

/-- An object made of canonical members is canonical. -/
theorem canonical_ofMap {members : SortedMap String Json}
    (canonical : ∀ entry ∈ members.toList, entry.2.Canonical) : (object members.toList).Canonical :=
  canonical_object.2 ⟨members.sorted, canonical⟩

/-! ## Reading back -/

/-- What a document is read back as where it may be nested to the depth `room`. -/
def readBack? (room : Nat) (json : Json) : Option Json := json.reread.toJson? room

theorem parse?_compact (json : Json) : parse? json.compact = json.readBack? deepest := by
  rw [parse?, readText_compact, Draft.value, readBack?]
  cases json.reread.toJson? deepest <;> rfl

theorem parseBytes?_compact (json : Json) :
    parseBytes? (Utf8.encode json.compact) = json.readBack? deepest := by
  rw [parseBytes?, readBytes_compact, Draft.value, readBack?]
  cases json.reread.toJson? deepest <;> rfl

theorem parseBytes?_pretty (json : Json) :
    parseBytes? (Utf8.encode json.pretty) = json.readBack? deepest := by
  rw [parseBytes?, readBytes_pretty, Draft.value, readBack?]
  cases json.reread.toJson? deepest <;> rfl

theorem toItems?_rereadItems {room : Nat} {items others : List Json} :
    toItems? room (rereadItems items) = some others ↔
      List.Forall₂ (fun item other => item.readBack? room = some other) items others := by
  induction items generalizing others with
  | nil => simp [rereadItems, toItems?, eq_comm]
  | cons item rest ih =>
      simp only [rereadItems, toItems?, bind, pure, Option.bind_eq_some_iff, Option.some.injEq,
        List.forall₂_cons_left_iff, ih]
      constructor
      · rintro ⟨other, read, more, readRest, rfl⟩
        exact ⟨other, more, read, readRest, rfl⟩
      · rintro ⟨other, more, read, readRest, rfl⟩
        exact ⟨other, read, more, readRest, rfl⟩

theorem toMembers?_rereadMembers {room : Nat} {members others : List (String × Json)} :
    toMembers? room (rereadMembers members) = some others ↔
      List.Forall₂ (fun entry other => other.1 = entry.1 ∧ entry.2.readBack? room = some other.2)
        members others := by
  induction members generalizing others with
  | nil => simp [rereadMembers, toMembers?, eq_comm]
  | cons entry rest ih =>
      simp only [rereadMembers, toMembers?, bind, pure, Option.bind_eq_some_iff, Option.some.injEq,
        List.forall₂_cons_left_iff, ih]
      constructor
      · rintro ⟨_, rfl, other, read, more, readRest, rfl⟩
        exact ⟨(entry.1, other), more, ⟨rfl, read⟩, readRest, rfl⟩
      · rintro ⟨⟨_, other⟩, more, ⟨rfl, read⟩, readRest, rfl⟩
        exact ⟨entry.1, rfl, other, read, more, readRest, rfl⟩

/-- An array is read back item by item. -/
theorem readBack?_array {room : Nat} {items : List Json} {back : Json} :
    (array items).readBack? (room + 1) = some back ↔ ∃ others, back = array others ∧
      List.Forall₂ (fun item other => item.readBack? room = some other) items others := by
  simp only [readBack?, reread, toJson?, Option.map_eq_some_iff, toItems?_rereadItems]
  constructor
  · rintro ⟨others, read, rfl⟩
    exact ⟨others, rfl, read⟩
  · rintro ⟨others, rfl, read⟩
    exact ⟨others, read, rfl⟩

/-- An object is read back member by member. -/
theorem readBack?_object {room : Nat} {members : List (String × Json)} {back : Json} :
    (object members).readBack? (room + 1) = some back ↔ ∃ others, back = ofMembers others ∧
      List.Forall₂ (fun entry other => other.1 = entry.1 ∧ entry.2.readBack? room = some other.2)
        members others := by
  simp only [readBack?, reread, toJson?, Option.map_eq_some_iff, toMembers?_rereadMembers]
  constructor
  · rintro ⟨others, read, rfl⟩
    exact ⟨others, rfl, read⟩
  · rintro ⟨others, rfl, read⟩
    exact ⟨others, read, rfl⟩

/-- Whether members stand by increasing name is a matter of their names alone. -/
theorem sorted_iff_names {members : List (String × Json)} :
    Entries.Sorted members ↔
      (members.map Prod.fst).Pairwise fun first second => compare first second = .lt := by
  rw [Entries.Sorted, List.pairwise_map]

theorem names_eq_of_forall₂ {room : Nat} {members others : List (String × Json)}
    (read : List.Forall₂ (fun entry other => other.1 = entry.1 ∧
      entry.2.readBack? room = some other.2) members others) :
    others.map Prod.fst = members.map Prod.fst := by
  induction read with
  | nil => rfl
  | cons both _ ih => simp only [List.map_cons, both.1, ih]

mutual

/-- A canonical document is read back with the same outline. -/
theorem outline_of_readBack? : (json : Json) → {room : Nat} → {back : Json} → json.Canonical →
    json.readBack? room = some back → back.outline = json.outline
  | .null, _, _, _, read => by
      cases read
      rfl
  | .bool _, _, _, _, read => by
      cases read
      rfl
  | .string _, _, _, _, read => by
      cases read
      rfl
  | .number (.int n), _, _, canonical, read => by
      simp only [readBack?, reread, Number.reread_int canonical.1 canonical.2, toJson?,
        Option.map_some] at read
      cases read
      rfl
  | .number (.real bits), _, _, _, read => by
      obtain ⟨other, found, rfl⟩ := Option.map_eq_some_iff.1 read
      obtain ⟨others, rfl⟩ := Number.reread_real found
      rfl
  | .array items, 0, _, _, read => nomatch read
  | .array items, room + 1, _, canonical, read => by
      obtain ⟨others, rfl, readItems⟩ := readBack?_array.1 read
      rw [Canonical] at canonical
      rw [outline, outline, outlineItems_of_readBack? items canonical readItems]
  | .object members, 0, _, _, read => nomatch read
  | .object members, room + 1, _, canonical, read => by
      obtain ⟨others, rfl, readMembers⟩ := readBack?_object.1 read
      rw [Canonical] at canonical
      have sorted := sorted_iff_names.1 canonical.1
      rw [← names_eq_of_forall₂ readMembers, ← sorted_iff_names] at sorted
      rw [ofMembers, SortedMap.toList_ofList sorted, outline, outline,
        outlineMembers_of_readBack? members canonical.2 readMembers]

/-- Canonical items are read back with the same outlines. -/
theorem outlineItems_of_readBack? : (items : List Json) → {room : Nat} → {others : List Json} →
    AreCanonical items →
    List.Forall₂ (fun item other => item.readBack? room = some other) items others →
    outlineItems others = outlineItems items
  | [], _, _, _, .nil => rfl
  | item :: rest, _, _, canonical, .cons read readRest => by
      rw [outlineItems, outlineItems, outline_of_readBack? item canonical.1 read,
        outlineItems_of_readBack? rest canonical.2 readRest]

/-- Canonical members are read back with the same names and outlines. -/
theorem outlineMembers_of_readBack? : (members : List (String × Json)) → {room : Nat} →
    {others : List (String × Json)} → HaveCanonical members →
    List.Forall₂ (fun entry other => other.1 = entry.1 ∧ entry.2.readBack? room = some other.2)
      members others →
    outlineMembers others = outlineMembers members
  | [], _, _, _, .nil => rfl
  | (name, value) :: rest, _, (_, _) :: _, canonical, .cons both readRest => by
      obtain ⟨rfl, read⟩ := both
      rw [outlineMembers, outlineMembers, outline_of_readBack? value canonical.1 read,
        outlineMembers_of_readBack? rest canonical.2 readRest]

end

mutual

/-- What is read back is canonical. -/
theorem canonical_of_readBack? : (json : Json) → {room : Nat} → {back : Json} →
    json.readBack? room = some back → back.Canonical
  | .null, _, _, read => by
      cases read
      exact True.intro
  | .bool _, _, _, read => by
      cases read
      exact True.intro
  | .string _, _, _, read => by
      cases read
      exact True.intro
  | .number n, _, _, read => by
      obtain ⟨other, found, rfl⟩ := Option.map_eq_some_iff.1 read
      cases other with
      | int m => exact Number.bounds_of_reread found
      | real bits => exact True.intro
  | .array items, 0, _, read => nomatch read
  | .array items, room + 1, _, read => by
      obtain ⟨others, rfl, readItems⟩ := readBack?_array.1 read
      exact canonical_array.2 (canonical_of_readItems items readItems)
  | .object members, 0, _, read => nomatch read
  | .object members, room + 1, _, read => by
      obtain ⟨others, rfl, readMembers⟩ := readBack?_object.1 read
      exact canonical_ofMap fun entry isMember =>
        canonical_of_readMembers members readMembers entry (SortedMap.mem_of_mem_ofList isMember)

/-- The items of an array that is read back are canonical. -/
theorem canonical_of_readItems : (items : List Json) → {room : Nat} → {others : List Json} →
    List.Forall₂ (fun item other => item.readBack? room = some other) items others →
    ∀ other ∈ others, other.Canonical
  | [], _, _, .nil => List.forall_mem_nil _
  | item :: rest, _, _, .cons read readRest =>
      List.forall_mem_cons.2
        ⟨canonical_of_readBack? item read, canonical_of_readItems rest readRest⟩

/-- The values of the members of an object that is read back are canonical. -/
theorem canonical_of_readMembers : (members : List (String × Json)) → {room : Nat} →
    {others : List (String × Json)} →
    List.Forall₂ (fun entry other => other.1 = entry.1 ∧ entry.2.readBack? room = some other.2)
      members others →
    ∀ other ∈ others, other.2.Canonical
  | [], _, _, .nil => List.forall_mem_nil _
  | (_, value) :: rest, _, _, .cons both readRest =>
      List.forall_mem_cons.2
        ⟨canonical_of_readBack? value both.2, canonical_of_readMembers rest readRest⟩

end

/-! ### Documents that can be read back -/

/-- The document can be read back where it may be nested to the depth `room`. -/
def Readable (room : Nat) (json : Json) : Prop := ∃ back, json.readBack? room = some back

/-- The document is read back as itself where it may be nested to the depth `room`. -/
def Exact (room : Nat) (json : Json) : Prop := json.readBack? room = some json

theorem Exact.readable {room : Nat} {json : Json} (exact : json.Exact room) : json.Readable room :=
  ⟨json, exact⟩

theorem Exact.canonical {room : Nat} {json : Json} (exact : json.Exact room) : json.Canonical :=
  canonical_of_readBack? json exact

theorem exact_null (room : Nat) : null.Exact room := rfl

theorem exact_bool (room : Nat) (value : Bool) : (bool value).Exact room := rfl

theorem exact_string (room : Nat) (text : String) : (string text).Exact room := rfl

theorem exact_nat (room : Nat) {n : Nat} (fits : n ≤ Word.greatest64) : (nat n).Exact room := by
  have bounds : Word.leastSigned ≤ (n : Int) ∧ (n : Int) ≤ (Word.greatest64 : Int) :=
    canonical_nat.2 fits
  simp only [Exact, readBack?, nat, reread, Number.reread_int bounds.1 bounds.2, toJson?,
    Option.map_some]

theorem exact_array {room : Nat} {items : List Json} (exact : ∀ item ∈ items, item.Exact room) :
    (array items).Exact (room + 1) :=
  readBack?_array.2 ⟨items, rfl, List.forall₂_same.2 exact⟩

theorem exact_object {room : Nat} {members : List (String × Json)}
    (sorted : Entries.Sorted members) (exact : ∀ entry ∈ members, entry.2.Exact room) :
    (object members).Exact (room + 1) := by
  refine readBack?_object.2 ⟨members, ?_, List.forall₂_same.2 fun entry isMember =>
    ⟨rfl, exact entry isMember⟩⟩
  rw [ofMembers, SortedMap.toList_ofList sorted]

/-- A list has a partner item by item exactly when each of its items has one. -/
theorem exists_forall₂_iff {α β : Type} {R : α → β → Prop} {items : List α} :
    (∃ others, List.Forall₂ R items others) ↔ ∀ item ∈ items, ∃ other, R item other := by
  induction items with
  | nil => simp
  | cons item rest ih =>
      simp only [List.forall_mem_cons, ← ih, List.forall₂_cons_left_iff]
      constructor
      · rintro ⟨_, other, others, related, relatedRest, rfl⟩
        exact ⟨⟨other, related⟩, others, relatedRest⟩
      · rintro ⟨⟨other, related⟩, others, relatedRest⟩
        exact ⟨_, other, others, related, relatedRest, rfl⟩

theorem readable_array {room : Nat} {items : List Json} :
    (array items).Readable (room + 1) ↔ ∀ item ∈ items, item.Readable room := by
  simp only [Readable, readBack?_array, ← exists_forall₂_iff]
  constructor
  · rintro ⟨_, others, rfl, read⟩
    exact ⟨others, read⟩
  · rintro ⟨others, read⟩
    exact ⟨_, others, rfl, read⟩

theorem readable_object {room : Nat} {members : List (String × Json)} :
    (object members).Readable (room + 1) ↔ ∀ entry ∈ members, entry.2.Readable room := by
  have named (entry : String × Json) : entry.2.Readable room ↔
      ∃ other : String × Json, other.1 = entry.1 ∧ entry.2.readBack? room = some other.2 :=
    ⟨fun ⟨back, read⟩ => ⟨(entry.1, back), rfl, read⟩, fun ⟨other, _, read⟩ => ⟨other.2, read⟩⟩
  simp only [named, ← exists_forall₂_iff]
  simp only [Readable, readBack?_object]
  constructor
  · rintro ⟨_, others, rfl, read⟩
    exact ⟨others, read⟩
  · rintro ⟨others, read⟩
    exact ⟨_, others, rfl, read⟩

/-! ### Members by name -/

/-- A member of an object made of a map is what the map has at its name. -/
theorem member?_ofMap (members : SortedMap String Json) (name : String) :
    (object members.toList).member? name = members.get? name := by
  obtain ⟨entries, sorted⟩ := members
  simp only [member?, SortedMap.get?]
  clear sorted
  induction entries with
  | nil => rfl
  | cons entry rest ih =>
      by_cases here : entry.1 = name
      · simp [Entries.get?, here]
      · have apart : compare name entry.1 ≠ .eq := fun same =>
          here (Std.LawfulEqCmp.eq_of_compare same).symm
        simp only [List.find?_cons, here, decide_false, Entries.get?, if_neg apart]
        exact ih

end Gatehouse.Json
