import Gatehouse.Json.Record
/-!
# Reading records

A record is read from an object whose members it knows, each once, by building it from the values
of the members.  The laws of the two ways to put fields together say what that building is: fields
put together read what they read one by one, and what they give has the parts that they give.
-/

namespace Gatehouse.Draft

variable {α : Type}

/-! ## Single values -/

theorem text_string (value : String) : text (.string (some value)) = .ok value := rfl

theorem boolean_bool (value : Bool) : boolean (.bool value) = .ok value := rfl

theorem spelled_string {parse : String → Option α} {spelling : String} {value : α}
    (isParsed : parse spelling = some value) :
    spelled parse (.string (some spelling)) = .ok value := by
  simp only [spelled, text, isParsed]

theorem choice_string {parse : String → Option α} {name : String} {value : α}
    (isParsed : parse name = some value) : choice parse (.string (some name)) = .ok value :=
  spelled_string isParsed

theorem integer_int {least greatest n : Int} (bounds : least ≤ n ∧ n ≤ greatest) :
    integer least greatest (.number (some (.int n))) = .ok n :=
  if_pos bounds

theorem natural_int {greatest n : Nat} (fits : n ≤ greatest) :
    natural greatest (.number (some (.int n))) = .ok n := by
  rw [natural, integer_int ⟨Int.natCast_nonneg n, Int.ofNat_le.2 fits⟩]
  rfl

theorem le_of_natural {greatest n : Nat} {draft : Draft} (isRead : natural greatest draft = .ok n) :
    n ≤ greatest := by
  unfold natural integer at isRead
  split at isRead
  · split at isRead
    · rename_i bounds
      cases isRead
      omega
    · cases isRead
  · cases isRead

theorem optional_text (value : Option String) : optional text (ofJson (.ofText? value)) = .ok value := by
  cases value <;> rfl

/-- A text or `null` is read as what was written, if texts are. -/
theorem optional_ofText? {write : α → String} {parse : String → Option α}
    (back : ∀ value, parse (write value) = some value) (value : Option α) :
    optional (spelled parse) (ofJson (.ofText? (value.map write))) = .ok value := by
  cases value with
  | none => rfl
  | some value =>
      change (spelled parse (.string (some (write value)))).map some = _
      rw [spelled_string (back value)]
      rfl

/-- Items are read one by one. -/
theorem list_array {β : Type} {read : Reader β} {write : α → Draft} {value : α → β}
    (back : ∀ item, read (write item) = .ok (value item)) (items : List α) :
    list read (.array (items.map write)) = .ok (items.map value) := by
  change (items.map write).mapM read = _
  induction items with
  | nil => rfl
  | cons item rest ih => rw [List.map_cons, List.mapM_cons, back, ih]; rfl

/-- What is read from a text is read from its draft. -/
theorem exists_read_of_readText {read : Reader α} {content : String} {value : α}
    (isRead : readText read content = .ok value) : ∃ draft, read draft = .ok value := by
  unfold readText readAll at isRead
  dsimp only at isRead
  split at isRead
  · cases isRead
  · rename_i other isValue
    refine ⟨_, isValue.trans ?_⟩
    split at isRead
    · split at isRead
      · exact isRead
      · cases isRead
    · cases isRead

namespace Fields

variable {β : Type} (inArray : Bool) (value? : String → Option Draft) (name : String)
  (draft : Draft)

/-! ## Fields put together -/

theorem build_map (function : α → β) (fields : Fields α) :
    (function <$> fields).build inArray value? = (fields.build inArray value?).map function := rfl

theorem names_seq (first : Fields (α → β)) (second : Fields α) :
    (first <*> second).names = first.names ++ second.names := rfl

theorem check_seq (first : Fields (α → β)) (second : Fields α) :
    (first <*> second).check name draft =
      (first.check name draft).bind fun _ => second.check name draft := rfl

theorem build_seq (first : Fields (α → β)) (second : Fields α) :
    (first <*> second).build inArray value? =
      (first.build inArray value?).bind fun function =>
        (second.build inArray value?).map function := by
  change (first.build inArray value?).bind _ = _
  congr

theorem check_single (other : String) (read : Reader α) (absent : Bool → Except Fault α) :
    (single name read absent).check other draft =
      if other = name then (read draft).map fun _ => () else .ok () := rfl

/-! ## Objects -/

/-- The members of an object as they are read. -/
def named (members : List (String × Draft)) : List (Option String × Draft) :=
  members.map fun member => (some member.1, member.2)

/-- Members that the record knows are picked out one by one. -/
theorem collect_named {fields : Fields α} (found : List (String × Draft))
    {members : List (String × Draft)}
    (known : ∀ member ∈ members, member.1 ∈ fields.names)
    (sound : ∀ member ∈ members, fields.check member.1 member.2 = .ok ())
    (apart : (found ++ members).Pairwise fun first second => first.1 ≠ second.1) :
    fields.collect found (named members) = .ok (found ++ members) := by
  induction members generalizing found with
  | nil =>
      rw [List.append_nil]
      rfl
  | cons member rest ih =>
      have isKnown : fields.names.contains member.1 = true :=
        List.contains_iff_mem.2 (known member List.mem_cons_self)
      have isSound := sound member List.mem_cons_self
      have isNew : (found.any fun entry => decide (entry.1 = member.1)) = false := by
        rw [List.any_eq_false]
        rintro entry isMember
        have differs := (List.pairwise_append.1 apart).2.2 entry isMember member List.mem_cons_self
        simpa using differs
      have follows := ih (found ++ [member])
        (fun other isMember => known other (List.mem_cons_of_mem _ isMember))
        (fun other isMember => sound other (List.mem_cons_of_mem _ isMember))
        (by simpa only [List.append_assoc, List.singleton_append] using apart)
      rw [List.append_assoc, List.singleton_append] at follows
      simp only [named, List.map_cons, collect, isKnown, isNew, isSound, if_true,
        Bool.false_eq_true, if_false]
      exact follows

/-- A record is built from the members of an object that it knows. -/
theorem read_named {fields : Fields α} {members : List (String × Draft)}
    (known : ∀ member ∈ members, member.1 ∈ fields.names)
    (sound : ∀ member ∈ members, fields.check member.1 member.2 = .ok ())
    (apart : members.Pairwise fun first second => first.1 ≠ second.1) :
    fields.read (.object (named members)) =
      fields.build false fun name => members.lookup name := by
  have collected := collect_named [] known sound apart
  simp only [List.nil_append] at collected
  simp only [read, collected]
  rfl

theorem lookup_of_mem {members : List (String × Draft)} {member : String × Draft}
    (apart : members.Pairwise fun first second => first.1 ≠ second.1) (isMember : member ∈ members) :
    members.lookup member.1 = some member.2 := by
  induction members with
  | nil => cases isMember
  | cons head rest ih =>
      rcases List.mem_cons.1 isMember with rfl | isMember
      · rw [List.lookup_cons_self]
      · have differs := List.rel_of_pairwise_cons apart isMember
        rw [List.lookup_cons, beq_false_of_ne differs.symm]
        exact ih apart.of_cons isMember

/-! ## What fields read -/

/-- Fields read a value from members, in whatever order these stand. -/
structure Reads (fields : Fields α) (members : List (String × Draft)) (value : α) : Prop where
  known : ∀ member ∈ members, member.1 ∈ fields.names
  /-- No member is refused, whether it is for these fields or for others. -/
  check : ∀ name draft, (∀ member ∈ members, member.1 = name → member.2 = draft) →
    fields.check name draft = .ok ()
  build : ∀ value?, (∀ member ∈ members, value? member.1 = some member.2) →
    fields.build false value? = .ok value

namespace Reads

variable {name : String} {draft : Draft} {read : Reader α} {members more : List (String × Draft)}

/-- A field by itself reads what its reader reads. -/
theorem single {value : α} {absent : Bool → Except Fault α} (isRead : read draft = .ok value) :
    (Fields.single name read absent).Reads [(name, draft)] value where
  known _ isMember := List.mem_singleton.1 isMember ▸ List.mem_singleton_self name
  check other otherDraft agrees := by
    by_cases same : other = name
    · have isDraft : draft = otherDraft := agrees _ (List.mem_singleton_self _) same.symm
      rw [check_single, if_pos same, ← isDraft, isRead]
      rfl
    · rw [check_single, if_neg same]
  build value? agrees := by
    have found : value? name = some draft := agrees _ (List.mem_singleton_self _)
    simp only [Fields.single, found, isRead]

theorem map {fields : Fields α} {value : α} (function : α → β)
    (reads : fields.Reads members value) :
    (function <$> fields).Reads members (function value) where
  known := reads.known
  check := reads.check
  build value? agrees := by
    rw [build_map, reads.build value? agrees]
    rfl

theorem seq {first : Fields (α → β)} {second : Fields α} {function : α → β} {value : α}
    (reads : first.Reads members function) (others : second.Reads more value) :
    (first <*> second).Reads (members ++ more) (function value) where
  known member isMember := by
    rw [names_seq]
    exact List.mem_append.2 ((List.mem_append.1 isMember).imp (reads.known _) (others.known _))
  check name draft agrees := by
    have inFirst := reads.check name draft fun member isMember =>
      agrees member (List.mem_append_left _ isMember)
    have inSecond := others.check name draft fun member isMember =>
      agrees member (List.mem_append_right _ isMember)
    rw [check_seq, inFirst]
    exact inSecond
  build value? agrees := by
    have inFirst := reads.build value? fun member isMember =>
      agrees member (List.mem_append_left _ isMember)
    have inSecond := others.build value? fun member isMember =>
      agrees member (List.mem_append_right _ isMember)
    rw [build_seq, inFirst, inSecond]
    rfl

theorem congr {fields : Fields α} {value : α} (reads : fields.Reads members value)
    (same : ∀ member, member ∈ members ↔ member ∈ more) : fields.Reads more value where
  known member isMember := reads.known member ((same member).2 isMember)
  check name draft agrees := reads.check name draft fun member isMember =>
    agrees member ((same member).1 isMember)
  build value? agrees := reads.build value? fun member isMember =>
    agrees member ((same member).1 isMember)

/-- Fields read the object of their members, if these have different names. -/
theorem read_named {fields : Fields α} {value : α} (reads : fields.Reads members value)
    (apart : (members.map Prod.fst).Nodup) : fields.read (.object (named members)) = .ok value := by
  have apart : members.Pairwise fun first second => first.1 ≠ second.1 := List.pairwise_map.1 apart
  have sound : ∀ member ∈ members, fields.check member.1 member.2 = .ok () := by
    refine fun member isMember => reads.check _ _ fun other isOther sameName => ?_
    have found := lookup_of_mem apart isOther
    rw [sameName, lookup_of_mem apart isMember] at found
    exact (Option.some.inj found).symm
  rw [Fields.read_named reads.known sound apart]
  exact reads.build _ fun member isMember => lookup_of_mem apart isMember

end Reads

/-! ## What fields give -/

/-- Whatever fields give has a property. -/
def Gives (fields : Fields α) (Good : α → Prop) : Prop :=
  ∀ inArray value? value, fields.build inArray value? = .ok value → Good value

namespace Gives

variable {Good : β → Prop} {GoodPart : α → Prop}

theorem single {read : Reader α} {absent : Bool → Except Fault α}
    (good : ∀ draft value, read draft = .ok value → GoodPart value)
    (goodAbsent : ∀ inArray value, absent inArray = .ok value → GoodPart value) :
    (Fields.single name read absent).Gives GoodPart := by
  intro inArray value? value built
  unfold Fields.single at built
  dsimp only at built
  split at built
  · exact good _ _ built
  · exact goodAbsent _ _ built

theorem map {fields : Fields α} {function : α → β} (good : ∀ value, Good (function value)) :
    (function <$> fields).Gives Good := by
  intro inArray value? value built
  rw [build_map] at built
  cases part : fields.build inArray value? with
  | error reason =>
      rw [part] at built
      cases built
  | ok argument =>
      rw [part] at built
      cases built
      exact good argument

/-- What the last fields give counts as far as the property of the whole asks for it. -/
theorem seq_of {first : Fields (α → β)} {second : Fields α} (goodPart : second.Gives GoodPart)
    (good : first.Gives fun function => ∀ value, GoodPart value → Good (function value)) :
    (first <*> second).Gives Good := by
  intro inArray value? value built
  rw [build_seq] at built
  cases head : first.build inArray value? with
  | error reason =>
      rw [head] at built
      cases built
  | ok function =>
      cases part : second.build inArray value? with
      | error reason =>
          rw [head, part] at built
          cases built
      | ok argument =>
          rw [head, part] at built
          cases built
          exact good _ _ _ head _ (goodPart _ _ _ part)

theorem seq {first : Fields (α → β)} {second : Fields α}
    (good : first.Gives fun function => ∀ value, Good (function value)) :
    (first <*> second).Gives Good :=
  have goodPart : second.Gives fun _ => True := fun _ _ _ _ => trivial
  goodPart.seq_of fun inArray value? function built value _ =>
    good inArray value? function built value

/-- A record that is read is one that is built. -/
theorem of_read {fields : Fields α} {draft : Draft} {value : α} (gives : fields.Gives GoodPart)
    (isRead : fields.read draft = .ok value) : GoodPart value := by
  unfold Fields.read at isRead
  split at isRead
  · rename_i members
    cases collected : fields.collect [] members with
    | error reason =>
        rw [collected] at isRead
        cases isRead
    | ok found =>
        rw [collected] at isRead
        exact gives _ _ _ isRead
  · rename_i items
    cases built : fields.build true fun name => items[fields.names.idxOf name]? with
    | error reason =>
        rw [built] at isRead
        cases isRead
    | ok record =>
        rw [built] at isRead
        change (if _ then _ else _) = _ at isRead
        split at isRead
        · cases isRead
        · cases isRead
          exact gives _ _ _ built
  · cases isRead

end Gives

end Fields

end Gatehouse.Draft
