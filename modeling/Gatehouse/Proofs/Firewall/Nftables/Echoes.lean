import Gatehouse.Proofs.Firewall.Nftables.Failures
/-!
# Rules and their handles in an output

An output has an entry for each of some rules, in their order, and between these entries whatever is
no rule of the managed table.  The expressions of a rule are printed in one of several spellings, or
not printed, or printed as something that amounts to no rule; then the rule goes by its place among
the rules that were asked for.  If all entries have their handles, each rule is reported with its
own.

An entry without a handle is passed over and does not take a place.  So the entries behind it that
go by their places are given the names of others, and with them the handles.
-/

namespace Gatehouse.Firewall.Nftables

open Json

/-! ## Rows -/

/-- What an output has about a rule: a handle, if it has one, and expressions, if it prints any. -/
structure Row where
  rule : Rule
  handle : Option Nat
  expressions : Option Json

namespace Row

variable {row : Row}

/-- The rule that the expressions amount to. -/
def decoded? (row : Row) : Option Rule := row.expressions.bind ruleOfExpressions?

/-- The rule with its handle. -/
def pair? (row : Row) : Option (Rule × Nat) := row.handle.map fun handle => (row.rule, handle)

/-- What is made out of the row. -/
def report? (row : Row) : Option ReportedRule := row.handle.map fun handle => ⟨handle, row.decoded?⟩

/-- The expressions are one of the spellings of the rule. -/
def Spelled (row : Row) : Prop :=
  ∃ items, row.expressions = some (.array items) ∧ Spells row.rule items

/-- The expressions are a spelling of the rule, or they are missing, or amount to no rule. -/
def Printed (row : Row) : Prop := row.Spelled ∨ row.decoded? = none

theorem decoded?_of_missing (missing : row.expressions = none) : row.decoded? = none := by
  rw [decoded?, missing]
  rfl

theorem decoded?_of_spelled (spelled : row.Spelled) :
    row.decoded? = if row.rule.port = 0 then none else some row.rule := by
  obtain ⟨items, isArray, spells⟩ := spelled
  rw [decoded?, isArray, Option.bind_some, spells.ruleOfExpressions?]

/-- Expressions amount to no rule, or to the right one. -/
theorem Printed.decoded? (printed : row.Printed) {rule : Rule}
    (decoded : row.decoded? = some rule) : rule = row.rule := by
  rcases printed with spelled | unread
  · rw [decoded?_of_spelled spelled] at decoded
    split at decoded
    · cases decoded
    · exact (Option.some.inj decoded).symm
  · rw [unread] at decoded
    cases decoded

/-- The expressions of a rule that may take effect amount to it exactly if they are spelled. -/
theorem Printed.isSome_decoded?_iff (printed : row.Printed) (valid : row.rule.port ≠ 0) :
    row.decoded?.isSome = true ↔ row.Spelled := by
  constructor
  · intro decoded
    refine printed.resolve_right fun unread => ?_
    rw [unread] at decoded
    cases decoded
  · intro spelled
    rw [decoded?_of_spelled spelled, if_neg valid]
    rfl

end Row

/-! ## Outputs -/

/-- The entry adds or lists a rule, of which the document is what it says. -/
def Carries (entry document : Json) : Prop :=
  (entry.member? "add").bind (member? "rule") = some document ∨
    (entry.member? "add").bind (member? "rule") = none ∧ entry.member? "rule" = some document

/-- The document says that the rule is in the managed table, and has the handle and the expressions
of the row, whatever else it says. -/
structure Row.Describes (row : Row) (document : Json) : Prop where
  table : document.member? "table" = some (.string tableName)
  handle : (document.member? "handle").bind nat? = row.handle
  expressions : document.member? "expr" = row.expressions

/-- The entry is of another kind, or the rule that it adds or lists is in another table. -/
def Foreign (entry : Json) : Prop :=
  ∀ document, Carries entry document → document.member? "table" ≠ some (.string tableName)

/-- The entries show the rows in their order, with foreign entries anywhere between them. -/
inductive Interleaves : List Row → List Json → Prop where
  | nil : Interleaves [] []
  | foreign {rows : List Row} {entry : Json} {entries : List Json} (foreign : Foreign entry)
      (rest : Interleaves rows entries) : Interleaves rows (entry :: entries)
  | row {row : Row} {rows : List Row} {entry document : Json} {entries : List Json}
      (carries : Carries entry document) (describes : row.Describes document)
      (rest : Interleaves rows entries) : Interleaves (row :: rows) (entry :: entries)

theorem member?_batch (entries : List Json) :
    (batch entries).member? "nftables" = some (.array entries) := rfl

theorem entryRule?_eq_some_iff {entry document : Json} :
    entryRule? entry = some document ↔ Carries entry document := by
  rw [entryRule?, Carries]
  cases (entry.member? "add").bind (member? "rule") <;> simp

theorem Row.Describes.reportedRule? {row : Row} {entry document : Json}
    (describes : row.Describes document) (carries : Carries entry document) :
    reportedRule? entry = row.report? := by
  simp only [Nftables.reportedRule?, entryRule?_eq_some_iff.2 carries, describes.table,
    describes.handle, describes.expressions, Option.bind_eq_bind, Option.bind_some, text?, if_true,
    Row.report?, Row.decoded?]
  cases row.handle <;> rfl

theorem Foreign.reportedRule? {entry : Json} (foreign : Foreign entry) :
    reportedRule? entry = none := by
  cases found : entryRule? entry with
  | none => simp only [Nftables.reportedRule?, found, Option.bind_eq_bind, Option.bind_none]
  | some document =>
      have elsewhere := foreign document (entryRule?_eq_some_iff.1 found)
      simp only [Nftables.reportedRule?, found, Option.bind_eq_bind, Option.bind_some]
      cases named : document.member? "table" with
      | none => rfl
      | some name =>
          cases name with
          | string name =>
              have other : name ≠ tableName := by
                rintro rfl
                exact elsewhere named
              simp only [Option.bind_some, text?, if_neg other]
          | _ => rfl

/-- What is made out of an output are its rows. -/
theorem Interleaves.reports {rows : List Row} {entries : List Json}
    (interleaved : Interleaves rows entries) :
    entries.filterMap reportedRule? = rows.filterMap Row.report? := by
  induction interleaved with
  | nil => rfl
  | foreign foreign _ ih => rw [List.filterMap_cons, foreign.reportedRule?, ih]
  | row carries describes _ ih =>
      rw [List.filterMap_cons, describes.reportedRule? carries, List.filterMap_cons, ih]

section

variable {rows : List Row} {entries : List Json} {output : Json}

theorem Interleaves.reportedHandles (interleaved : Interleaves rows entries)
    (isOutput : output.member? "nftables" = some (.array entries)) (requested : List Rule) :
    reportedHandles output requested = assign (rows.filterMap Row.report?) requested := by
  simp only [Nftables.reportedHandles, isOutput, Option.bind_some, items?, interleaved.reports]

/-! ## Names by place -/

/-- A row that goes by its place has no row without a handle before it. -/
def Aligned (rows : List Row) : Prop :=
  rows.Pairwise fun first second => first.handle = none →
    second.handle = none ∨ second.decoded?.isSome = true

theorem aligned_of_complete (complete : ∀ row ∈ rows, row.handle ≠ none) : Aligned rows :=
  List.Pairwise.imp_of_mem (fun isMember _ _ lacks => absurd lacks (complete _ isMember))
    (List.pairwise_of_forall fun _ _ => trivial)

/-- Without places to go by, the rules are those that the expressions amount to. -/
theorem assign_of_decoded (printed : ∀ row ∈ rows, row.Printed) {requested : List Rule}
    (named : requested = [] ∨
      ∀ row ∈ rows, row.handle = none ∨ row.decoded?.isSome = true) :
    assign (rows.filterMap Row.report?) requested =
      (rows.filter fun row => row.decoded?.isSome).filterMap Row.pair? := by
  rw [assign_of_named]
  · rw [List.filterMap_filterMap, List.filterMap_filter]
    refine List.filterMap_congr fun row isMember => ?_
    cases decoded : row.decoded? with
    | none => cases handle : row.handle <;> simp [Row.report?, handle, decoded]
    | some rule =>
        obtain rfl := (printed row isMember).decoded? decoded
        cases handle : row.handle <;> simp [Row.report?, Row.pair?, handle, decoded]
  · refine named.imp id fun named report isReport => ?_
    obtain ⟨row, isMember, found⟩ := List.mem_filterMap.1 isReport
    obtain ⟨handle, isHandle, rfl⟩ := Option.map_eq_some_iff.1 found
    refine (named row isMember).resolve_left fun lacks => ?_
    rw [isHandle] at lacks
    cases lacks

/-- Where rows are aligned each rule is given its own handle. -/
theorem assign_of_aligned (printed : ∀ row ∈ rows, row.Printed) (aligned : Aligned rows) :
    assign (rows.filterMap Row.report?) (rows.map Row.rule) = rows.filterMap Row.pair? := by
  induction rows with
  | nil => rfl
  | cons row rest ih =>
      obtain ⟨behind, alignedRest⟩ := List.pairwise_cons.1 aligned
      have printedRest := fun other isMember => printed other (List.mem_cons_of_mem _ isMember)
      cases handle : row.handle with
      | some number =>
          have named : row.decoded?.or (some row.rule) = some row.rule := by
            cases decoded : row.decoded? with
            | none => rfl
            | some rule => rw [(printed row List.mem_cons_self).decoded? decoded, Option.some_or]
          have isReport : row.report? = some ⟨number, row.decoded?⟩ := by
            rw [Row.report?, handle, Option.map_some]
          have isPair : row.pair? = some (row.rule, number) := by
            rw [Row.pair?, handle, Option.map_some]
          rw [List.filterMap_cons_some isReport, List.filterMap_cons_some isPair, List.map_cons,
            assign, List.head?_cons, named, List.tail_cons, ih printedRest alignedRest]
      | none =>
          -- From here on places are wrong, and no row goes by its place.
          have isReport : row.report? = none := by rw [Row.report?, handle, Option.map_none]
          have isPair : row.pair? = none := by rw [Row.pair?, handle, Option.map_none]
          have named := fun other isMember => behind other isMember handle
          rw [List.filterMap_cons_none isReport, List.filterMap_cons_none isPair,
            assign_of_decoded printedRest (.inr named), List.filterMap_filter]
          refine List.filterMap_congr fun other isMember => ?_
          rcases named other isMember with lacks | decoded
          · simp [Row.pair?, lacks]
          · rw [if_pos decoded]

/-! ## Outputs in which all rows have handles -/

theorem filterMap_pair?_filter {handles : List Nat} (isKept : Row → Bool)
    (numbered : rows.map Row.handle = handles.map some) :
    (rows.filter isKept).filterMap Row.pair? =
      ((rows.zip handles).filter fun place => isKept place.1).map (Prod.map Row.rule id) := by
  induction rows generalizing handles with
  | nil => rfl
  | cons row rest ih =>
      cases handles with
      | nil => cases numbered
      | cons handle others =>
          obtain ⟨first, numberedRest⟩ := List.cons.inj numbered
          have isPair : row.pair? = some (row.rule, handle) := by
            rw [Row.pair?, first, Option.map_some]
          rw [List.zip_cons_cons, List.filter_cons, List.filter_cons]
          cases isKept row with
          | false => exact ih numberedRest
          | true =>
              rw [if_pos rfl, if_pos rfl, List.filterMap_cons_some isPair, ih numberedRest]
              rfl

theorem filterMap_pair?_eq_zip {handles : List Nat}
    (numbered : rows.map Row.handle = handles.map some) :
    rows.filterMap Row.pair? = (rows.map Row.rule).zip handles := by
  have all := filterMap_pair?_filter (fun _ => true) numbered
  rw [List.filter_eq_self.2 fun _ _ => rfl, List.filter_eq_self.2 fun _ _ => rfl] at all
  rw [all, List.zip_map_left]

/-- An output in which all rows have handles shows each rule that was asked for with its own.  As a
listing it shows the rules whose expressions amount to one, which are those that are spelled. -/
theorem handles_are_read_back {handles : List Nat} (valid : ∀ row ∈ rows, row.rule.port ≠ 0)
    (printed : ∀ row ∈ rows, row.Printed) (numbered : rows.map Row.handle = handles.map some)
    (interleaved : Interleaves rows entries)
    (isOutput : output.member? "nftables" = some (.array entries)) :
    reportedHandles output (rows.map Row.rule) = (rows.map Row.rule).zip handles ∧
      reportedHandles output [] = ((rows.zip handles).filter fun place =>
        place.1.decoded?.isSome).map (Prod.map Row.rule id) ∧
      ∀ row ∈ rows, row.decoded?.isSome = true ↔ row.Spelled := by
  have complete : ∀ row ∈ rows, row.handle ≠ none := by
    intro row isMember lacks
    obtain ⟨handle, _, isHandle⟩ := List.mem_map.1 (numbered ▸ List.mem_map_of_mem isMember)
    rw [lacks] at isHandle
    cases isHandle
  refine ⟨?_, ?_, fun row isMember => (printed row isMember).isSome_decoded?_iff
    (valid row isMember)⟩
  · rw [interleaved.reportedHandles isOutput, assign_of_aligned printed
      (aligned_of_complete complete), filterMap_pair?_eq_zip numbered]
  · rw [interleaved.reportedHandles isOutput, assign_of_decoded printed (.inl rfl),
      filterMap_pair?_filter _ numbered]

/-! ## Outputs in which handles are missing -/

theorem mem_assign_cons {report : ReportedRule} {reports : List ReportedRule}
    {requested : List Rule} {pair : Rule × Nat} (isMember : pair ∈ assign reports requested.tail) :
    pair ∈ assign (report :: reports) requested := by
  rw [assign]
  split
  · exact List.mem_cons_of_mem _ isMember
  · exact isMember

/-- A row that goes by its place, with a row without a handle before it, is given the name of one of
the rows before it.  In `late` are the names that are left over from earlier rows. -/
theorem exists_misnamed {before after : List Row} {row : Row} {handle : Nat} {late : List Rule}
    (numbered : row.handle = some handle) (unread : row.decoded? = none)
    (lags : late ≠ [] ∨ ∃ other ∈ before, other.handle = none) :
    ∃ rule ∈ late ++ before.map Row.rule,
      (rule, handle) ∈ assign ((before ++ row :: after).filterMap Row.report?)
        (late ++ (before ++ row :: after).map Row.rule) := by
  induction before generalizing late with
  | nil =>
      cases late with
      | nil =>
          rcases lags with nonempty | ⟨_, isMember, _⟩
          · exact absurd rfl nonempty
          · cases isMember
      | cons name more =>
          have isReport : row.report? = some ⟨handle, none⟩ := by
            rw [Row.report?, numbered, unread, Option.map_some]
          refine ⟨name, List.mem_append_left _ List.mem_cons_self, ?_⟩
          rw [List.nil_append, List.filterMap_cons_some isReport, List.cons_append, assign]
          exact List.mem_cons_self
  | cons first rest ih =>
      have names (rows : List Row) : late ++ (first :: rows).map Row.rule =
          late ++ [first.rule] ++ rows.map Row.rule := by
        rw [List.map_cons, List.append_assoc, List.singleton_append]
      rw [List.cons_append, names, names]
      cases isHandle : first.handle with
      | none =>
          -- The name is not taken, so it is left over.
          have isReport : first.report? = none := by rw [Row.report?, isHandle, Option.map_none]
          rw [List.filterMap_cons_none isReport]
          exact ih (.inl (by simp))
      | some number =>
          have isReport : first.report? = some ⟨number, first.decoded?⟩ := by
            rw [Row.report?, isHandle, Option.map_some]
          have lagsRest : (late ++ [first.rule]).tail ≠ [] ∨
              ∃ other ∈ rest, other.handle = none := by
            rcases lags with nonempty | ⟨other, isMember, lacks⟩
            · obtain ⟨name, more, rfl⟩ := List.exists_cons_of_ne_nil nonempty
              exact .inl (by simp)
            · rcases List.mem_cons.1 isMember with rfl | isMember
              · cases lacks.symm.trans isHandle
              · exact .inr ⟨other, isMember, lacks⟩
          obtain ⟨rule, isName, reported⟩ := ih lagsRest
          rw [← List.tail_append_of_ne_nil (by simp)] at reported
          rw [List.filterMap_cons_some isReport]
          exact ⟨rule, ((List.tail_sublist _).append_right _).subset isName,
            mem_assign_cons reported⟩

theorem exists_of_not_aligned (misaligned : ¬ Aligned rows) :
    ∃ before row after, rows = before ++ row :: after ∧
      (∃ other ∈ before, other.handle = none) ∧ row.handle ≠ none ∧ row.decoded? = none := by
  induction rows with
  | nil => exact absurd .nil misaligned
  | cons first rest ih =>
      by_cases alignedRest : Aligned rest
      · have some : ¬ ∀ second ∈ rest, first.handle = none →
            second.handle = none ∨ second.decoded?.isSome = true :=
          fun behind => misaligned (List.pairwise_cons.2 ⟨behind, alignedRest⟩)
        push Not at some
        obtain ⟨second, isMember, lacks, numbered, unread⟩ := some
        obtain ⟨before, after, rfl⟩ := List.append_of_mem isMember
        exact ⟨first :: before, second, after, rfl, ⟨first, List.mem_cons_self, lacks⟩, numbered,
          by simpa using unread⟩
      · obtain ⟨before, row, after, rfl, ⟨other, isMember, lacks⟩, goesByPlace⟩ := ih alignedRest
        exact ⟨first :: before, row, after, rfl,
          ⟨other, List.mem_cons_of_mem _ isMember, lacks⟩, goesByPlace⟩

/-- Where rows are not aligned some handle is given to another rule. -/
theorem exists_not_pair (onceRule : (rows.map Row.rule).Nodup)
    (onceHandle : (rows.filterMap Row.handle).Nodup) (misaligned : ¬ Aligned rows) :
    ∃ pair ∈ assign (rows.filterMap Row.report?) (rows.map Row.rule),
      pair ∉ rows.filterMap Row.pair? := by
  obtain ⟨before, row, after, rfl, lags, numbered, unread⟩ := exists_of_not_aligned misaligned
  obtain ⟨handle, numbered⟩ := Option.ne_none_iff_exists'.1 numbered
  obtain ⟨rule, isName, reported⟩ :=
    @exists_misnamed before after row handle [] numbered unread (.inr lags)
  refine ⟨(rule, handle), reported, fun isPair => ?_⟩
  obtain ⟨owner, isMember, isPair⟩ := List.mem_filterMap.1 isPair
  obtain ⟨_, isHandle, same⟩ := Option.map_eq_some_iff.1 isPair
  cases same
  -- The row of this rule is before the one of this handle, and they cannot be the same.
  rw [List.map_append] at onceRule
  rw [List.filterMap_append] at onceHandle
  rcases List.mem_append.1 isMember with isBefore | isBehind
  · exact (List.nodup_append.1 onceHandle).2.2 handle
      (List.mem_filterMap.2 ⟨_, isBefore, isHandle⟩) handle
      (List.mem_filterMap.2 ⟨_, List.mem_cons_self, numbered⟩) rfl
  · exact (List.nodup_append.1 onceRule).2.2 _ isName _ (List.mem_map_of_mem isBehind) rfl

/-- Where rows are aligned each handle that is reported is that of its rule, and none is left out.
Where they are not, and the rules and the handles are all different, some handle is given to another
rule. -/
theorem handles_are_attributed (printed : ∀ row ∈ rows, row.Printed)
    (interleaved : Interleaves rows entries)
    (isOutput : output.member? "nftables" = some (.array entries)) :
    (Aligned rows →
      reportedHandles output (rows.map Row.rule) = rows.filterMap Row.pair?) ∧
    ((rows.map Row.rule).Nodup → (rows.filterMap Row.handle).Nodup → ¬ Aligned rows →
      ∃ pair ∈ reportedHandles output (rows.map Row.rule), pair ∉ rows.filterMap Row.pair?) := by
  rw [interleaved.reportedHandles isOutput]
  exact ⟨assign_of_aligned printed, exists_not_pair⟩

end

/-! ### Outputs about two rules -/

/-- A rule of the managed table, of which an output says this and some more. -/
def managed (more : List (String × Json)) : Json :=
  member "rule" (.object (("chain", .string chainName) :: ("family", .string tableFamily) ::
    ("table", .string tableName) :: more))

/-- A rule of another table. -/
def elsewhere : Json :=
  member "rule" (.object [("family", .string tableFamily), ("handle", .nat 9),
    ("table", .string "other")])

/-- The rule for the web server with the protocol by its number and the port by its name. -/
def spelledWeb : List Json := [
  matching protocolField (.nat 6),
  matching (member "payload" (.object [("field", .string "dport"), ("protocol", .string "tcp")]))
    (.nat 80),
  member "accept" .null]

/-- A listed rule that is spelled and an added one without expressions. -/
def mixedRows : List Row := [⟨web, some 4, some (.array spelledWeb)⟩, ⟨names, some 7, none⟩]

/-- An output with these rows, a header, and a rule of another table. -/
def mixed : List Json := [
  Ruleset.metainfo, managed [("handle", .nat 4), ("expr", .array spelledWeb)], elsewhere,
  member "add" (managed [("handle", .nat 7)])]

theorem foreign_metainfo : Foreign Ruleset.metainfo := by
  rintro document (added | ⟨-, listed⟩)
  · cases added
  · cases listed

theorem foreign_elsewhere : Foreign elsewhere := by
  rintro document (added | ⟨-, listed⟩)
  · cases added
  · cases listed
    simp [member?, tableName]

theorem spells_spelledWeb : Spells web spelledWeb := .intro .number (.name rfl)

theorem interleaves_mixed : Interleaves mixedRows mixed :=
  .foreign foreign_metainfo (.row (.inr ⟨rfl, rfl⟩) ⟨rfl, rfl, rfl⟩ (.foreign foreign_elsewhere
    (.row (.inl rfl) ⟨rfl, rfl, rfl⟩ .nil)))

theorem handles_are_read_back_mixed :
    (∀ row ∈ mixedRows, row.rule.port ≠ 0) ∧ (∀ row ∈ mixedRows, row.Printed) ∧
      Interleaves mixedRows mixed ∧
      reportedHandles (batch mixed) [web, names] = [(web, 4), (names, 7)] ∧
      reportedHandles (batch mixed) [] = [(web, 4)] := by
  have valid : ∀ row ∈ mixedRows, row.rule.port ≠ 0 := by
    rintro row (_ | ⟨_, _ | ⟨_, ⟨⟩⟩⟩) <;> decide
  have printed : ∀ row ∈ mixedRows, row.Printed := by
    rintro row (_ | ⟨_, _ | ⟨_, ⟨⟩⟩⟩)
    · exact .inl ⟨spelledWeb, rfl, spells_spelledWeb⟩
    · exact .inr rfl
  have numbered : mixedRows.map Row.handle = [4, 7].map some := rfl
  obtain ⟨asked, listed, _⟩ :=
    handles_are_read_back valid printed numbered interleaves_mixed (member?_batch mixed)
  refine ⟨valid, printed, interleaves_mixed, asked, listed.trans ?_⟩
  have decoded : Row.decoded? ⟨web, some 4, some (.array spelledWeb)⟩ = some web :=
    Row.decoded?_of_spelled ⟨spelledWeb, rfl, spells_spelledWeb⟩
  simp only [mixedRows, List.zip_cons_cons, List.zip_nil_right, List.filter_cons, decoded,
    Row.decoded?_of_missing, Option.isSome_some, Option.isSome_none, if_true, List.filter_nil,
    Bool.false_eq_true, if_false, List.map_cons, List.map_nil, Prod.map, id]

/-- Two added rules without expressions, with these handles. -/
def addedRows (first second : Option Nat) : List Row := [⟨web, first, none⟩, ⟨names, second, none⟩]

/-- The echo in which only the rule for the web server has its handle. -/
def webEcho : List Json := [
  member "add" (managed [("handle", .nat 4)]), member "add" (managed [])]

theorem handles_are_attributed_web :
    (∀ row ∈ addedRows (some 4) none, row.Printed) ∧
      Interleaves (addedRows (some 4) none) webEcho ∧ Aligned (addedRows (some 4) none) ∧
      reportedHandles (batch webEcho) [web, names] = [(web, 4)] := by
  have printed : ∀ row ∈ addedRows (some 4) none, row.Printed := by
    rintro row (_ | ⟨_, _ | ⟨_, ⟨⟩⟩⟩) <;> exact .inr rfl
  have interleaved : Interleaves (addedRows (some 4) none) webEcho :=
    .row (.inl rfl) ⟨rfl, rfl, rfl⟩ (.row (.inl rfl) ⟨rfl, rfl, rfl⟩ .nil)
  have aligned : Aligned (addedRows (some 4) none) := List.pairwise_pair.2 nofun
  exact ⟨printed, interleaved, aligned,
    (handles_are_attributed printed interleaved (member?_batch webEcho)).1 aligned⟩

/-- The echo in which only the rule for the name server has its handle. -/
def shiftedEcho : List Json := [
  member "add" (managed []), member "add" (managed [("handle", .nat 12)])]

/-- The handle of the second rule is given to the first, whose entry has none.  So revoking the
first rule deletes the second. -/
theorem handle_is_given_to_another :
    (∀ row ∈ addedRows none (some 12), row.Printed) ∧
      Interleaves (addedRows none (some 12)) shiftedEcho ∧
      reportedHandles (batch shiftedEcho) [web, names] = [(web, 12)] ∧
      (web, 12) ∉ (addedRows none (some 12)).filterMap Row.pair? ∧
      (Rehearsal.play ((opened.settle [web, names] (batch shiftedEcho)).1.revoke web) []).2 =
        [batchCommand (revokeBatch 12) false] := by
  have printed : ∀ row ∈ addedRows none (some 12), row.Printed := by
    rintro row (_ | ⟨_, _ | ⟨_, ⟨⟩⟩⟩) <;> exact .inr rfl
  have interleaved : Interleaves (addedRows none (some 12)) shiftedEcho :=
    .row (.inl rfl) ⟨rfl, rfl, rfl⟩ (.row (.inl rfl) ⟨rfl, rfl, rfl⟩ .nil)
  have reported : reportedHandles (batch shiftedEcho) [web, names] = [(web, 12)] := rfl
  refine ⟨printed, interleaved, reported, by decide, ?_⟩
  rw [settle_fst, reported]
  rfl

end Gatehouse.Firewall.Nftables
