import Gatehouse.Proofs.Audit
/-!
# Damaged logs

Lines of a log that are no events are passed over when it is read; a line that a crash has cut short
is one.  But they are passed over only after the last lines have been counted out, so that each of
those that is no event takes the place of one.  Who reads as many lines more as there may be such
ones misses nothing.
-/

namespace Gatehouse.Audit

/-- The events of a log, newest first. -/
def latest (log : String) : List Event := (Text.lines log).reverse.filterMap Event.ofLine?

/-- The events of a log without its last `count` lines, newest first. -/
def older (count : Nat) (log : String) : List Event :=
  ((Text.lines log).reverse.drop count).filterMap Event.ofLine?

/-- How many of the last `count` lines of a log are no events. -/
def damaged (count : Nat) (log : String) : Nat :=
  ((Text.lines log).reverse.take count).countP fun line => (Event.ofLine? line).isNone

section

variable {count : Nat} {log : String}

/-- The events of a log are those among its last lines, and before them the others. -/
theorem recent_append_older (count : Nat) (log : String) :
    recent count log ++ older count log = latest log := by
  rw [recent, older, latest, ← List.filterMap_append, List.take_append_drop]

/-- A line is an event or it is damaged. -/
theorem length_recent_add_damaged (count : Nat) (log : String) :
    (recent count log).length + damaged count log = min count (Text.lines log).length := by
  have parts := List.length_eq_countP_add_countP (fun line => (Event.ofLine? line).isSome)
    (l := (Text.lines log).reverse.take count)
  simp only [List.length_take, List.length_reverse, Bool.not_eq_true, Option.isSome_eq_false_iff,
    Bool.decide_eq_true] at parts
  rw [recent, List.length_filterMap_eq_countP, damaged, parts]

/-- There is nothing before all lines. -/
theorem older_of_length_le (all : (Text.lines log).length ≤ count) : older count log = [] := by
  have isEmpty : (Text.lines log).reverse.drop count = [] :=
    List.drop_of_length_le (List.length_reverse.trans_le all)
  rw [older, isEmpty]
  rfl

/-- Each damaged line among the last ones makes for one event less. -/
theorem recent_eq_take (count : Nat) (log : String) :
    recent count log = (latest log).take (count - damaged count log) := by
  have whole := length_recent_add_damaged count log
  rw [← recent_append_older count log]
  rcases Nat.le_total count (Text.lines log).length with some | all
  · have length : count - damaged count log = (recent count log).length := by omega
    rw [length, List.take_left]
  · -- With more lines asked for than there are, the difference need not be the number of events.
    rw [older_of_length_le all, List.append_nil, List.take_of_length_le (by omega)]

/-- The latest events are all there just when none of the last lines is damaged or all lines before
them are. -/
theorem recent_eq_take_iff :
    recent count log = (latest log).take count ↔
      damaged count log = 0 ∨ older count log = [] := by
  have whole := length_recent_add_damaged count log
  constructor
  · intro complete
    have lengths := congrArg List.length complete
    rw [← recent_append_older count log, List.length_take, List.length_append] at lengths
    rw [← List.length_eq_zero_iff]
    omega
  · rintro (intact | nothing)
    · rw [recent_eq_take, intact, Nat.sub_zero]
    · rw [← recent_append_older count log, nothing, List.append_nil,
        List.take_of_length_le (by omega)]

/-- The latest events are all there once as many lines more are read as are damaged. -/
theorem take_recent_add {spare : Nat} (enough : damaged (count + spare) log ≤ spare) :
    (recent (count + spare) log).take count = (latest log).take count := by
  rw [recent_eq_take, List.take_take, Nat.min_eq_left (by omega)]

end

section

variable {tree : FileTree} {path : String} {content : Bytes}

/-- A log is read as text or not at all. -/
theorem run_readRecent_of_read (read : tree.read path = .ok content) (count : Nat) :
    (readRecent path count).run FileTree.answer tree =
      ((Utf8.text? content).elim (.error (.denied "stream did not contain valid UTF-8"))
        fun log => .ok (recent count log), tree) := by
  have answered : FileTree.answer tree (.read path) = (.ok content, tree) := by
    rw [FileTree.answer, read]
  rw [readRecent, Dialogue.run, answered]
  cases isText : Utf8.text? content with
  | none => simp only [isText, Dialogue.run_done, Option.elim]
  | some log => simp only [isText, Dialogue.run_done, Option.elim]

/-- Whatever a log holds: it is read as text or not at all, and of its latest events there are as
many fewer as there are damaged lines among the last ones.  So they are all there just when there is
no such line or no event before these lines.  They are among the events that are read with some lines to
spare, if no more of all these lines than that are damaged. -/
theorem damaged_lines_take_the_place_of_events (read : tree.read path = .ok content)
    (count : Nat) :
    (Utf8.text? content = none → (readRecent path count).run FileTree.answer tree =
      (.error (.denied "stream did not contain valid UTF-8"), tree)) ∧
    ∀ log, Utf8.text? content = some log →
      ∃ events, (readRecent path count).run FileTree.answer tree = (.ok events, tree) ∧
        events = (latest log).take (count - damaged count log) ∧
        (events = (latest log).take count ↔ damaged count log = 0 ∨ older count log = []) ∧
        ∀ spare, damaged (count + spare) log ≤ spare →
          ∃ more, (readRecent path (count + spare)).run FileTree.answer tree = (.ok more, tree) ∧
            more.take count = (latest log).take count := by
  constructor
  · intro noText
    rw [run_readRecent_of_read read, noText]
    rfl
  · intro log isText
    have isRead (count : Nat) : (readRecent path count).run FileTree.answer tree =
        (.ok (recent count log), tree) := by
      rw [run_readRecent_of_read read, isText]
      rfl
    refine ⟨_, isRead count, recent_eq_take count log, recent_eq_take_iff, ?_⟩
    intro spare enough
    exact ⟨_, isRead (count + spare), take_recent_add enough⟩

end

/-! ### A line that has been cut short -/

namespace CutShort

/-- A sign-in. -/
def signIn : Entry := .access .epoch .login "ada" .unspecified

/-- The line of the sign-in and one that a crash has cut short. -/
def log : String := signIn.event.line ++ "\x7b\"timestamp\":"

theorem lines_log : Text.lines log = [signIn.event.document.compact, "\x7b\"timestamp\":"] := by
  have last : Text.lines "\x7b\"timestamp\":" = ["\x7b\"timestamp\":"] := by decide
  rw [log, Event.line, Text.lines_append, last,
    Text.lines_feed signIn.event.newline_notMem_compact signIn.event.getLast?_compact_ne]
  rfl

theorem ofLine?_cut : Event.ofLine? "\x7b\"timestamp\":" = none := by
  have isNone : (Event.ofLine? "\x7b\"timestamp\":").isNone = true := by decide +kernel
  exact Option.isNone_iff_eq_none.1 isNone

theorem ofLine?_signIn : Event.ofLine? signIn.event.document.compact = some signIn.event :=
  Event.ofLine?_compact signIn.exact_details

theorem latest_log : latest log = [signIn.event] := by
  simp [latest, lines_log, ofLine?_cut, ofLine?_signIn]

theorem damaged_log : damaged 1 log = 1 := by
  simp [damaged, lines_log, ofLine?_cut]

/-- With the line that is cut short the log has one event, and among its last line there is none. -/
theorem damaged_lines_take_the_place_of_events_cut :
    ∃ tree : FileTree, tree.read "audit.log" = .ok (Utf8.encode log) ∧ latest log = [signIn.event] ∧
      (readRecent "audit.log" 1).run FileTree.answer tree = (.ok [], tree) := by
  obtain ⟨tree, _, read⟩ := holds_empty.append (Utf8.encode log)
  rw [List.nil_append] at read
  obtain ⟨events, isRead, isTake, _⟩ :=
    (damaged_lines_take_the_place_of_events read 1).2 log (Utf8.text?_encode log)
  rw [damaged_log] at isTake
  refine ⟨tree, read, latest_log, ?_⟩
  rw [isRead, isTake]
  rfl

/-- It is not so that the latest events are read from every log. -/
theorem latest_event_is_missed :
    ¬ ∀ (tree : FileTree) (path log : String) (count : Nat),
      tree.read path = .ok (Utf8.encode log) →
        (readRecent path count).run FileTree.answer tree =
          (.ok ((latest log).take count), tree) := by
  intro claimed
  obtain ⟨tree, _, read⟩ := holds_empty.append (Utf8.encode log)
  rw [List.nil_append] at read
  have missed := run_readRecent read 1
  rw [claimed tree "audit.log" log 1 read, recent_eq_take, damaged_log, latest_log] at missed
  cases missed

end CutShort

end Gatehouse.Audit
