import Gatehouse.Proofs.Interleaving.Run
/-!
# Runs as if one call came after another

A call that reads under the lock, writes once and gives the lock back seems to happen at one moment,
that of its write; a call that only looks happens when it looks.  So a run of such calls has the
results and the final store of the same calls one after another, in the order of these moments.  A
call that writes twice under the lock can be seen in between by those that only look, and by nobody
else: it pauses, and they come in.
-/

namespace Gatehouse.Interleaving

/-! ## One after another -/

section

variable {ι : Type} {α : ι → Type} {β : Type}

/-- Whether a visit begins with the lock. -/
def takesLock : Visit β → Bool
  | .ask .lock _ => true
  | _ => false

/-- The calls one after another, the latest first, with their results, and the store that they lead
to.  Some calls may pause: then calls without the lock come in, look at the store as it is, and are
listed after the call that has let them in. -/
inductive Serial (reply : Store → (question : StoreCall) → question.Answer → Store → Prop)
    (visit : (call : ι) → Visit (α call)) (pauses : ι → Prop) (first : Store) :
    List ((call : ι) × α call) → Store → Prop where
  | start : Serial reply visit pauses first [] first
  | next {order : List ((call : ι) × α call)} {before after : Store} {call : ι} {result : α call}
      (past : Serial reply visit pauses first order before)
      (ended : (visit call).Ends reply before result after) :
      Serial reply visit pauses first (⟨call, result⟩ :: order) after
  | around {order looks : List ((call : ι) × α call)} {before middle after : Store} {call : ι}
      {rest : Visit (α call)} {result : α call}
      (past : Serial reply visit pauses first order before) (pausing : pauses call)
      (begun : (visit call).Leads reply before rest middle)
      (looked : ∀ look ∈ looks, takesLock (visit look.1) = false ∧
        (visit look.1).Ends reply middle look.2 middle)
      (ended : rest.Ends reply middle result after) :
      Serial reply visit pauses first (looks ++ ⟨call, result⟩ :: order) after

/-- What each call keeps up, and calls that only look while another one pauses, holds after all of
them. -/
theorem Serial.induction {reply : Store → (question : StoreCall) → question.Answer → Store → Prop}
    {visit : (call : ι) → Visit (α call)} {pauses : ι → Prop} {first last : Store}
    {calls : List ((call : ι) × α call)} {motive : List ((call : ι) × α call) → Store → Prop}
    (serial : Serial reply visit pauses first calls last) (start : motive [] first)
    (next : ∀ {order before call result after}, motive order before →
      (visit call).Ends reply before result after → motive (⟨call, result⟩ :: order) after)
    (look : ∀ {order store call result middle}, motive order store →
      takesLock (visit call) = false → (visit call).Ends reply middle result middle →
      motive (⟨call, result⟩ :: order) store) :
    motive calls last := by
  induction serial with
  | start => exact start
  | next _ ended ih => exact next ih ended
  | @around order looks before middle after call rest result _ _ begun looked ended ih =>
      have entered := next ih (begun.ends ended)
      clear ended begun
      induction looks with
      | nil => exact entered
      | cons head tail ihLooks =>
          obtain ⟨free, ended⟩ := looked head List.mem_cons_self
          exact look (ihLooks fun other isMember => looked other (List.mem_cons_of_mem _ isMember))
            free ended

/-- A list of calls, the latest first, that puts no call before one that had ended when it began. -/
def InTime (events : List (Event ι)) (calls : List ι) : Prop :=
  ∀ earlier later, Precedes events earlier later →
    ∀ after before, calls = after ++ later :: before → earlier ∉ after

/-- A run has the results and the final store of its calls one after another. -/
structure InOrder (reply : Store → (question : StoreCall) → question.Answer → Store → Prop)
    (visit : (call : ι) → Visit (α call)) (pauses : ι → Prop) (first : Store)
    (events : List (Event ι)) (scene : Scene α) (order : List ((call : ι) × α call)) : Prop where
  serial : Serial reply visit pauses first order scene.store
  results : ∀ call result, ⟨call, result⟩ ∈ order ↔ scene.progress call = .ended result
  once : (order.map Sigma.fst).Nodup
  inTime : InTime events (order.map Sigma.fst)

/-! ## Orderly calls -/

/-- What is left of a visit under the lock, and the lock given back. -/
def release (visit : Visit β) : Visit β :=
  visit.bind fun result => .ask .unlock fun _ => .done result

/-- The visit reads, and its last question may be a write.  If it pauses, it may have written once
before. -/
inductive Brief : (pauses : Bool) → Visit β → Prop where
  | done {pauses : Bool} (result : β) : Brief pauses (.done result)
  | get {pauses : Bool} {key : String} {next : StoreCall.Answer (.get key) → Visit β}
      (rest : ∀ answer, Brief pauses (next answer)) : Brief pauses (.ask (.get key) next)
  | last {pauses : Bool} {question : StoreCall} {next : question.Answer → Visit β}
      (writes : question.writes = true) (ends : ∀ answer, ∃ result, next answer = .done result) :
      Brief pauses (.ask question next)
  | pause {question : StoreCall} {next : question.Answer → Visit β}
      (writes : question.writes = true) (rest : ∀ answer, Brief false (next answer)) :
      Brief true (.ask question next)

/-- The visit ends at once, or looks once, or keeps the lock from its first question to its last one
and is brief in between. -/
inductive Orderly (pauses : Prop) : Visit β → Prop where
  | refused (result : β) : Orderly pauses (.done result)
  | looks (key : String) (result : StoreCall.Answer (.get key) → β) :
      Orderly pauses (.ask (.get key) fun answer => .done (result answer))
  | locks {mayPause : Bool} {visit : Visit β} (brief : Brief mayPause visit)
      (pausing : mayPause = true → pauses) : Orderly pauses (.ask .lock fun _ => release visit)

/-- The result of a visit that asks for nothing more than to give back the lock. -/
def verdict? : Visit β → Option β
  | .done result => some result
  | .ask .unlock next =>
      match next () with
      | .done result => some result
      | .ask _ _ => none
  | .ask _ _ => none

/-- The result of a call that has been decided. -/
def Progress.decided? : Progress β → Option β
  | .waiting => none
  | .running rest => verdict? rest
  | .ended result => some result

theorem Orderly.refused_or_undecided {pauses : Prop} {visit : Visit β}
    (orderly : Orderly pauses visit) :
    (∃ result, visit = .done result) ∨ verdict? visit = none := by
  cases orderly with
  | refused result => exact .inl ⟨result, rfl⟩
  | looks key result => exact .inr rfl
  | locks brief pausing => exact .inr rfl

theorem Brief.wide {pauses : Bool} {visit : Visit β} (brief : Brief pauses visit) :
    Brief true visit := by
  induction brief with
  | done result => exact .done result
  | get _ ih => exact .get ih
  | last writes ends => exact .last writes ends
  | pause writes rest => exact .pause writes rest

theorem Brief.writes_or_gets {pauses : Bool} {question : StoreCall}
    {next : question.Answer → Visit β} (brief : Brief pauses (.ask question next)) :
    question.writes = true ∨ ∃ key, question = .get key := by
  cases brief with
  | get rest => exact .inr ⟨_, rfl⟩
  | last writes => exact .inl writes
  | pause writes => exact .inl writes

theorem Brief.asks {pauses : Bool} {visit : Visit β} (brief : Brief pauses visit) :
    visit.Asks fun question => question.plain = true := by
  have plain {question : StoreCall} (writes : question.writes = true) : question.plain = true := by
    cases question <;> first | rfl | cases writes
  induction brief with
  | done result => exact .done result
  | get _ ih => exact .ask rfl ih
  | last writes ends =>
      refine .ask (plain writes) fun answer => ?_
      obtain ⟨result, ended⟩ := ends answer
      rw [ended]
      exact .done result
  | pause writes _ ih => exact .ask (plain writes) ih

/-- A question to the store keeps the lock where it is. -/
theorem Brief.holderAfter {ι : Type} {call : ι} {holder : Option ι} {pauses : Bool}
    {question : StoreCall} {next : question.Answer → Visit β}
    (brief : Brief pauses (.ask question next)) (held : holder = some call) :
    question.holderAfter call holder = some call := by
  rcases brief.writes_or_gets with writes | ⟨key, rfl⟩
  · cases question <;> first | exact held | cases writes
  · exact held

theorem Brief.verdict?_release {pauses : Bool} {question : StoreCall}
    {next : question.Answer → Visit β} (brief : Brief pauses (.ask question next)) :
    verdict? (release (.ask question next)) = none := by
  rcases brief.writes_or_gets with writes | ⟨key, rfl⟩
  · cases question <;> first | rfl | cases writes
  · rfl

end

section

variable {ι : Type} {α : ι → Type}
  {reply : Store → (question : StoreCall) → question.Answer → Store → Prop}
  {visit : (call : ι) → Visit (α call)} {pauses : ι → Prop} {first : Store}
  {events : List (Event ι)} {calls : List ι}

/-! ## The order of calls in time -/

/-- A call that has not ended yet may be listed last. -/
theorem InTime.cons {call : ι} (inTime : InTime events calls) (underWay : .ends call ∉ events) :
    InTime events (call :: calls) := by
  rintro earlier later precedes (_ | ⟨head, after⟩) before split isLater
  · cases isLater
  · obtain ⟨rfl, rest⟩ := List.cons.inj split
    rcases List.mem_cons.1 isLater with rfl | isLater
    · obtain ⟨_, _, rfl, hasEnded⟩ := precedes
      exact underWay (List.mem_append.2 (.inr (List.mem_cons_of_mem _ hasEnded)))
    · exact inTime earlier later precedes after before rest isLater

/-- What happens next matters only when a call begins that is listed already. -/
theorem InTime.event {event : Event ι} (inTime : InTime events calls)
    (unlisted : ∀ call, event = .begins call → call ∉ calls) : InTime (event :: events) calls := by
  intro earlier later precedes after before split
  rcases precedes_cons.1 precedes with ⟨begins, _⟩ | precedes
  · refine absurd ?_ (unlisted later begins)
    rw [split]
    exact List.mem_append.2 (.inr List.mem_cons_self)
  · exact inTime earlier later precedes after before split

/-! ## What has been decided -/

/-- The entries are the calls that have been decided, with their results. -/
def Decides (entries : List ((call : ι) × α call)) (progress : (call : ι) → Progress (α call)) :
    Prop :=
  ∀ call result, ⟨call, result⟩ ∈ entries ↔ (progress call).decided? = some result

variable {entries more : List ((call : ι) × α call)} {progress : (call : ι) → Progress (α call)}

theorem Decides.not_mem {call : ι} (decides : Decides entries progress)
    (undecided : (progress call).decided? = none) : call ∉ entries.map Sigma.fst := by
  intro isMember
  obtain ⟨⟨_, result⟩, isEntry, rfl⟩ := List.mem_map.1 isMember
  rw [(decides _ result).1 isEntry] at undecided
  cases undecided

/-- A call that is under way without the lock has done nothing yet, or has nothing more to do. -/
def Outside (visit : (call : ι) → Visit (α call)) (holder : Option ι)
    (progress : (call : ι) → Progress (α call)) : Prop :=
  ∀ call rest, holder ≠ some call → progress call = .running rest →
    rest = visit call ∨ ∃ result, rest = .done result

/-- The calls that are said to have ended have done so. -/
def Closes (events : List (Event ι)) (progress : (call : ι) → Progress (α call)) : Prop :=
  ∀ call, .ends call ∈ events → ∃ result, progress call = .ended result

theorem Closes.underWay {call : ι} (closes : Closes events progress)
    (underWay : ∀ result, progress call ≠ .ended result) : .ends call ∉ events := by
  intro isMember
  obtain ⟨result, ended⟩ := closes call isMember
  exact underWay result ended

section

variable [DecidableEq ι]

theorem Outside.update {call : ι} {holder next : Option ι} {now : Progress (α call)}
    (outside : Outside visit holder progress)
    (free : ∀ other, other ≠ call → next ≠ some other → holder ≠ some other)
    (shape : next ≠ some call → ∀ rest, now = .running rest →
      rest = visit call ∨ ∃ result, rest = .done result) :
    Outside visit next (Function.update progress call now) := by
  intro other rest apart runs
  by_cases here : other = call
  · subst here
    rw [Function.update_self] at runs
    exact shape apart rest runs
  · rw [Function.update_of_ne here] at runs
    exact outside other rest (free other here apart) runs

/-- Calls that have ended stay so when another one comes further. -/
theorem Closes.update {call : ι} {now : Progress (α call)} {event : Event ι}
    (closes : Closes events progress) (underWay : ∀ result, progress call ≠ .ended result)
    (noEnd : ∀ other, event ≠ .ends other) :
    Closes (event :: events) (Function.update progress call now) := by
  intro other isMember
  have isEarlier := (List.mem_cons.1 isMember).resolve_left fun same => noEnd other same.symm
  have apart : other ≠ call := by
    rintro rfl
    exact closes.underWay underWay isEarlier
  rw [Function.update_of_ne apart]
  exact closes other isEarlier

theorem Closes.end {call : ι} {result : α call} (closes : Closes events progress) :
    Closes (.ends call :: events) (Function.update progress call (.ended result)) := by
  intro other isMember
  by_cases here : other = call
  · subst here
    exact ⟨result, Function.update_self ..⟩
  · rw [Function.update_of_ne here]
    refine closes other ((List.mem_cons.1 isMember).resolve_left fun same => ?_)
    exact here (Event.ends.inj same)

/-- A step that decides nothing. -/
theorem Decides.update {call : ι} {now : Progress (α call)} (decides : Decides entries progress)
    (same : now.decided? = (progress call).decided?) :
    Decides entries (Function.update progress call now) := by
  intro other result
  rw [decides other result]
  by_cases here : other = call
  · subst here
    rw [Function.update_self, same]
  · rw [Function.update_of_ne here]

/-- A step that decides a call. -/
theorem Decides.record {call : ι} {now : Progress (α call)} {result : α call}
    (decides : Decides entries progress) (undecided : (progress call).decided? = none)
    (decided : now.decided? = some result)
    (adds : ∀ entry, entry ∈ more ↔ entry = ⟨call, result⟩ ∨ entry ∈ entries) :
    Decides more (Function.update progress call now) := by
  intro other found
  rw [adds, decides other found]
  by_cases here : other = call
  · subst here
    rw [Function.update_self, undecided, decided]
    simp [eq_comm]
  · rw [Function.update_of_ne here]
    simp [here]

end

/-! ## The account of a run -/

/-- Where a call with the lock stands: it has been decided, or it has only read the store that is
there. -/
inductive Holding (reply : Store → (question : StoreCall) → question.Answer → Store → Prop)
    (visit : (call : ι) → Visit (α call)) (pauses : ι → Prop) (scene : Scene α) (call : ι) :
    Prop where
  | decided {result : α call} (runs : scene.progress call = .running (release (.done result)))
  | reading {mayPause : Bool} {question : StoreCall} {next : question.Answer → Visit (α call)}
      (runs : scene.progress call = .running (release (.ask question next)))
      (brief : Brief mayPause (.ask question next)) (pausing : mayPause = true → pauses call)
      (begun : (visit call).Leads reply scene.store (release (.ask question next)) scene.store)

/-- The calls that have been decided so far come one after another to the store that is there.  A
call that has written and is not decided has paused; it is listed without a result. -/
inductive Account (reply : Store → (question : StoreCall) → question.Answer → Store → Prop)
    (visit : (call : ι) → Visit (α call)) (pauses : ι → Prop) (first : Store) (scene : Scene α) :
    List ((call : ι) × α call) → List ι → Prop where
  | settled {order : List ((call : ι) × α call)}
      (serial : Serial reply visit pauses first order scene.store)
      (holding : ∀ call, scene.holder = some call → Holding reply visit pauses scene call) :
      Account reply visit pauses first scene order (order.map Sigma.fst)
  | paused {order looks : List ((call : ι) × α call)} {before : Store} {call : ι}
      {question : StoreCall} {next : question.Answer → Visit (α call)}
      (serial : Serial reply visit pauses first order before)
      (holder : scene.holder = some call)
      (runs : scene.progress call = .running (release (.ask question next)))
      (brief : Brief false (.ask question next)) (pausing : pauses call)
      (begun : (visit call).Leads reply before (release (.ask question next)) scene.store)
      (looked : ∀ look ∈ looks, takesLock (visit look.1) = false ∧
        (visit look.1).Ends reply scene.store look.2 scene.store) :
      Account reply visit pauses first scene (looks ++ order)
        (looks.map Sigma.fst ++ call :: order.map Sigma.fst)

variable {scene : Scene α} {names : List ι}

/-- Only the store and the call with the lock matter. -/
theorem Account.transfer {other : Scene α}
    (account : Account reply visit pauses first scene entries names)
    (store : other.store = scene.store) (holder : other.holder = scene.holder)
    (progress : ∀ call, scene.holder = some call → other.progress call = scene.progress call) :
    Account reply visit pauses first other entries names := by
  cases account with
  | settled serial holding =>
      refine .settled (store ▸ serial) fun call held => ?_
      rw [holder] at held
      cases holding call held with
      | decided runs => exact .decided ((progress call held).trans runs)
      | reading runs brief pausing begun =>
          exact .reading ((progress call held).trans runs) brief pausing (store ▸ begun)
  | paused serial held runs brief pausing begun looked =>
      exact .paused serial (holder.trans held) ((progress _ held).trans runs) brief pausing
        (store ▸ begun) (store ▸ looked)

/-- A call without the lock that finds the store as it is, and leaves it so, is listed last. -/
theorem Account.look {call : ι} {result : α call}
    (account : Account reply visit pauses first scene entries names)
    (free : takesLock (visit call) = false)
    (ended : (visit call).Ends reply scene.store result scene.store) :
    Account reply visit pauses first scene (⟨call, result⟩ :: entries) (call :: names) := by
  cases account with
  | settled serial holding => exact .settled (.next serial ended) holding
  | @paused order looks _ _ _ _ serial holder runs brief pausing begun looked =>
      change Account _ _ _ _ _ ((⟨call, result⟩ :: looks) ++ order)
        ((⟨call, result⟩ :: looks).map Sigma.fst ++ _ :: order.map Sigma.fst)
      refine .paused serial holder runs brief pausing begun fun look isMember => ?_
      rcases List.mem_cons.1 isMember with rfl | isMember
      · exact ⟨free, ended⟩
      · exact looked look isMember

/-- The call with the lock is under way. -/
theorem Account.runs_of_holder {call : ι}
    (account : Account reply visit pauses first scene entries names)
    (held : scene.holder = some call) :
    ∃ rest, scene.progress call = .running (release rest) := by
  cases account with
  | settled _ holding =>
      cases holding call held with
      | decided runs => exact ⟨_, runs⟩
      | reading runs => exact ⟨_, runs⟩
  | paused _ holder runs =>
      cases holder.symm.trans held
      exact ⟨_, runs⟩

/-- A call that is listed has been decided, or it has the lock. -/
theorem Account.not_mem {call : ι}
    (account : Account reply visit pauses first scene entries names)
    (decides : Decides entries scene.progress)
    (undecided : (scene.progress call).decided? = none) (apart : scene.holder ≠ some call) :
    call ∉ names := by
  cases account with
  | settled => exact decides.not_mem undecided
  | paused _ holder =>
      intro isMember
      have absent := decides.not_mem undecided
      rw [List.map_append, List.mem_append] at absent
      rcases List.mem_append.1 isMember with isLook | isMember
      · exact absent (.inl isLook)
      · rcases List.mem_cons.1 isMember with rfl | isMember
        · exact apart holder
        · exact absent (.inr isMember)

/-! ## Steps of the call with the lock -/

/-- Where the account stands after a step of one call: the call is listed if it was not, and it has
its result if it has been decided. -/
def Moves (reply : Store → (question : StoreCall) → question.Answer → Store → Prop)
    (visit : (call : ι) → Visit (α call)) (pauses : ι → Prop) (first : Store) (scene : Scene α)
    (call : ι) (rest : Visit (α call)) (entries : List ((call : ι) × α call)) (names : List ι) :
    Prop :=
  ∃ more listed, Account reply visit pauses first scene more listed ∧
    (listed = names ∨ listed = call :: names ∧ call ∉ names) ∧
    ((∃ result, verdict? rest = some result ∧
        ∀ entry, entry ∈ more ↔ entry = ⟨call, result⟩ ∨ entry ∈ entries) ∨
      verdict? rest = none ∧ more = entries)

variable {order looks : List ((call : ι) × α call)} {before middle : Store} {call : ι}
  {op : Visit (α call)}

/-- A call that has been decided ends when it gives back the lock. -/
theorem ends_release (sound : Store.Sound reply) (result : α call) (store : Store) :
    (release (.done result)).Ends reply store result store :=
  .ask (sound.unlocks store) (.done _ _)

/-- A call with the lock that has been decided. -/
theorem holding_of_decided {result : α call} (holder : scene.holder = some call)
    (runs : scene.progress call = .running (release (.done result))) :
    ∀ other, scene.holder = some other → Holding reply visit pauses scene other := by
  intro other isHolder
  cases isHolder.symm.trans holder
  exact .decided runs

/-- The call with the lock has asked its last question, and has not paused before. -/
theorem moves_of_done {result : α call} (sound : Store.Sound reply)
    (serial : Serial reply visit pauses first order before) (holder : scene.holder = some call)
    (runs : scene.progress call = .running (release (.done result)))
    (led : (visit call).Leads reply before (release (.done result)) scene.store)
    (unlisted : call ∉ order.map Sigma.fst) :
    Moves reply visit pauses first scene call (release (.done result)) order
      (order.map Sigma.fst) :=
  have ended := led.ends (ends_release sound _ _)
  ⟨⟨call, result⟩ :: order, call :: order.map Sigma.fst,
    .settled (.next serial ended) (holding_of_decided holder runs), .inr ⟨rfl, unlisted⟩,
    .inl ⟨result, rfl, fun _ => List.mem_cons⟩⟩

/-- The call with the lock has only read so far. -/
theorem moves_of_read {mayPause : Bool} (sound : Store.Sound reply)
    (serial : Serial reply visit pauses first order scene.store)
    (holder : scene.holder = some call) (runs : scene.progress call = .running (release op))
    (brief : Brief mayPause op) (pausing : mayPause = true → pauses call)
    (led : (visit call).Leads reply scene.store (release op) scene.store)
    (unlisted : call ∉ order.map Sigma.fst) :
    Moves reply visit pauses first scene call (release op) order (order.map Sigma.fst) := by
  cases op with
  | done result => exact moves_of_done sound serial holder runs led unlisted
  | ask question next =>
      refine ⟨order, _, .settled serial fun other isHolder => ?_, .inl rfl,
        .inr ⟨brief.verdict?_release, rfl⟩⟩
      cases isHolder.symm.trans holder
      exact .reading runs brief pausing led

/-- The call with the lock has written just now. -/
theorem moves_of_write (sound : Store.Sound reply)
    (serial : Serial reply visit pauses first order before)
    (holder : scene.holder = some call) (runs : scene.progress call = .running (release op))
    (brief : Brief false op) (pausing : (∀ result, op ≠ .done result) → pauses call)
    (led : (visit call).Leads reply before (release op) scene.store)
    (unlisted : call ∉ order.map Sigma.fst) :
    Moves reply visit pauses first scene call (release op) order (order.map Sigma.fst) := by
  cases op with
  | done result => exact moves_of_done sound serial holder runs led unlisted
  | ask question next =>
      exact ⟨[] ++ order, _, .paused serial holder runs brief (pausing nofun) led nofun,
        .inr ⟨rfl, unlisted⟩, .inr ⟨brief.verdict?_release, rfl⟩⟩

/-- The call with the lock goes on after it has paused. -/
theorem moves_of_paused {rest : Visit (α call)} (sound : Store.Sound reply)
    (serial : Serial reply visit pauses first order before) (pausing : pauses call)
    (begun : (visit call).Leads reply before rest middle)
    (looked : ∀ look ∈ looks, takesLock (visit look.1) = false ∧
      (visit look.1).Ends reply middle look.2 middle)
    (holder : scene.holder = some call) (runs : scene.progress call = .running (release op))
    (brief : Brief false op) (led : rest.Leads reply middle (release op) scene.store)
    (unwritten : (∀ result, op ≠ .done result) → scene.store = middle) :
    Moves reply visit pauses first scene call (release op) (looks ++ order)
      (looks.map Sigma.fst ++ call :: order.map Sigma.fst) := by
  cases op with
  | done result =>
      -- The result goes where the call has been listed, behind the calls that came in.
      have names : (looks ++ ⟨call, result⟩ :: order).map Sigma.fst =
          looks.map Sigma.fst ++ call :: order.map Sigma.fst := by
        rw [List.map_append, List.map_cons]
      refine ⟨looks ++ ⟨call, result⟩ :: order, _, ?_, .inl names,
        .inl ⟨result, rfl, fun entry => ?_⟩⟩
      · have ended := led.ends (ends_release sound _ _)
        exact .settled (.around serial pausing begun looked ended) (holding_of_decided holder runs)
      · rw [List.mem_append, List.mem_cons, List.mem_append, or_left_comm]
  | ask question next =>
      obtain rfl := unwritten nofun
      exact ⟨looks ++ order, _, .paused serial holder runs brief pausing (begun.trans led) looked,
        .inl rfl, .inr ⟨brief.verdict?_release, rfl⟩⟩

theorem release_ne_done {β : Type} (rest : Visit β) (result : β) :
    release rest ≠ .done result := by
  cases rest <;> nofun

/-- What is known of a run at a moment. -/
structure Books (reply : Store → (question : StoreCall) → question.Answer → Store → Prop)
    (visit : (call : ι) → Visit (α call)) (pauses : ι → Prop) (first : Store)
    (events : List (Event ι)) (scene : Scene α) (entries : List ((call : ι) × α call))
    (names : List ι) : Prop where
  account : Account reply visit pauses first scene entries names
  decides : Decides entries scene.progress
  once : names.Nodup
  inTime : InTime events names
  outside : Outside visit scene.holder scene.progress
  closes : Closes events scene.progress

namespace Books

theorem start : Books reply visit pauses first [] (.start first) [] [] where
  account := .settled .start nofun
  decides := by
    intro call result
    constructor <;> nofun
  once := List.nodup_nil
  inTime := by
    rintro _ _ ⟨after, _, split, _⟩
    cases after <;> cases split
  outside := nofun
  closes := nofun

variable [DecidableEq ι]

theorem begins {call : ι} (orderly : ∀ call, Orderly (pauses call) (visit call))
    (books : Books reply visit pauses first events scene entries names)
    (waits : scene.progress call = .waiting) :
    ∃ entries names, Books reply visit pauses first (.begins call :: events)
      (scene.advance call (.running (visit call))) entries names := by
  have undecided : (scene.progress call).decided? = none := by rw [waits]; rfl
  have underWay : ∀ result, scene.progress call ≠ .ended result := by rw [waits]; nofun
  have apart : scene.holder ≠ some call := by
    intro held
    obtain ⟨_, runs⟩ := books.account.runs_of_holder held
    rw [waits] at runs
    cases runs
  have unlisted := books.account.not_mem books.decides undecided apart
  have account : Account reply visit pauses first (scene.advance call (.running (visit call)))
      entries names :=
    books.account.transfer rfl rfl fun other held =>
      scene.progress_advance_of_ne call _ fun same => apart (same ▸ held)
  have inTime : InTime (.begins call :: events) names :=
    books.inTime.event fun other begins => by cases begins; exact unlisted
  have outside : Outside visit scene.holder
      (scene.advance call (.running (visit call))).progress :=
    books.outside.update (fun _ _ free => free) fun _ _ runs =>
      .inl (Progress.running.inj runs).symm
  have closes : Closes (.begins call :: events)
      (scene.advance call (.running (visit call))).progress :=
    books.closes.update underWay nofun
  rcases (orderly call).refused_or_undecided with ⟨result, same⟩ | still
  -- A call that asks nothing has its result as soon as it begins, and is listed then.
  · refine ⟨⟨call, result⟩ :: entries, call :: names, ?_, ?_, ?_, ?_, outside, closes⟩
    · refine account.look (by rw [same]; rfl) ?_
      rw [same]
      exact .done _ _
    · refine books.decides.record undecided ?_ fun _ => List.mem_cons
      rw [same]
      rfl
    · exact List.nodup_cons.2 ⟨unlisted, books.once⟩
    · refine inTime.cons fun isMember => ?_
      exact books.closes.underWay underWay ((List.mem_cons.1 isMember).resolve_left nofun)
  · refine ⟨entries, names, account, ?_, books.once, inTime, outside, closes⟩
    exact books.decides.update (still.trans undecided.symm)

theorem ends {call : ι} {result : α call}
    (books : Books reply visit pauses first events scene entries names)
    (runs : scene.progress call = .running (.done result)) :
    Books reply visit pauses first (.ends call :: events) (scene.advance call (.ended result))
      entries names := by
  have apart : scene.holder ≠ some call := by
    intro held
    obtain ⟨rest, released⟩ := books.account.runs_of_holder held
    rw [runs] at released
    exact release_ne_done rest result (Progress.running.inj released).symm
  refine ⟨?_, ?_, books.once, books.inTime.event nofun, ?_, books.closes.end⟩
  · exact books.account.transfer rfl rfl fun other held =>
      scene.progress_advance_of_ne call _ fun same => apart (same ▸ held)
  · exact books.decides.update (by rw [runs]; rfl)
  · exact books.outside.update (fun _ _ free => free) fun _ _ impossible => by cases impossible

section

variable {question : StoreCall} {next : question.Answer → Visit (α call)}
  {answer : question.Answer} {store : Store}

/-- The books after a step in which the call asks a question. -/
theorem asks (answer : question.Answer)
    (books : Books reply visit pauses first events scene entries names)
    (runs : scene.progress call = .running (.ask question next))
    (undecided : verdict? (.ask question next) = none)
    (free : ∀ other, other ≠ call → question.holderAfter call scene.holder ≠ some other →
      scene.holder ≠ some other)
    (leaves : question.holderAfter call scene.holder ≠ some call →
      ∃ result, next answer = .done result)
    (moves : Moves reply visit pauses first
      ((scene.told call question store).advance call (.running (next answer))) call (next answer)
      entries names) :
    ∃ entries names, Books reply visit pauses first (.asks call question :: events)
      ((scene.told call question store).advance call (.running (next answer))) entries names := by
  have underWay : ∀ result, scene.progress call ≠ .ended result := by rw [runs]; nofun
  have undecidedYet : (scene.progress call).decided? = none := by rw [runs]; exact undecided
  obtain ⟨more, listed, account, listing, decision⟩ := moves
  have inTime : InTime (.asks call question :: events) names := books.inTime.event nofun
  refine ⟨more, listed, account, ?_, ?_, ?_, ?_, books.closes.update underWay nofun⟩
  · rcases decision with ⟨result, decided, adds⟩ | ⟨still, rfl⟩
    · exact books.decides.record undecidedYet decided adds
    · exact books.decides.update (still.trans undecidedYet.symm)
  · rcases listing with rfl | ⟨rfl, unlisted⟩
    · exact books.once
    · exact List.nodup_cons.2 ⟨unlisted, books.once⟩
  · rcases listing with rfl | ⟨rfl, unlisted⟩
    · exact inTime
    · refine inTime.cons fun isMember => ?_
      exact books.closes.underWay underWay ((List.mem_cons.1 isMember).resolve_left nofun)
  · refine books.outside.update free fun apart rest same => ?_
    obtain ⟨result, ended⟩ := leaves apart
    exact .inr ⟨result, (Progress.running.inj same).symm.trans ended⟩

/-- A call without the lock looks, or takes the lock. -/
theorem asks_outside (sound : Store.Sound reply)
    (orderly : ∀ call, Orderly (pauses call) (visit call))
    (books : Books reply visit pauses first events scene entries names)
    (apart : scene.holder ≠ some call)
    (runs : scene.progress call = .running (.ask question next))
    (admitted : question.admits scene.holder = true)
    (replied : reply scene.store question answer store) :
    ∃ entries names, Books reply visit pauses first (.asks call question :: events)
      ((scene.told call question store).advance call (.running (next answer))) entries names := by
  -- Without the lock nothing has been asked before, so this is the first question of the call.
  have begun : visit call = .ask question next := by
    rcases books.outside call _ apart runs with same | ⟨_, impossible⟩
    · exact same.symm
    · cases impossible
  have undecided : verdict? (.ask question next) = none := by
    rcases (orderly call).refused_or_undecided with ⟨_, refused⟩ | undecided
    · cases begun.symm.trans refused
    · rw [← begun]
      exact undecided
  have unlisted : call ∉ names :=
    books.account.not_mem books.decides (by rw [runs]; exact undecided) apart
  have shape := orderly call
  rw [begun] at shape
  cases shape with
  | looks key result =>
      obtain rfl := sound.still rfl replied
      refine books.asks answer runs undecided (fun _ _ free => free) (fun _ => ⟨_, rfl⟩) ?_
      refine ⟨⟨call, result answer⟩ :: entries, call :: names, ?_, .inr ⟨rfl, unlisted⟩,
        .inl ⟨_, rfl, fun _ => List.mem_cons⟩⟩
      have looked : (visit call).Ends reply scene.store (result answer) scene.store := by
        rw [begun]
        exact .ask replied (.done _ _)
      refine (books.account.look (by rw [begun]; rfl) looked).transfer rfl rfl fun other held => ?_
      exact Scene.progress_advance_of_ne _ call _ fun same => apart (same ▸ held)
  | @locks mayPause op brief pausing =>
      obtain rfl := sound.still rfl replied
      have nobody : scene.holder = none := Option.isNone_iff_eq_none.1 admitted
      refine books.asks answer runs undecided (fun _ _ _ => by rw [nobody]; nofun)
        (fun free => absurd rfl free) ?_
      have led : (visit call).Leads reply scene.store (release op) scene.store := by
        rw [begun]
        exact .ask replied (.here _ _)
      cases books.account with
      | settled serial _ =>
          exact moves_of_read sound serial rfl (Scene.progress_advance_self _ _ _) brief pausing led
            unlisted
      | paused _ holder =>
          rw [nobody] at holder
          cases holder

/-- The books after a step in which the call with the lock asks the store. -/
theorem asks_under_lock {mayPause : Bool} {rest : question.Answer → Visit (α call)}
    (answer : question.Answer) (books : Books reply visit pauses first events scene entries names)
    (held : scene.holder = some call)
    (runs : scene.progress call = .running (release (.ask question rest)))
    (brief : Brief mayPause (.ask question rest))
    (moves : Moves reply visit pauses first
      ((scene.told call question store).advance call (.running (release (rest answer)))) call
      (release (rest answer)) entries names) :
    ∃ entries names, Books reply visit pauses first (.asks call question :: events)
      ((scene.told call question store).advance call (.running (release (rest answer))))
      entries names := by
  have holder := brief.holderAfter held
  refine books.asks answer runs brief.verdict?_release (fun other apart _ isHolder => ?_)
    (fun free => absurd holder free) moves
  exact apart (Option.some.inj (isHolder.symm.trans held))

/-- The books after a call that has been decided gives back the lock. -/
theorem asks_unlock {result : α call} (sound : Store.Sound reply)
    (books : Books reply visit pauses first events scene entries (entries.map Sigma.fst))
    (held : scene.holder = some call)
    (runs : scene.progress call = .running (release (.done result)))
    (serial : Serial reply visit pauses first entries scene.store)
    (replied : reply scene.store .unlock () store) :
    Books reply visit pauses first (.asks call .unlock :: events)
      ((scene.told call .unlock store).advance call (.running (.done result))) entries
      (entries.map Sigma.fst) := by
  obtain rfl := sound.still rfl replied
  have underWay : ∀ result, scene.progress call ≠ .ended result := by rw [runs]; nofun
  refine ⟨.settled serial nofun, books.decides.update (by rw [runs]; rfl), books.once,
    books.inTime.event nofun, ?_, books.closes.update underWay nofun⟩
  refine books.outside.update (fun other apart _ isHolder => ?_) fun _ rest same => ?_
  · exact apart (Option.some.inj (isHolder.symm.trans held))
  · exact .inr ⟨result, (Progress.running.inj same).symm⟩

/-- The call with the lock reads, writes, or gives the lock back. -/
theorem asks_inside (sound : Store.Sound reply)
    (books : Books reply visit pauses first events scene entries names)
    (held : scene.holder = some call)
    (runs : scene.progress call = .running (.ask question next))
    (replied : reply scene.store question answer store) :
    ∃ entries names, Books reply visit pauses first (.asks call question :: events)
      ((scene.told call question store).advance call (.running (next answer))) entries names := by
  cases books.account with
  | settled serial holding =>
      cases holding call held with
      | decided released =>
          cases released.symm.trans runs
          exact ⟨_, _, books.asks_unlock sound held released serial replied⟩
      | reading released brief pausing begun =>
          cases released.symm.trans runs
          have unlisted : call ∉ entries.map Sigma.fst := by
            refine books.decides.not_mem ?_
            rw [released]
            exact brief.verdict?_release
          have holder := brief.holderAfter held
          have led := begun.next replied
          refine books.asks_under_lock answer held released brief ?_
          cases brief with
          | get rest =>
              obtain rfl := sound.still rfl replied
              exact moves_of_read sound serial holder (Scene.progress_advance_self ..)
                (rest answer) pausing led unlisted
          | last writes ends =>
              -- The last question of the sequence: nothing can be seen between it and the result.
              obtain ⟨result, ended⟩ := ends answer
              refine moves_of_write sound serial holder (Scene.progress_advance_self ..) ?_
                (fun asks => absurd ended (asks result)) led unlisted
              rw [ended]
              exact .done result
          | pause writes rest =>
              exact moves_of_write sound serial holder (Scene.progress_advance_self ..)
                (rest answer) (fun _ => pausing rfl) led unlisted
  | paused serial holder released brief pausing begun looked =>
      cases holder.symm.trans held
      cases released.symm.trans runs
      rename_i rest
      have led : (release (.ask question rest)).Leads reply scene.store (release (rest answer))
          store := .ask replied (.here _ _)
      refine books.asks_under_lock answer held released brief ?_
      have holder := brief.holderAfter held
      cases brief with
      | get brief =>
          obtain rfl := sound.still rfl replied
          exact moves_of_paused sound serial pausing begun looked holder
            (Scene.progress_advance_self ..) (brief answer) led fun _ => rfl
      | last writes ends =>
          obtain ⟨result, ended⟩ := ends answer
          refine moves_of_paused sound serial pausing begun looked holder
            (Scene.progress_advance_self ..) ?_ led fun asks => absurd ended (asks result)
          rw [ended]
          exact .done result

/-- Every step keeps the books. -/
theorem step {event : Event ι} {after : Scene α} (sound : Store.Sound reply)
    (orderly : ∀ call, Orderly (pauses call) (visit call))
    (books : Books reply visit pauses first events scene entries names)
    (step : Step reply visit scene event after) :
    ∃ entries names, Books reply visit pauses first (event :: events) after entries names := by
  cases step with
  | begins waits => exact books.begins orderly waits
  | ends runs => exact ⟨_, _, books.ends runs⟩
  | @asks call question next answer store runs admitted replied =>
      by_cases held : scene.holder = some call
      · exact books.asks_inside sound held runs replied
      · exact books.asks_outside sound orderly held runs admitted replied

end

end Books

/-! ## Whole runs -/

/-- When the calls of a run are orderly and none of them is under way, the run has the results and
the final store of the calls one after another. -/
theorem exists_inOrder [DecidableEq ι] (sound : Store.Sound reply)
    (orderly : ∀ call, Orderly (pauses call) (visit call))
    (run : Run reply visit (.start first) events scene) (quiet : scene.Quiet) :
    ∃ order, InOrder reply visit pauses first events scene order := by
  have kept : ∃ entries names, Books reply visit pauses first events scene entries names := by
    clear quiet
    induction run with
    | here => exact ⟨[], [], .start⟩
    | step _ step ih =>
        obtain ⟨entries, names, books⟩ := ih
        exact books.step sound orderly step
  obtain ⟨entries, names, books⟩ := kept
  have nobody : ∀ call, scene.holder ≠ some call := by
    intro call held
    obtain ⟨rest, runs⟩ := books.account.runs_of_holder held
    exact quiet call _ runs
  have results : ∀ call result, ⟨call, result⟩ ∈ entries ↔
      scene.progress call = .ended result := by
    intro call result
    rw [books.decides call result]
    cases progress : scene.progress call with
    | waiting => constructor <;> nofun
    | running rest => exact absurd progress (quiet call rest)
    | ended found => simp [Progress.decided?]
  cases books.account with
  | settled serial _ => exact ⟨entries, serial, results, books.once, books.inTime⟩
  | paused _ holder => exact absurd holder (nobody _)

end

end Gatehouse.Interleaving
