import Gatehouse.Proofs.Directory.Additions
/-!
# Operations side by side

Operations that keep the lock from their look to their last write, and lookups, leave what they
would have left one after another.  So no change is lost, and of several principals that are added
under one name the first one stays.
-/

namespace Gatehouse.Directory

open Interleaving

/-! ## One after another -/

/-- What calls do, each of which asks for an operation. -/
abbrev visits {ι : Type} (calls : ι → Request) (call : ι) :
    Visit (Except DirectoryError (calls call).Result) :=
  (calls call).perform

/-- A call with its result. -/
abbrev Entry {ι : Type} (calls : ι → Request) : Type :=
  (call : ι) × Except DirectoryError (calls call).Result

section

variable {ι : Type} {calls : ι → Request} {name : String}

/-- The document of a principal after calls one after another, the latest first. -/
def documentAfterAll (name : String) (document : Option Json) (order : List (Entry calls)) :
    Option Json :=
  order.foldr (fun entry document => (calls entry.1).documentAfter name document entry.2) document

/-- The calls among others that have added the principal with a name. -/
def additions (name : String) (order : List (Entry calls)) : List (Entry calls) :=
  order.filter fun entry => (calls entry.1).creates name && entry.2.isOk

section

variable {call : ι} {result : Except DirectoryError (calls call).Result}
  {order : List (Entry calls)}

theorem additions_cons_of_added (added : ((calls call).creates name && result.isOk) = true) :
    additions name (⟨call, result⟩ :: order) = ⟨call, result⟩ :: additions name order := by
  unfold additions
  exact List.filter_cons_of_pos added

theorem additions_cons_of_not_added
    (other : ((calls call).creates name && result.isOk) = false) :
    additions name (⟨call, result⟩ :: order) = additions name order := by
  unfold additions
  exact List.filter_cons_of_neg (Bool.eq_false_iff.1 other)

end

/-- Without the lock, an operation that is there to change a principal is refused at once. -/
theorem perform_of_not_takesLock {request : Request} (ordered : request.ordered = true)
    (isTarget : request.target? = some name) (free : takesLock request.perform = false) :
    ∃ error, request.perform = .done (.error error) := by
  cases request with
  | createPrincipal principal =>
      change takesLock (createPrincipal principal) = false at free
      change ∃ error, createPrincipal principal = _
      unfold createPrincipal at free ⊢
      split at free
      · exact ⟨_, rfl⟩
      · cases free
  | setCredential user credential =>
      change takesLock (setCredential user credential) = false at free
      change ∃ error, setCredential user credential = _
      unfold setCredential at free ⊢
      split at free
      · rename_i empty
        exact ⟨_, if_pos empty⟩
      · cases free
  | updatePrincipal principal => cases free
  | requireReset user deadline => cases free
  | deletePrincipal user => cases ordered
  | _ => cases isTarget

/-- Such an operation leaves every document as it is. -/
theorem documentAfter_of_not_takesLock {request : Request}
    {result : Except DirectoryError request.Result} {middle : Store}
    {reply : Store → (question : StoreCall) → question.Answer → Store → Prop}
    (ordered : request.ordered = true) (free : takesLock request.perform = false)
    (ended : request.perform.Ends reply middle result middle) (document : Option Json) :
    request.documentAfter name document result = document := by
  by_cases isTarget : request.target? = some name
  · obtain ⟨error, refused⟩ := perform_of_not_takesLock ordered isTarget free
    rw [refused] at ended
    cases ended
    rfl
  · exact Request.documentAfter_of_ne isTarget result

/-- Such an operation adds nobody. -/
theorem not_creates_of_not_takesLock {request : Request}
    {result : Except DirectoryError request.Result} {middle : Store}
    {reply : Store → (question : StoreCall) → question.Answer → Store → Prop}
    (ordered : request.ordered = true) (free : takesLock request.perform = false)
    (ended : request.perform.Ends reply middle result middle) :
    (request.creates name && result.isOk) = false := by
  cases creates : request.creates name with
  | false => rfl
  | true =>
      obtain ⟨error, refused⟩ :=
        perform_of_not_takesLock ordered (Request.target?_of_creates creates) free
      rw [refused] at ended
      cases ended
      rfl

variable {reply : Store → (question : StoreCall) → question.Answer → Store → Prop}
  {pauses : ι → Prop} {first store : Store} {order : List (Entry calls)}

/-- The document of a principal is what the calls make of it one after another. -/
theorem get?_of_serial (sound : Store.Sound reply) (ordered : ∀ call, (calls call).ordered = true)
    (serial : Serial reply (visits calls) pauses first order store) (name : String) :
    store.get? (userKey name) = documentAfterAll name (first.get? (userKey name)) order := by
  refine serial.induction (motive := fun order store => store.get? (userKey name) =
    documentAfterAll name (first.get? (userKey name)) order) rfl ?_ ?_
  · intro order before call result after same ended
    rw [get?_of_ends_perform name (ended.mono sound.mayReply), same]
    rfl
  · intro order store call result middle same free ended
    rw [same]
    exact (documentAfter_of_not_takesLock (ordered call) free ended _).symm

/-- Under a name that was free there is a principal when one call has added it, and no two calls
have. -/
theorem length_additions (sound : Store.Sound reply) (ordered : ∀ call, (calls call).ordered = true)
    (serial : Serial reply (visits calls) pauses first order store)
    (free : first.get? (userKey name) = none) :
    (additions name order).length = if (store.get? (userKey name)).isSome then 1 else 0 := by
  refine serial.induction (motive := fun order store => (additions name order).length =
    if (store.get? (userKey name)).isSome then 1 else 0) ?_ ?_ ?_
  · rw [free]
    rfl
  · intro order before call result after count ended
    have ended := ended.mono sound.mayReply
    cases added : (calls call).creates name && result.isOk with
    | true =>
        obtain ⟨free, principal, _, _, stored⟩ := ends_perform_of_creates ended added
        rw [additions_cons_of_added added, List.length_cons, count, free, stored]
        rfl
    | false =>
        rw [additions_cons_of_not_added added, count,
          isSome_get?_of_ends_perform (ordered call) ended added]
  · intro order store call result middle count free ended
    rw [additions_cons_of_not_added (not_creates_of_not_takesLock (ordered call) free ended), count]

/-- When all calls about a name are there to add its principal, the record that has been added is
the one that is there. -/
theorem get?_of_additions (sound : Store.Sound reply)
    (ordered : ∀ call, (calls call).ordered = true)
    (serial : Serial reply (visits calls) pauses first order store)
    (only : ∀ call, (calls call).target? = some name → (calls call).creates name = true) :
    ∀ entry ∈ additions name order, ∀ principal, calls entry.1 = .createPrincipal principal →
      store.get? (userKey name) = some (Record.document principal) := by
  refine serial.induction (motive := fun order store => ∀ entry ∈ additions name order,
    ∀ principal, calls entry.1 = .createPrincipal principal →
      store.get? (userKey name) = some (Record.document principal)) ?_ ?_ ?_
  · exact fun _ isMember => nomatch isMember
  · intro order before call result after stored ended
    have ended := ended.mono sound.mayReply
    cases added : (calls call).creates name && result.isOk with
    | true =>
        obtain ⟨free, principal, isCall, _, storedNow⟩ := ends_perform_of_creates ended added
        intro entry isMember other isOther
        rw [additions_cons_of_added added] at isMember
        rcases List.mem_cons.1 isMember with rfl | isMember
        · rw [storedNow]
          cases isCall.symm.trans isOther
          rfl
        · have taken := stored entry isMember other isOther
          rw [free] at taken
          cases taken
    | false =>
        -- Whoever is there for this name and has not added its principal has failed.
        have same : after.get? (userKey name) = before.get? (userKey name) := by
          rw [get?_of_ends_perform name ended]
          cases result with
          | error error => rfl
          | ok value =>
              refine if_neg fun isTarget => ?_
              rw [only call isTarget] at added
              cases added
        rw [additions_cons_of_not_added added, same]
        exact stored
  · intro order store call result middle stored free ended
    rw [additions_cons_of_not_added (not_creates_of_not_takesLock (ordered call) free ended)]
    exact stored

/-- Nothing stands in the way of adding a principal under its name. -/
structure Addable (calls : ι → Request) (first : Store) (principal : Principal) : Prop where
  name : checkName principal.name = .ok ()
  free : first.get? (userKey principal.name) = none
  role : ∃ role : Role, first.Holds (roleKey principal.role) role
  kept : ∀ call, calls call ≠ .deleteRole principal.role

/-- After an attempt to add a principal its name stays taken. -/
theorem Addable.taken {principal : Principal} (addable : Addable calls first principal)
    (sound : Store.Sound reply) (ordered : ∀ call, (calls call).ordered = true)
    (serves : ∀ {store question answer after}, reply store question answer after →
      store.Answers question answer after)
    (serial : Serial reply (visits calls) pauses first order store)
    (attempted : ∃ entry ∈ order, calls entry.1 = .createPrincipal principal) :
    (store.get? (userKey principal.name)).isSome := by
  have kept : (∃ role : Role, store.Holds (roleKey principal.role) role) ∧
      ((∃ entry ∈ order, calls entry.1 = .createPrincipal principal) →
        (store.get? (userKey principal.name)).isSome) := by
    refine serial.induction (motive := fun order store =>
      (∃ role : Role, store.Holds (roleKey principal.role) role) ∧
        ((∃ entry ∈ order, calls entry.1 = .createPrincipal principal) →
          (store.get? (userKey principal.name)).isSome)) ?_ ?_ ?_
    · exact ⟨addable.role, fun ⟨_, isMember, _⟩ => nomatch isMember⟩
    · rintro order before call result after ⟨⟨role, held⟩, taken⟩ ended
      have mayEnd := ended.mono sound.mayReply
      refine ⟨⟨role, ?_⟩, ?_⟩
      · exact keepsRole_perform (ordered call) (addable.kept call) before result after held mayEnd
      · rintro ⟨entry, isMember, isCreation⟩
        rcases List.mem_cons.1 isMember with rfl | isMember
        · exact isSome_get?_of_creation isCreation addable.name held (ended.mono serves)
        · exact isSome_get?_mono (ordered call) mayEnd (taken ⟨entry, isMember, isCreation⟩)
    · rintro order store call result middle ⟨held, taken⟩ free _
      refine ⟨held, ?_⟩
      rintro ⟨entry, isMember, isCreation⟩
      rcases List.mem_cons.1 isMember with rfl | isMember
      · rw [visits, takesLock_of_creation isCreation addable.name] at free
        cases free
      · exact taken ⟨entry, isMember, isCreation⟩
  exact kept.2 attempted

end

/-! ## Side by side -/

section

variable {ι : Type} {calls : ι → Request}

/-- Exactly one of the calls that are there to add the principal with a name has succeeded, and its
record is stored when nothing else has been done about that name. -/
def AddedOnce (calls : ι → Request)
    (scene : Scene fun call => Except DirectoryError (calls call).Result) (name : String) : Prop :=
  ∃ winner principal, calls winner = .createPrincipal principal ∧ principal.name = name ∧
    scene.Succeeds winner ∧
    (∀ other, (calls other).creates name = true → scene.Succeeds other → other = winner) ∧
    ((∀ other, (calls other).target? = some name → (calls other).creates name = true) →
      scene.store.get? (userKey name) = some (Record.document principal))

variable {reply : Store → (question : StoreCall) → question.Answer → Store → Prop}
  {pauses : ι → Prop} {first : Store} {events : List (Event ι)}
  {scene : Scene fun call => Except DirectoryError (calls call).Result}
  {order : List (Entry calls)}

theorem addedOnce_of_inOrder {principal : Principal} (sound : Store.Sound reply)
    (ordered : ∀ call, (calls call).ordered = true)
    (inOrder : InOrder reply (visits calls) pauses first events scene order)
    (serves : ∀ {store question answer after}, reply store question answer after →
      store.Answers question answer after)
    (addable : Addable calls first principal) {call : ι}
    (isCreation : calls call = .createPrincipal principal)
    (ended : ∃ result, scene.progress call = .ended result) :
    AddedOnce calls scene principal.name := by
  have taken : (scene.store.get? (userKey principal.name)).isSome := by
    obtain ⟨result, ended⟩ := ended
    have isMember := (inOrder.results call result).2 ended
    exact addable.taken sound ordered serves inOrder.serial ⟨_, isMember, isCreation⟩
  have count := length_additions sound ordered inOrder.serial addable.free
  rw [if_pos taken] at count
  obtain ⟨⟨winner, result⟩, only⟩ := List.length_eq_one_iff.1 count
  have isWinner : ⟨winner, result⟩ ∈ additions principal.name order := by
    rw [only]
    exact List.mem_singleton_self _
  obtain ⟨isMember, added⟩ := List.mem_filter.1 isWinner
  obtain ⟨creates, isOk⟩ := Bool.and_eq_true_iff.1 added
  obtain ⟨record, isRecord, named⟩ := Request.exists_of_creates creates
  refine ⟨winner, record, isRecord, named, ?_, ?_, ?_⟩
  · have succeeded := (inOrder.results winner result).1 isMember
    cases result with
    | error error => cases isOk
    | ok value => exact ⟨value, succeeded⟩
  · rintro other creates ⟨value, succeeded⟩
    have isOther : ⟨other, .ok value⟩ ∈ additions principal.name order :=
      List.mem_filter.2
        ⟨(inOrder.results other _).2 succeeded, Bool.and_eq_true_iff.2 ⟨creates, rfl⟩⟩
    rw [only] at isOther
    exact congrArg Sigma.fst (List.mem_singleton.1 isOther)
  · intro onlyAdded
    exact get?_of_additions sound ordered inOrder.serial onlyAdded _ isWinner record isRecord

variable [DecidableEq ι]

/-- Lookups and operations that keep the lock from their look to their last write leave what they
would have left one after another, except that lookups may come in while the system roles are put
in place.  So every principal's document has gone through the changes of exactly those calls that
have succeeded, and if the store does not fail, exactly one of several calls adds a principal. -/
theorem calls_in_order (ordered : ∀ call, (calls call).ordered = true) (sound : Store.Sound reply)
    (run : Run reply (visits calls) (.start first) events scene) (quiet : scene.Quiet) :
    ∃ order, InOrder reply (visits calls) (fun call => calls call = .seedSystemRoles) first events
        scene order ∧
      (∀ name, scene.store.get? (userKey name) =
        documentAfterAll name (first.get? (userKey name)) order) ∧
      ((∀ {store question answer after}, reply store question answer after →
          store.Answers question answer after) →
        ∀ principal, Addable calls first principal →
          ∀ call, calls call = .createPrincipal principal →
            (∃ result, scene.progress call = .ended result) →
            AddedOnce calls scene principal.name) := by
  obtain ⟨order, inOrder⟩ :=
    exists_inOrder sound (fun call => orderly_perform (ordered call)) run quiet
  refine ⟨order, inOrder, get?_of_serial sound ordered inOrder.serial, ?_⟩
  intro serves principal addable call isCreation ended
  exact addedOnce_of_inOrder sound ordered inOrder serves addable isCreation ended

end

/-! ### The system roles, seen halfway -/

namespace Seeding

/-- The system roles are put in place while one after the other is looked up. -/
def calls : Fin 3 → Request
  | 0 => .seedSystemRoles
  | 1 => .lookupRole adminRole
  | 2 => .lookupRole userRole

/-- Both lookups take place after the first role is there and before the second one is. -/
def schedule : List (Fin 3) := [0, 0, 0, 0, 1, 1, 1, 2, 2, 2, 0, 0, 0, 0]

/-- The store with the system roles. -/
def seeded : Store := (seedSystemRoles.run Store.answer .empty).2

theorem exists_follow : ∃ events scene,
    follow? (visits calls) [] (.start .empty) schedule = some (events, scene) ∧
      Precedes events 1 2 ∧ scene.progress 0 = .ended (.ok ()) ∧
      scene.progress 1 = .ended (.ok (some ⟨adminRole, true, true⟩)) ∧
      scene.progress 2 = .ended (.ok none) :=
  ⟨_, _, rfl, ⟨[_, _, _, _, _, _], _, rfl, List.mem_cons_self⟩, rfl, rfl, rfl⟩

/-- Calls one after another without a pause. -/
abbrev Strict (order : List (Entry calls)) (store : Store) : Prop :=
  Serial Store.Answers (visits calls) (fun _ => False) .empty order store

theorem Strict.of_cons {entry : Entry calls} {order : List (Entry calls)} {store : Store}
    (serial : Strict (entry :: order) store) :
    ∃ before, Strict order before ∧
      (visits calls entry.1).Ends Store.Answers before entry.2 store := by
  unfold Strict at serial
  generalize all : entry :: order = entries at serial
  cases serial with
  | start => cases all
  | next past ended =>
      cases all
      exact ⟨_, past, ended⟩
  | around _ pausing => exact pausing.elim

theorem Strict.of_append {entry : Entry calls} {later earlier : List (Entry calls)} {store : Store}
    (serial : Strict (later ++ entry :: earlier) store) :
    ∃ before after, Strict earlier before ∧
      (visits calls entry.1).Ends Store.Answers before entry.2 after := by
  induction later generalizing store with
  | nil =>
      obtain ⟨before, past, ended⟩ := serial.of_cons
      exact ⟨before, store, past, ended⟩
  | cons _ _ ih =>
      obtain ⟨_, past, _⟩ := serial.of_cons
      exact ih past

/-- The roles are there once they have been put in place, and only then. -/
theorem Strict.eq_seeded {order : List (Entry calls)} {store : Store} (serial : Strict order store)
    (once : (order.map Sigma.fst).Nodup) :
    (0 ∈ order.map Sigma.fst → store = seeded) ∧ (0 ∉ order.map Sigma.fst → store = .empty) := by
  induction order generalizing store with
  | nil =>
      unfold Strict at serial
      generalize none : ([] : List (Entry calls)) = entries at serial
      cases serial with
      | start =>
          refine ⟨fun isMember => ?_, fun _ => rfl⟩
          cases isMember
      | next => cases none
      | around _ pausing => exact pausing.elim
  | cons entry order ih =>
      obtain ⟨before, past, ended⟩ := serial.of_cons
      obtain ⟨call, result⟩ := entry
      rw [List.map_cons, List.nodup_cons] at once
      have same := ih past once.2
      have runs := congrArg Prod.snd (Dialogue.ends_iff_run.1 ended)
      rw [List.map_cons]
      match call with
      | 0 =>
          obtain rfl := same.2 once.1
          exact ⟨fun _ => runs, fun absent => absurd List.mem_cons_self absent⟩
      | 1 =>
          obtain rfl : store = before := runs
          rwa [List.mem_cons, or_iff_right nofun]
      | 2 =>
          obtain rfl : store = before := runs
          rwa [List.mem_cons, or_iff_right nofun]

/-- Whoever finds the first role and then does not find the second one has looked halfway. -/
theorem not_exists_order : ∃ events scene,
    Run Store.Answers (visits calls) (.start .empty) events scene ∧ scene.Quiet ∧
      ¬ ∃ order, InOrder Store.Answers (visits calls) (fun _ => False) .empty events scene
        order := by
  obtain ⟨events, scene, followed, precedes, ended, foundAdmin, missedUser⟩ := exists_follow
  refine ⟨events, scene, run_of_follow? .here followed, Scene.quiet_of_ended fun call => ?_, ?_⟩
  · match call with
    | 0 => exact ⟨_, ended⟩
    | 1 => exact ⟨_, foundAdmin⟩
    | 2 => exact ⟨_, missedUser⟩
  · rintro ⟨order, serial, results, once, inTime⟩
    -- In any order the first lookup follows the writes, because it has found its role, and the
    -- second one follows the first one.  So it would have found its role as well.
    obtain ⟨later, earlier, rfl⟩ := List.append_of_mem ((results 2 _).2 missedUser)
    have isEarlier : ⟨1, .ok (some ⟨adminRole, true, true⟩)⟩ ∈ earlier := by
      have apart := inTime 1 2 precedes (later.map Sigma.fst) (earlier.map Sigma.fst)
        (by rw [List.map_append, List.map_cons])
      rcases List.mem_append.1 ((results 1 _).2 foundAdmin) with isLater | isMember
      · exact absurd (List.mem_map_of_mem isLater) apart
      · exact (List.mem_cons.1 isMember).resolve_left fun same => by cases same
    obtain ⟨before, _, past, missed⟩ := Strict.of_append serial
    have onceEarlier : (earlier.map Sigma.fst).Nodup :=
      once.sublist (((List.sublist_cons_self ..).trans (List.sublist_append_right ..)).map _)
    obtain ⟨between, first, rfl⟩ := List.append_of_mem isEarlier
    obtain ⟨start, _, begun, found⟩ := Strict.of_append past
    have onceFirst : (first.map Sigma.fst).Nodup :=
      onceEarlier.sublist (((List.sublist_cons_self ..).trans (List.sublist_append_right ..)).map _)
    have isSeeded : 0 ∈ first.map Sigma.fst := by
      by_contra absent
      obtain rfl := (begun.eq_seeded onceFirst).2 absent
      cases congrArg Prod.fst (Dialogue.ends_iff_run.1 found)
    obtain rfl : before = seeded := by
      refine (past.eq_seeded onceEarlier).1 ?_
      rw [List.map_append, List.map_cons]
      exact List.mem_append.2 (.inr (List.mem_cons_of_mem _ isSeeded))
    cases congrArg Prod.fst (Dialogue.ends_iff_run.1 missed)

end Seeding

/-! ### Two principals under one name -/

namespace Twins

/-- Two principals are added under one name. -/
def calls (role : String) : Fin 2 → Request
  | 0 => .createPrincipal { Principal.ofName "bob" "first" with role := role }
  | 1 => .createPrincipal { Principal.ofName "bob" "second" with role := role }

/-- Where their role is there, the first one is added while the second one waits. -/
theorem exists_follow : ∃ events scene,
    follow? (visits (calls userRole)) [] (.start Seeding.seeded)
        [0, 1, 0, 0, 0, 0, 0, 0, 1, 1, 1, 1] = some (events, scene) ∧
      scene.progress 0 = .ended (.ok ()) ∧
      scene.progress 1 = .ended (.error (.alreadyExists "principal" "bob")) :=
  ⟨_, _, rfl, rfl, rfl⟩

/-- Where it is not there, neither is added. -/
theorem exists_follow_missing : ∃ events scene,
    follow? (visits (calls "auditor")) [] (.start Seeding.seeded)
        [0, 1, 0, 0, 0, 0, 0, 1, 1, 1, 1, 1] = some (events, scene) ∧
      scene.progress 0 = .ended (.error (noRole "auditor")) ∧
      scene.progress 1 = .ended (.error (noRole "auditor")) :=
  ⟨_, _, rfl, rfl, rfl⟩

theorem quiet_of_ended {role : String}
    {scene : Scene fun call => Except DirectoryError (calls role call).Result}
    {first : Except DirectoryError (calls role 0).Result}
    {second : Except DirectoryError (calls role 1).Result}
    (endedFirst : scene.progress 0 = .ended first)
    (endedSecond : scene.progress 1 = .ended second) : scene.Quiet := by
  refine Scene.quiet_of_ended fun call => ?_
  match call with
  | 0 => exact ⟨_, endedFirst⟩
  | 1 => exact ⟨_, endedSecond⟩

/-- One of the two is added. -/
theorem calls_in_order_twins : ∃ events scene,
    Run Store.Answers (visits (calls userRole)) (.start Seeding.seeded) events scene ∧
      scene.Quiet ∧ AddedOnce (calls userRole) scene "bob" := by
  obtain ⟨events, scene, followed, endedFirst, endedSecond⟩ := exists_follow
  have run := run_of_follow? .here followed
  have quiet := quiet_of_ended endedFirst endedSecond
  obtain ⟨_, _, _, added⟩ := calls_in_order (by decide) Store.sound_answers run quiet
  refine ⟨events, scene, run, quiet, added id _ ?_ 0 rfl ⟨_, endedFirst⟩⟩
  refine ⟨rfl, rfl, ⟨⟨userRole, true, false⟩, _, rfl, rfl⟩, fun call => ?_⟩
  match call with
  | 0 => nofun
  | 1 => nofun

end Twins

/-- While the system roles are put in place, one of them can be seen without the other, and of two
principals under one name neither is added when their role is missing. -/
theorem calls_not_always_in_order :
    (∃ events scene, Run Store.Answers (visits Seeding.calls) (.start .empty) events scene ∧
      scene.Quiet ∧ ¬ ∃ order, InOrder Store.Answers (visits Seeding.calls) (fun _ => False) .empty
        events scene order) ∧
    ∃ events scene, Run Store.Answers (visits (Twins.calls "auditor")) (.start Seeding.seeded)
        events scene ∧ scene.Quiet ∧ ∀ call, ¬ scene.Succeeds call := by
  refine ⟨Seeding.not_exists_order, ?_⟩
  obtain ⟨events, scene, followed, endedFirst, endedSecond⟩ := Twins.exists_follow_missing
  refine ⟨events, scene, run_of_follow? .here followed,
    Twins.quiet_of_ended endedFirst endedSecond, ?_⟩
  rintro call ⟨value, succeeded⟩
  match call with
  | 0 =>
      rw [endedFirst] at succeeded
      cases succeeded
  | 1 =>
      rw [endedSecond] at succeeded
      cases succeeded

end Gatehouse.Directory
