import Gatehouse.Proofs.Directory.Names
/-!
# The document of a principal

An operation writes at the key of a principal only if it is there to change that principal.  When it
succeeds, the document of the principal becomes what the operation makes of it; when it fails, the
document stays as it is.
-/

namespace Gatehouse.Directory

variable {α β : Type} {key other : String}

/-! ## Questions that operations put -/

section

variable {permitted : StoreCall → Prop}

theorem asks_andThen {op : Op α} {next : α → Op β} (first : op.Asks permitted)
    (rest : ∀ value, (next value).Asks permitted) : (andThen op next).Asks permitted := by
  refine first.bind ?_
  rintro (error | value)
  · exact .done _
  · exact rest value

theorem asks_read [Record α] (gets : permitted (.get key)) :
    (read key : Op (Option α)).Asks permitted :=
  .ask gets fun _ => .done _

theorem asks_list [Record α] {start : String} (scans : permitted (.scan start)) :
    (list start : Op (List α)).Asks permitted :=
  .ask scans fun _ => .done _

theorem asks_write [Record α] {record : α} (sets : permitted (.set key (Record.document record))) :
    (write key record).Asks permitted :=
  .ask sets fun _ => .done _

theorem asks_remove (deletes : permitted (.delete key)) : (remove key).Asks permitted :=
  .ask deletes fun _ => .done _

theorem asks_locked {op : Op α} (lock : permitted .lock) (unlock : permitted .unlock)
    (asks : op.Asks permitted) : (locked op).Asks permitted :=
  .ask lock fun _ => asks.bind fun _ => .ask unlock fun _ => .done _

theorem asks_createPrincipal (principal : Principal)
    (lock : permitted .lock) (unlock : permitted .unlock) (gets : ∀ key, permitted (.get key))
    (sets : permitted (.set (userKey principal.name) (Record.document principal))) :
    (createPrincipal principal).Asks permitted := by
  unfold createPrincipal
  split
  · exact .done _
  · refine asks_locked lock unlock (asks_andThen (asks_read (gets _)) ?_)
    rintro (_ | _)
    · refine asks_andThen (asks_read (gets _)) ?_
      rintro (_ | _)
      · exact .done _
      · exact asks_write sets
    · exact .done _

theorem asks_modifyPrincipal {name : String} {change : Principal → Principal}
    (lock : permitted .lock) (unlock : permitted .unlock) (gets : ∀ key, permitted (.get key))
    (sets : ∀ record : Principal, permitted (.set (userKey name) (Record.document record))) :
    (modifyPrincipal name change).Asks permitted := by
  refine asks_locked lock unlock (asks_andThen (asks_read (gets _)) ?_)
  rintro (_ | principal)
  · exact .done _
  · exact asks_write (sets _)

theorem asks_setCredential (name credential : String)
    (lock : permitted .lock) (unlock : permitted .unlock) (gets : ∀ key, permitted (.get key))
    (sets : ∀ record : Principal, permitted (.set (userKey name) (Record.document record))) :
    (setCredential name credential).Asks permitted := by
  unfold setCredential
  split
  · exact .done _
  · exact asks_modifyPrincipal lock unlock gets sets

theorem asks_deletePrincipal (name : String) (deletes : permitted (.delete (userKey name))) :
    (deletePrincipal name).Asks permitted := by
  refine asks_andThen (asks_remove deletes) ?_
  rintro (_ | _) <;> exact .done _

theorem asks_isAdmin (name : String) (gets : ∀ key, permitted (.get key)) :
    (isAdmin name).Asks permitted := by
  refine asks_andThen (asks_read (gets _)) ?_
  rintro (_ | principal)
  · exact .done _
  · dsimp only
    split
    · exact asks_andThen (asks_read (gets _)) fun _ => .done _
    · exact .done _

theorem asks_seedRole (name : String) (admin : Bool) (gets : ∀ key, permitted (.get key))
    (sets : permitted (.set (roleKey name) (Record.document (⟨name, true, admin⟩ : Role)))) :
    (seedRole name admin).Asks permitted := by
  refine asks_andThen (asks_read (gets _)) ?_
  rintro (_ | _)
  · exact asks_write sets
  · exact .done _

theorem asks_seedSystemRoles
    (lock : permitted .lock) (unlock : permitted .unlock) (gets : ∀ key, permitted (.get key))
    (setsAdmin : permitted
      (.set (roleKey adminRole) (Record.document (⟨adminRole, true, true⟩ : Role))))
    (setsUser : permitted
      (.set (roleKey userRole) (Record.document (⟨userRole, true, false⟩ : Role)))) :
    seedSystemRoles.Asks permitted :=
  asks_locked lock unlock (asks_andThen (asks_seedRole _ _ gets setsAdmin) fun _ =>
    asks_seedRole _ _ gets setsUser)

theorem asks_createRole (name : String) (admin : Bool)
    (lock : permitted .lock) (unlock : permitted .unlock) (gets : ∀ key, permitted (.get key))
    (sets : ∀ normal, Text.accountName name = .ok normal →
      permitted (.set (roleKey normal) (Record.document (⟨normal, false, admin⟩ : Role)))) :
    (createRole name admin).Asks permitted := by
  unfold createRole
  split
  · exact .done _
  · rename_i normal isNormal
    refine asks_locked lock unlock (asks_andThen (asks_read (gets _)) ?_)
    rintro (_ | _)
    · exact asks_write (sets normal isNormal)
    · exact .done _

theorem asks_deleteRole (name : String)
    (lock : permitted .lock) (unlock : permitted .unlock) (gets : ∀ key, permitted (.get key))
    (deletes : permitted (.delete (roleKey name))) : (deleteRole name).Asks permitted := by
  refine asks_locked lock unlock (asks_andThen (asks_read (gets _)) ?_)
  rintro (_ | role)
  · exact .done _
  · dsimp only
    split
    · exact .done _
    · exact asks_andThen (asks_remove deletes) fun _ => .done _

theorem asks_putDevice (device : Device)
    (sets : ∀ record, normalDevice? device = some record →
      permitted (.set (deviceKey record.mac) (Record.document record))) :
    (putDevice device).Asks permitted := by
  unfold putDevice
  split
  · exact .done _
  · rename_i record isRecord
    exact asks_andThen (asks_write (sets record isRecord)) fun _ => .done _

theorem asks_getDevice (mac : String) (gets : ∀ key, permitted (.get key)) :
    (getDevice mac).Asks permitted := by
  unfold getDevice
  split
  · exact .done _
  · exact asks_read (gets _)

theorem asks_deleteDevice (mac : String)
    (deletes : ∀ normal, Text.hardwareAddress? mac = some normal →
      permitted (.delete (deviceKey normal))) :
    (deleteDevice mac).Asks permitted := by
  unfold deleteDevice
  split
  · exact .done _
  · rename_i normal isNormal
    exact asks_remove (deletes normal isNormal)

/-- An operation looks, removes entries, and stores nothing but documents of records. -/
theorem asks_perform (request : Request)
    (lock : permitted .lock) (unlock : permitted .unlock) (gets : ∀ key, permitted (.get key))
    (scans : ∀ start, permitted (.scan start)) (deletes : ∀ key, permitted (.delete key))
    (sets : ∀ {α : Type} [Record α] [LawfulRecord α] (key : String) (record : α),
      permitted (.set key (Record.document record))) :
    request.perform.Asks permitted := by
  cases request with
  | lookupPrincipal name => exact asks_read (gets _)
  | createPrincipal principal => exact asks_createPrincipal principal lock unlock gets (sets _ _)
  | updatePrincipal principal => exact asks_modifyPrincipal lock unlock gets (sets _)
  | setCredential name credential =>
      exact asks_setCredential name credential lock unlock gets (sets _)
  | requireReset name deadline => exact asks_modifyPrincipal lock unlock gets (sets _)
  | deletePrincipal name => exact asks_deletePrincipal name (deletes _)
  | listPrincipals => exact asks_list (scans _)
  | isAdmin name => exact asks_isAdmin name gets
  | seedSystemRoles => exact asks_seedSystemRoles lock unlock gets (sets _ _) (sets _ _)
  | lookupRole name => exact asks_read (gets _)
  | listRoles => exact asks_list (scans _)
  | createRole name admin => exact asks_createRole name admin lock unlock gets fun _ _ => sets _ _
  | deleteRole name => exact asks_deleteRole name lock unlock gets (deletes _)
  | putDevice device => exact asks_putDevice device fun _ _ => sets _ _
  | getDevice mac => exact asks_getDevice mac gets
  | listDevices => exact asks_list (scans _)
  | deleteDevice mac => exact asks_deleteDevice mac fun _ _ => deletes _

end

/-! ## Operations that leave a key alone -/

/-- The operation writes nothing at a key. -/
abbrev Spares (key : String) (visit : Visit α) : Prop :=
  visit.Asks fun question => question.writesAt key = false

theorem spares_read [Record α] : Spares key (read other : Op (Option α)) := asks_read rfl

theorem spares_write [Record α] {record : α} (apart : other ≠ key) :
    Spares key (write other record) :=
  asks_write (decide_eq_false apart)

/-- What is at a key stays there. -/
theorem get?_of_spares {visit : Visit α} {store after : Store} {result : α}
    (spares : Spares key visit) (ended : visit.Ends Store.MayReply store result after) :
    after.get? key = store.get? key := by
  have kept : visit.Upholds Store.MayReply fun now => now.get? key = store.get? key :=
    spares.upholds fun permitted _ _ _ same replied =>
      (Store.get?_of_not_writesAt permitted replied).trans same
  exact kept.keeps store result after rfl ended

/-! ## Principals that operations change -/

/-- The name of the principal that an operation is there to change. -/
def Request.target? : Request → Option String
  | .createPrincipal principal => some principal.name
  | .updatePrincipal principal => some principal.name
  | .setCredential name _ => some name
  | .requireReset name _ => some name
  | .deletePrincipal name => some name
  | _ => none

/-- Whether an operation is there to add the principal with a name. -/
def Request.creates (name : String) : Request → Bool
  | .createPrincipal principal => principal.name = name
  | _ => false

theorem Request.exists_of_creates {request : Request} {user : String}
    (creates : request.creates user = true) :
    ∃ principal, request = .createPrincipal principal ∧ principal.name = user := by
  cases request with
  | createPrincipal principal => exact ⟨principal, rfl, of_decide_eq_true creates⟩
  | _ => cases creates

theorem Request.target?_of_creates {request : Request} {user : String}
    (creates : request.creates user = true) : request.target? = some user := by
  obtain ⟨principal, rfl, named⟩ := exists_of_creates creates
  exact congrArg some named

theorem spares_createPrincipal (principal : Principal) (apart : userKey principal.name ≠ key) :
    Spares key (createPrincipal principal) :=
  asks_createPrincipal principal rfl rfl (fun _ => rfl) (decide_eq_false apart)

theorem spares_modifyPrincipal {name : String} {change : Principal → Principal}
    (apart : userKey name ≠ key) : Spares key (modifyPrincipal name change) :=
  asks_modifyPrincipal rfl rfl (fun _ => rfl) fun _ => decide_eq_false apart

theorem spares_setCredential (name credential : String) (apart : userKey name ≠ key) :
    Spares key (setCredential name credential) :=
  asks_setCredential name credential rfl rfl (fun _ => rfl) fun _ => decide_eq_false apart

theorem spares_seedSystemRoles (admin : roleKey adminRole ≠ key) (user : roleKey userRole ≠ key) :
    Spares key seedSystemRoles :=
  asks_seedSystemRoles rfl rfl (fun _ => rfl) (decide_eq_false admin) (decide_eq_false user)

theorem spares_createRole (name : String) (admin : Bool)
    (apart : ∀ normal, Text.accountName name = .ok normal → roleKey normal ≠ key) :
    Spares key (createRole name admin) :=
  asks_createRole name admin rfl rfl (fun _ => rfl) fun normal isNormal =>
    decide_eq_false (apart normal isNormal)

theorem spares_deleteRole (name : String) (apart : roleKey name ≠ key) :
    Spares key (deleteRole name) :=
  asks_deleteRole name rfl rfl (fun _ => rfl) (decide_eq_false apart)

/-! ## Records that operations change -/

/-- The names of the records that an operation may change. -/
def Request.changes : Request → List RecordName
  | .createPrincipal principal => [⟨.principal, principal.name⟩]
  | .updatePrincipal principal => [⟨.principal, principal.name⟩]
  | .setCredential name _ => [⟨.principal, name⟩]
  | .requireReset name _ => [⟨.principal, name⟩]
  | .deletePrincipal name => [⟨.principal, name⟩]
  | .seedSystemRoles => [⟨.role, adminRole⟩, ⟨.role, userRole⟩]
  | .createRole name _ => ((Text.accountName name).toOption.map (RecordName.mk .role)).toList
  | .deleteRole name => [⟨.role, name⟩]
  | .putDevice device => ((normalDevice? device).map fun record => ⟨.device, record.mac⟩).toList
  | .deleteDevice mac => ((Text.hardwareAddress? mac).map (RecordName.mk .device)).toList
  | _ => []

/-- An operation names at most one record, unless it makes sure that the roles of the system are
there. -/
theorem Request.length_changes (request : Request) :
    request = .seedSystemRoles ∨ request.changes.length ≤ 1 := by
  have atMostOne (found : Option RecordName) : found.toList.length ≤ 1 := by
    cases found <;> simp
  cases request with
  | seedSystemRoles => exact .inl rfl
  | createRole | putDevice | deleteDevice =>
      right
      unfold changes
      exact atMostOne _
  | lookupPrincipal | listPrincipals | isAdmin | lookupRole | listRoles | getDevice | listDevices =>
      exact .inr (Nat.zero_le 1)
  | _ => exact .inr (Nat.le_refl 1)

/-- An operation writes at no other keys than those of the records that it names. -/
theorem spares_of_not_changes {request : Request}
    (apart : ∀ name ∈ request.changes, name.key ≠ key) : Spares key request.perform := by
  have only {name : RecordName} (isName : request.changes = [name]) : name.key ≠ key :=
    apart name (isName ▸ List.mem_singleton_self name)
  cases request with
  | lookupPrincipal user => exact spares_read
  | createPrincipal principal => exact spares_createPrincipal principal (only rfl)
  | updatePrincipal principal => exact spares_modifyPrincipal (only rfl)
  | setCredential user credential => exact spares_setCredential user credential (only rfl)
  | requireReset user deadline => exact spares_modifyPrincipal (only rfl)
  | deletePrincipal user => exact asks_deletePrincipal user (decide_eq_false (only rfl))
  | listPrincipals => exact asks_list rfl
  | isAdmin user => exact asks_isAdmin user fun _ => rfl
  | seedSystemRoles =>
      exact spares_seedSystemRoles (apart _ List.mem_cons_self)
        (apart _ (List.mem_cons_of_mem _ (List.mem_singleton_self _)))
  | lookupRole role => exact spares_read
  | listRoles => exact asks_list rfl
  | createRole role admin =>
      refine spares_createRole role admin fun normal isNormal => ?_
      have isName : (Request.createRole role admin).changes = [⟨.role, normal⟩] := by
        rw [Request.changes, isNormal]
        rfl
      exact only isName
  | deleteRole role => exact spares_deleteRole role (only rfl)
  | putDevice device =>
      refine asks_putDevice device fun record isRecord => decide_eq_false ?_
      have isName : (Request.putDevice device).changes = [⟨.device, record.mac⟩] := by
        rw [Request.changes, isRecord]
        rfl
      exact only isName
  | getDevice mac => exact asks_getDevice mac fun _ => rfl
  | listDevices => exact asks_list rfl
  | deleteDevice mac =>
      refine asks_deleteDevice mac fun normal isNormal => decide_eq_false ?_
      have isName : (Request.deleteDevice mac).changes = [⟨.device, normal⟩] := by
        rw [Request.changes, isNormal]
        rfl
      exact only isName

theorem Request.target?_of_mem_changes {request : Request} {name : String}
    (changed : ⟨.principal, name⟩ ∈ request.changes) : request.target? = some name := by
  cases request with
  | createRole role admin | putDevice device | deleteDevice mac => simp [changes] at changed
  | _ => simp_all [changes, target?]

/-- An operation leaves the documents of all other principals alone. -/
theorem spares_perform {request : Request} {name : String} (apart : request.target? ≠ some name) :
    Spares (userKey name) request.perform := by
  refine spares_of_not_changes fun other changed same => apart ?_
  have isPrincipal : other = ⟨.principal, name⟩ := RecordName.key_injective same
  exact Request.target?_of_mem_changes (isPrincipal ▸ changed)

/-! ## Changed documents -/

/-- The document of the changed record. -/
def revised (document : Option Json) (change : Principal → Principal) : Option Json :=
  document.bind fun json => (Record.parse? json).map fun principal =>
    Record.document (change principal)

/-- What an operation makes of the document of the principal that it is there to change. -/
def Request.rewrite (document : Option Json) : Request → Option Json
  | .createPrincipal principal => some (Record.document principal)
  | .updatePrincipal principal => some (Record.document principal)
  | .setCredential _ credential =>
      revised document fun principal => principal.withCredential credential
  | .requireReset _ deadline =>
      revised document fun principal => { principal with resetDeadline := deadline }
  | .deletePrincipal _ => none
  | _ => document

/-- The document of a principal after an operation has ended with a result. -/
def Request.documentAfter (name : String) (document : Option Json) (request : Request) :
    Except DirectoryError request.Result → Option Json
  | .ok _ => if request.target? = some name then request.rewrite document else document
  | .error _ => document

theorem Request.documentAfter_ok {request : Request} {name : String} {document : Option Json}
    {value : request.Result} (isTarget : request.target? = some name) :
    request.documentAfter name document (.ok value) = request.rewrite document :=
  if_pos isTarget

theorem Request.documentAfter_of_ne {request : Request} {name : String} {document : Option Json}
    (apart : request.target? ≠ some name) (result : Except DirectoryError request.Result) :
    request.documentAfter name document result = document := by
  cases result with
  | error error => rfl
  | ok value => exact if_neg apart

variable {store after : Store}

theorem revised_of_holds {name : String} {principal : Principal} {change : Principal → Principal}
    (held : store.Holds (userKey name) principal) :
    revised (store.get? (userKey name)) change = some (Record.document (change principal)) := by
  obtain ⟨json, found, parsed⟩ := held
  rw [revised, found, Option.bind_some, parsed, Option.map_some]

/-- Removing a principal fails and leaves its key as it is, or the key is empty afterwards. -/
theorem ends_deletePrincipal {name : String} {result : Except DirectoryError Unit}
    (ended : (deletePrincipal name).Ends Store.MayReply store result after) :
    ((∃ error, result = .error error) ∧
        after.get? (userKey name) = store.get? (userKey name)) ∨
      result = .ok () ∧ after.get? (userKey name) = none := by
  rcases ends_andThen.1 ended with ⟨error, removed, rfl⟩ | ⟨found, middle, removed, ended⟩
  · rcases ends_remove removed with ⟨_, rfl⟩ | ⟨impossible, _⟩
    · exact .inl ⟨⟨error, rfl⟩, rfl⟩
    · cases impossible
  · rcases ends_remove removed with ⟨⟨error, impossible⟩, _⟩ | ⟨isFound, rfl⟩
    · cases impossible
    · cases isFound
      cases held : store.contains (userKey name) with
      | true =>
          rw [held] at ended
          obtain ⟨rfl, rfl⟩ := Dialogue.ends_done.1 ended
          exact .inr ⟨rfl, SortedMap.get?_erase_self _ _⟩
      | false =>
          rw [held] at ended
          obtain ⟨rfl, rfl⟩ := Dialogue.ends_done.1 ended
          refine .inl ⟨⟨_, rfl⟩, ?_⟩
          rw [SortedMap.get?_erase_self]
          exact (Option.isSome_eq_false_iff.1 held |> Option.isNone_iff_eq_none.1).symm

/-- An operation makes of the document of a principal what it says when it succeeds, and nothing
when it fails. -/
theorem get?_of_ends_perform {request : Request} {result : Except DirectoryError request.Result}
    (name : String) (ended : request.perform.Ends Store.MayReply store result after) :
    after.get? (userKey name) =
      request.documentAfter name (store.get? (userKey name)) result := by
  by_cases isTarget : request.target? = some name
  · cases request with
    | createPrincipal principal =>
        cases isTarget
        rcases ends_createPrincipal principal ended with ⟨⟨error, rfl⟩, rfl⟩ | ⟨_, rfl, rfl⟩
        · rfl
        · rw [SortedMap.get?_insert_self, Request.documentAfter_ok rfl, Request.rewrite]
    | updatePrincipal principal =>
        cases isTarget
        rcases ends_modifyPrincipal ended with ⟨⟨error, rfl⟩, rfl⟩ | ⟨_, _, rfl, rfl⟩
        · rfl
        · rw [SortedMap.get?_insert_self, Request.documentAfter_ok rfl, Request.rewrite]
    | setCredential user credential =>
        cases isTarget
        rcases ends_setCredential ended with ⟨⟨error, rfl⟩, rfl⟩ | ⟨principal, held, rfl, rfl⟩
        · rfl
        · rw [SortedMap.get?_insert_self, Request.documentAfter_ok rfl, Request.rewrite,
            revised_of_holds held]
    | requireReset user deadline =>
        cases isTarget
        rcases ends_modifyPrincipal ended with ⟨⟨error, rfl⟩, rfl⟩ | ⟨principal, held, rfl, rfl⟩
        · rfl
        · rw [SortedMap.get?_insert_self, Request.documentAfter_ok rfl, Request.rewrite,
            revised_of_holds held]
    | deletePrincipal user =>
        cases isTarget
        rcases ends_deletePrincipal ended with ⟨⟨error, rfl⟩, same⟩ | ⟨rfl, gone⟩
        · exact same
        · rw [gone, Request.documentAfter_ok rfl, Request.rewrite]
    | _ => cases isTarget
  · rw [get?_of_spares (spares_perform isTarget) ended, Request.documentAfter_of_ne isTarget]

/-! ## Settled documents -/

/-- The document is none of a principal of whom a new password is required, now or later on. -/
def Settled (document : Option Json) : Prop :=
  ∀ json (principal : Principal), document = some json → Record.parse? json = some principal →
    principal.resetDeadline = none

/-- Whether an operation puts a deadline into the record that it is there to change. -/
def Request.requiresReset : Request → Bool
  | .createPrincipal principal => principal.resetDeadline.isSome
  | .updatePrincipal principal => principal.resetDeadline.isSome
  | .requireReset _ deadline => deadline.isSome
  | _ => false

theorem settled_document {principal : Principal} (settled : principal.resetDeadline = none) :
    Settled (some (Record.document principal)) := by
  rintro json found ⟨⟩ parsed
  rw [LawfulRecord.parse?_document] at parsed
  cases parsed
  exact settled

theorem settled_revised {document : Option Json} {change : Principal → Principal}
    (settled : ∀ principal, (change principal).resetDeadline = none) :
    Settled (revised document change) := by
  intro json found isRevised parsed
  obtain ⟨old, _, isDocument⟩ := Option.bind_eq_some_iff.1 isRevised
  obtain ⟨principal, _, rfl⟩ := Option.map_eq_some_iff.1 isDocument
  exact settled_document (settled principal) _ _ rfl parsed

/-- A document stays settled unless a reset is required of its principal. -/
theorem settled_documentAfter {request : Request} {name : String} {document : Option Json}
    (settled : Settled document)
    (apart : request.target? = some name → request.requiresReset = false)
    (result : Except DirectoryError request.Result) :
    Settled (request.documentAfter name document result) := by
  have absent {deadline : Option Instant} (isNone : deadline.isSome = false) : deadline = none :=
    Option.isNone_iff_eq_none.1 (Option.isSome_eq_false_iff.1 isNone)
  cases result with
  | error error => exact settled
  | ok value =>
      by_cases isTarget : request.target? = some name
      · have requiresNone := apart isTarget
        rw [Request.documentAfter_ok isTarget]
        cases request with
        | createPrincipal principal => exact settled_document (absent requiresNone)
        | updatePrincipal principal => exact settled_document (absent requiresNone)
        | setCredential user credential => exact settled_revised fun _ => rfl
        | requireReset user deadline => exact settled_revised fun _ => absent requiresNone
        | deletePrincipal user =>
            intro json principal impossible
            cases impossible
        | _ => cases isTarget
      · rwa [Request.documentAfter_of_ne isTarget]

end Gatehouse.Directory
