import Gatehouse.Proofs.Directory.Documents
import Gatehouse.Proofs.Interleaving.Serial
/-!
# Sections under the lock

The operations that look and then write keep the lock from the look to the write, and write once.
Only the system roles are written one after the other under one lock.
-/

namespace Gatehouse.Directory

open Interleaving

variable {α β : Type} {mayPause : Bool} {key : String}

/-! ## Building blocks -/

theorem brief_andThen_done {result : Except DirectoryError α} {next : α → Op β}
    (rest : ∀ value, Brief mayPause (next value)) :
    Brief mayPause (andThen (.done result) next) := by
  cases result with
  | error error => exact .done _
  | ok value => exact rest value

theorem brief_read_andThen [Record α] {next : Option α → Op β}
    (rest : ∀ found, Brief mayPause (next found)) : Brief mayPause (andThen (read key) next) :=
  .get fun _ => brief_andThen_done rest

theorem brief_write [Record α] {record : α} : Brief mayPause (write key record) :=
  .last rfl fun _ => ⟨_, rfl⟩

/-- A removal whose result does not matter. -/
theorem brief_remove_andThen {value : α} :
    Brief mayPause (andThen (remove key) fun _ => finish value) := by
  refine .last rfl ?_
  rintro (cause | found)
  · exact ⟨_, rfl⟩
  · exact ⟨_, rfl⟩

/-- After one write there may be another one if the sequence pauses. -/
theorem brief_andThen {op : Op α} {next : α → Op β} (first : Brief false op)
    (rest : ∀ value, Brief false (next value)) : Brief true (andThen op next) := by
  generalize plain : false = pausing at first
  induction first with
  | done result => exact brief_andThen_done fun value => (rest value).wide
  | get _ ih => exact .get fun answer => ih answer plain
  | last writes ends =>
      refine .pause writes fun answer => ?_
      obtain ⟨result, ended⟩ := ends answer
      rw [ended]
      exact brief_andThen_done rest
  | pause => cases plain

/-! ## The operations -/

theorem brief_seedRole (name : String) (admin : Bool) : Brief mayPause (seedRole name admin) := by
  refine brief_read_andThen ?_
  rintro (_ | role)
  · exact brief_write
  · exact .done _

variable {pauses : Prop}

theorem orderly_read [Record α] : Orderly pauses (read key : Op (Option α)) := .looks key _

/-- The operation writes once under the lock. -/
theorem orderly_locked {op : Op α} (brief : Brief false op) : Orderly pauses (locked op) :=
  .locks brief nofun

theorem orderly_createPrincipal (principal : Principal) :
    Orderly pauses (createPrincipal principal) := by
  unfold createPrincipal
  split
  · exact .refused _
  · refine orderly_locked (brief_read_andThen ?_)
    rintro (_ | _)
    · refine brief_read_andThen ?_
      rintro (_ | _)
      · exact .done _
      · exact brief_write
    · exact .done _

theorem orderly_modifyPrincipal (name : String) (change : Principal → Principal) :
    Orderly pauses (modifyPrincipal name change) := by
  refine orderly_locked (brief_read_andThen ?_)
  rintro (_ | principal)
  · exact .done _
  · exact brief_write

theorem orderly_setCredential (name credential : String) :
    Orderly pauses (setCredential name credential) := by
  unfold setCredential
  split
  · exact .refused _
  · exact orderly_modifyPrincipal _ _

theorem orderly_createRole (name : String) (admin : Bool) :
    Orderly pauses (createRole name admin) := by
  unfold createRole
  split
  · exact .refused _
  · refine orderly_locked (brief_read_andThen ?_)
    rintro (_ | _)
    · exact brief_write
    · exact .done _

theorem orderly_deleteRole (name : String) : Orderly pauses (deleteRole name) := by
  refine orderly_locked (brief_read_andThen ?_)
  rintro (_ | role)
  · exact .done _
  · dsimp only
    split
    · exact .done _
    · exact brief_remove_andThen

theorem orderly_seedSystemRoles (pausing : pauses) : Orderly pauses seedSystemRoles :=
  .locks (brief_andThen (brief_seedRole _ _) fun _ => brief_seedRole _ _) fun _ => pausing

/-! ## Requests -/

/-- The operations that look for one record, and those that keep the lock from their look to their
last write. -/
def Request.ordered : Request → Bool
  | .lookupPrincipal _ => true
  | .createPrincipal _ => true
  | .updatePrincipal _ => true
  | .setCredential _ _ => true
  | .requireReset _ _ => true
  | .seedSystemRoles => true
  | .lookupRole _ => true
  | .createRole _ _ => true
  | .deleteRole _ => true
  | _ => false

/-- Such an operation has one moment at which it happens, unless it puts the system roles in
place. -/
theorem orderly_perform {request : Request} (ordered : request.ordered = true) :
    Orderly (request = .seedSystemRoles) request.perform := by
  cases request with
  | lookupPrincipal name => exact orderly_read
  | createPrincipal principal => exact orderly_createPrincipal principal
  | updatePrincipal principal => exact orderly_modifyPrincipal _ _
  | setCredential name credential => exact orderly_setCredential name credential
  | requireReset name deadline => exact orderly_modifyPrincipal _ _
  | seedSystemRoles => exact orderly_seedSystemRoles rfl
  | lookupRole name => exact orderly_read
  | createRole name admin => exact orderly_createRole name admin
  | deleteRole name => exact orderly_deleteRole name
  | _ => cases ordered

end Gatehouse.Directory
