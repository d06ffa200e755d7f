import Gatehouse.Proofs.Directory.Sections
import Gatehouse.Proofs.Interleaving.Invariant
/-!
# Principals that are not there

An operation that changes a principal looks for it under the lock and does nothing when it is not
there.  So from any moment on at which nobody holds the lock, only an operation that adds the
principal can bring it back.
-/

namespace Gatehouse

namespace Directory

open Interleaving

variable {α β : Type} {key name : String}

/-- The visit keeps a key empty, whatever else happens to the store meanwhile. -/
abbrev LeavesAbsent (key : String) (visit : Visit α) : Prop :=
  visit.Upholds Store.MayReply fun store => store.get? key = none

/-! ## Building blocks -/

theorem leavesAbsent_of_asks {visit : Visit α}
    (asks : visit.Asks fun question => question.setsAt key = false) : LeavesAbsent key visit :=
  asks.upholds fun spares _ _ _ absent replied =>
    Store.get?_eq_none_of_not_setsAt spares absent replied

/-- Nothing is found where nothing is. -/
theorem leavesAbsent_read_andThen [Record α] {next : Option α → Op β}
    (rest : LeavesAbsent key (next none)) : LeavesAbsent key (andThen (read key) next) := by
  refine .ask (Store.get?_eq_none_of_not_setsAt rfl) fun absent replied => ?_
  rcases (Store.mayReply_get.1 replied).1 with rfl | ⟨cause, rfl⟩
  · rw [absent]
    exact rest
  · exact .done _

theorem leavesAbsent_locked {op : Op α} (leaves : LeavesAbsent key op) :
    LeavesAbsent key (locked op) :=
  .ask (Store.get?_eq_none_of_not_setsAt rfl) fun _ _ => leaves.bind fun _ =>
    .ask (Store.get?_eq_none_of_not_setsAt rfl) fun _ _ => .done _

theorem leavesAbsent_modifyPrincipal (name : String) (change : Principal → Principal) :
    LeavesAbsent (userKey name) (modifyPrincipal name change) :=
  leavesAbsent_locked (leavesAbsent_read_andThen (.done _))

/-- An operation that is not there to add a principal leaves it absent. -/
theorem leavesAbsent_perform {request : Request} (other : request.creates name = false) :
    LeavesAbsent (userKey name) request.perform := by
  by_cases isTarget : request.target? = some name
  · cases request with
    | createPrincipal principal =>
        cases isTarget
        exact absurd rfl (of_decide_eq_false other)
    | updatePrincipal principal =>
        cases isTarget
        exact leavesAbsent_modifyPrincipal _ _
    | setCredential user credential =>
        cases isTarget
        change LeavesAbsent (userKey name) (setCredential name credential)
        unfold setCredential
        split
        · exact .done _
        · exact leavesAbsent_modifyPrincipal _ _
    | requireReset user deadline =>
        cases isTarget
        exact leavesAbsent_modifyPrincipal _ _
    | deletePrincipal user => exact leavesAbsent_of_asks (asks_deletePrincipal user rfl)
    | _ => cases isTarget
  · exact (spares_perform isTarget).upholds fun spares _ _ _ absent replied =>
      (Store.get?_of_not_writesAt spares replied).trans absent

/-! ## The lock -/

/-- Questions about the contents of the store need no lock. -/
theorem careful_ask {question : StoreCall} {next : question.Answer → Visit α}
    (plain : question.plain = true) (spares : question.setsAt key = false)
    (rest : ∀ answer, Careful (LeavesAbsent key) false (next answer)) :
    Careful (LeavesAbsent key) false (.ask question next) := by
  refine .ask (fun _ => ?_) ?_ fun answer => ?_
  · exact .ask (Store.get?_eq_none_of_not_setsAt spares) fun {_ answer _} _ _ =>
      (rest answer).free .done
  · rintro rfl
    exact plain
  · rw [StoreCall.heldAfter_of_plain plain]
    exact rest answer

theorem careful_of_asks {visit : Visit α}
    (asks : visit.Asks fun question => question.plain = true ∧ question.setsAt key = false) :
    Careful (LeavesAbsent key) false visit := by
  induction asks with
  | done value => exact .done value
  | ask first _ ih => exact careful_ask first.1 first.2 ih

/-- An orderly call takes the lock at its beginning, if at all, and gives it back at its end. -/
theorem careful_of_orderly {Free : Visit α → Prop} {visit : Visit α} {pauses : Prop}
    (orderly : Orderly pauses visit) (free : Free visit) : Careful Free false visit := by
  cases orderly with
  | refused result => exact .done result
  | looks key result => exact .ask (fun _ => free) nofun fun _ => .done _
  | locks brief _ => exact .ask (fun _ => free) nofun fun _ => careful_under_lock brief.asks

/-- Every operation is careful with the lock, and an operation that is not there to add a principal
leaves it absent unless it has the lock. -/
theorem careful_perform {request : Request} (other : request.creates name = false) :
    Careful (LeavesAbsent (userKey name)) false request.perform := by
  have free := leavesAbsent_perform other
  cases request with
  | deletePrincipal user => exact careful_of_asks (asks_deletePrincipal user ⟨rfl, rfl⟩)
  | listPrincipals => exact careful_of_asks (asks_list ⟨rfl, rfl⟩)
  | isAdmin user => exact careful_of_asks (asks_isAdmin user fun _ => ⟨rfl, rfl⟩)
  | listRoles => exact careful_of_asks (asks_list ⟨rfl, rfl⟩)
  | putDevice device =>
      exact careful_of_asks (asks_putDevice device fun record _ =>
        ⟨rfl, decide_eq_false (userKey_ne_deviceKey name record.mac).symm⟩)
  | getDevice mac => exact careful_of_asks (asks_getDevice mac fun _ => ⟨rfl, rfl⟩)
  | listDevices => exact careful_of_asks (asks_list ⟨rfl, rfl⟩)
  | deleteDevice mac => exact careful_of_asks (asks_deleteDevice mac fun _ _ => ⟨rfl, rfl⟩)
  | _ => exact careful_of_orderly (orderly_perform rfl) free

end Directory

end Gatehouse
