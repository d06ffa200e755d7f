import Gatehouse.Proofs.Access.History
import Gatehouse.Proofs.SortedMap
/-!
# What the exchange changes

A step of the exchange leaves the directory as it is, unless it ends with a grant after a reset.
Then it has replaced the record of the one that it grants access to: the password is the new one and
no reset is pending any more.
-/

namespace Gatehouse.Access.Exchange

open Directory (userKey)

variable {issuer : Issuer} {form : Form} {now : Instant} {id : Uuid} {store after : Store}
  {outcome : Outcome}

/-- What is left when no grant after a reset is given. -/
theorem eq_of_ends_run (ended : (run issuer form now id).Ends Store.MayReply store outcome after)
    (noReset : ∀ subject, outcome ≠ .granted subject true) : after = store := by
  rcases ends_run ended with ⟨_, result, begun, _⟩ | ⟨_, result, begun, same⟩ | ⟨_, unchanged, _⟩
  · exact (ends_signIn begun).1
  · rcases ends_resetPassword begun with
      ⟨_, unchanged⟩ | ⟨_, _, _, _, ⟨_, unchanged⟩ | ⟨granted, _⟩⟩
    · exact unchanged
    · exact unchanged
    · rw [granted] at same
      exact absurd same (noReset _)
  · exact unchanged

/-- A step leaves the directory as it is, or as the operation that sets a password leaves it. -/
theorem eq_or_sets_of_ends_run
    (ended : (run issuer form now id).Ends Store.MayReply store outcome after) :
    after = store ∨ ∃ name, (Directory.setCredential name form.newPassword).Ends Store.MayReply
      store (.ok ()) after := by
  by_cases reset : ∃ subject, outcome = .granted subject true
  · obtain ⟨subject, rfl⟩ := reset
    obtain ⟨_, _, principal, _, _, _, sets⟩ := ends_run_granted_reset ended
    exact .inr ⟨principal.name, sets.written⟩
  · exact .inl (eq_of_ends_run ended fun subject granted => reset ⟨subject, granted⟩)

/-- A new password without fault is not empty, and it is the one that was confirmed. -/
theorem passwordFault_eq_none :
    passwordFault form = none ↔ form.newPassword ≠ "" ∧ form.newPassword = form.confirmation := by
  have empty : form.newPassword = "" ↔ form.newPassword.isEmpty = true := String.isEmpty_iff.symm
  rw [ne_eq, empty, passwordFault]
  cases form.newPassword.isEmpty with
  | true => simp
  | false => simp

/-- Setting a password changes the record at one key: the password is the new one, no reset is
pending any more, and the rest is kept. -/
theorem Sets.changes {principal : Principal} (sets : Sets form now principal store after) :
    (∃ record : Principal, store.Holds (userKey principal.name) record ∧
      after.Holds (userKey principal.name)
        { record with credential := form.newPassword, resetDeadline := none }) ∧
    ∀ key, key ≠ userKey principal.name → after.get? key = store.get? key := by
  rcases Directory.ends_setCredential sets.written with
    ⟨⟨_, impossible⟩, _⟩ | ⟨record, held, _, rfl⟩
  · cases impossible
  · constructor
    · exact ⟨record, held, Directory.holds_insert_document _⟩
    · intro key apart
      exact SortedMap.get?_insert_of_ne _ _ apart

/-- A key at which a pending reset was held and is held no more has another document. -/
theorem get?_ne_of_settled {key : String} {record settled : Principal}
    (held : store.Holds key record) (pending : record.resetPending now = true)
    (replaced : after.Holds key settled) (isSettled : settled.resetDeadline = none) :
    after.get? key ≠ store.get? key := by
  intro same
  obtain ⟨json, found, parsed⟩ := held
  obtain ⟨other, foundAfter, parsedAfter⟩ := replaced
  rw [same, found] at foundAfter
  cases foundAfter
  rw [parsed] at parsedAfter
  cases parsedAfter
  obtain ⟨deadline, isPending, _⟩ := resetPending_iff.1 pending
  rw [isSettled] at isPending
  cases isPending

/-- In a directory whose principals are stored at the keys of their names, a step changes nothing
unless it grants access after a reset, whichever calls to the store fail.  When it does, exactly the
record of the one granted access has changed: it has the new password, which is not empty and was
confirmed, no reset is pending any more, and the rest of the record is kept. -/
theorem changes_only_by_reset (named : Directory.NamesAgree store)
    (ended : (run issuer form now id).Ends Store.MayReply store outcome after) :
    ((∀ subject, outcome ≠ .granted subject true) → after = store) ∧
    ∀ subject, outcome = .granted subject true →
      form.newPassword ≠ "" ∧ form.newPassword = form.confirmation ∧
      (∃ principal : Principal, store.Holds (userKey subject) principal ∧
        after.Holds (userKey subject)
          { principal with credential := form.newPassword, resetDeadline := none }) ∧
      after.get? (userKey subject) ≠ store.get? (userKey subject) ∧
      ∀ key, key ≠ userKey subject → after.get? key = store.get? key := by
  constructor
  · exact eq_of_ends_run ended
  · rintro subject rfl
    obtain ⟨_, claims, principal, _, held, rfl, sets⟩ := ends_run_granted_reset ended
    have sameName := named claims.subject principal held
    rw [← sameName] at held
    obtain ⟨changed, kept⟩ := sets.changes
    have fit := passwordFault_eq_none.1 sets.fit
    refine ⟨fit.1, fit.2, changed, ?_, kept⟩
    obtain ⟨_, _, replaced⟩ := changed
    exact get?_ne_of_settled held sets.pending replaced rfl

/-- Ada's record has her new password once she has chosen it, and no reset is pending. -/
theorem changes_only_by_reset_ada : Directory.NamesAgree Reset.store ∧
    ∃ after, (run Reset.issuer Reset.form Reset.chosen Reset.id).Ends Store.MayReply Reset.store
        (.granted "ada" true) after ∧
      ∃ principal : Principal, Reset.store.Holds (userKey "ada") principal ∧
        after.Holds (userKey "ada") { principal with credential := "new", resetDeadline := none } ∧
        after.get? (userKey "ada") ≠ Reset.store.get? (userKey "ada") := by
  obtain ⟨after, happens⟩ := Reset.exists_choice_happens
  have split : Event.submission (Reset.choice after) :: Reset.earlier =
      [] ++ Event.submission (Reset.choice after) :: Reset.earlier := rfl
  have named : Directory.NamesAgree Reset.store :=
    ((Reset.history happens).submission_of_append split).1.namesAgree
  obtain ⟨_, _, ⟨principal, held, replaced⟩, changed, _⟩ :=
    (changes_only_by_reset named happens).2 "ada" rfl
  exact ⟨named, after, happens, principal, held, replaced, changed⟩

end Gatehouse.Access.Exchange
