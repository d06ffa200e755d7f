import Gatehouse.Site.Handle
import Gatehouse.Proofs.Dialogue
import Gatehouse.Proofs.Directory.Store
/-!
# Runs of a site

A run is a row of requests, one after the other, with everything that a request meets: the public
files, the time, and the surroundings of the site as they are at the moment of each call.  Nothing
ties one of these moments to the next, so the directory may be changed by others at any time.
-/

namespace Gatehouse.Site

/-- A call of the site, the contents of the directory's store at that moment, and the answer. -/
structure Moment where
  directory : Store
  call : Call
  answer : call.Answer

namespace Moment

/-- The answer is one that the surroundings can give: a store answers from its contents or fails,
and a packet-filter program may do anything. -/
def IsFaithful : Moment → Prop
  | ⟨directory, .store call, answer⟩ =>
      answer = (directory.answer call).1 ∨ ∃ error, answer = call.failure error
  | ⟨_, .filter _, _⟩ => True

/-- The call runs a packet-filter program. -/
def IsCommand (moment : Moment) : Prop := ∃ command, moment.call = .filter command

/-- The store is asked for a key at which it holds the document of a record. -/
def Shows {α : Type} [Record α] (moment : Moment) (key : String) (record : α) : Prop :=
  moment.call = .store (.get key) ∧ moment.directory.Holds key record

/-- An answer to a call adds a moment to those that have been. -/
def Follows (past : List Moment) (call : Call) (answer : call.Answer) (now : List Moment) : Prop :=
  ∃ directory, IsFaithful ⟨directory, call, answer⟩ ∧ now = past ++ [⟨directory, call, answer⟩]

end Moment

/-- The handling of one request. -/
structure Handling where
  site : Site
  tree : FileTree
  request : Http.Request
  now : Instant
  id : Uuid
  /-- The calls that are made for the request, in order. -/
  moments : List Moment
  handled : Handled

/-- The request can be handled in this way. -/
def Handling.Happens (handling : Handling) : Prop :=
  (handling.site.handle handling.tree handling.request handling.now handling.id).Ends
    Moment.Follows [] handling.handled handling.moments

/-- A site handles requests one after the other and ends as another site. -/
inductive Run : Site → List Handling → Site → Prop where
  | nil (site : Site) : Run site [] site
  | cons {handling : Handling} {rest : List Handling} {after : Site}
      (happens : handling.Happens) (others : Run handling.handled.site rest after) :
      Run handling.site (handling :: rest) after

/-! ## What goes out -/

/-- What goes out for an answer: only its head where a request asks for no more. -/
def sent (request : Http.Request) (answer : Handled) : Handled :=
  if request.method = "HEAD" then { answer with response := answer.response.withoutBody }
  else answer

section

variable (request : Http.Request) (answer : Handled)

@[simp] theorem site_sent : (sent request answer).site = answer.site := by
  unfold sent
  split <;> rfl

@[simp] theorem status_sent : (sent request answer).response.status = answer.response.status := by
  unfold sent
  split <;> rfl

@[simp] theorem header?_sent (name : String) :
    (sent request answer).response.header? name = answer.response.header? name := by
  unfold sent
  split <;> rfl

end

theorem handle_eq (site : Site) (tree : FileTree) (request : Http.Request) (now : Instant)
    (id : Uuid) :
    site.handle tree request now id =
      (site.respond tree request now id).bind fun answer => .done (sent request answer) := by
  refine congrArg _ (funext fun answer => ?_)
  unfold sent
  split <;> rfl

theorem Handling.happens_iff {handling : Handling} :
    handling.Happens ↔ ∃ answer,
      (handling.site.respond handling.tree handling.request handling.now handling.id).Ends
        Moment.Follows [] answer handling.moments ∧
      handling.handled = sent handling.request answer := by
  rw [Happens, handle_eq, Dialogue.ends_bind]
  constructor
  · rintro ⟨answer, moments, responded, ended⟩
    obtain ⟨isSent, rfl⟩ := Dialogue.ends_done.1 ended
    exact ⟨answer, responded, isSent⟩
  · rintro ⟨answer, responded, isSent⟩
    exact ⟨answer, handling.moments, responded, Dialogue.ends_done.2 ⟨isSent, rfl⟩⟩

/-! ## The moments of a dialogue -/

/-- Moments are only ever added. -/
theorem prefix_of_ends {α : Type} {talk : Talk α} {past now : List Moment} {result : α}
    (ended : talk.Ends Moment.Follows past result now) : past <+: now := by
  refine Dialogue.Ends.preserves (fun past now => past <+: now) (fun _ => List.prefix_refl _)
    List.IsPrefix.trans ?_ ended
  rintro past call answer now ⟨directory, _, rfl⟩
  exact List.prefix_append _ _

/-- No command has been run between two moments. -/
def IsQuiet (past now : List Moment) : Prop :=
  ∃ more, now = past ++ more ∧ ∀ moment ∈ more, ¬ moment.IsCommand

theorem IsQuiet.refl (moments : List Moment) : IsQuiet moments moments :=
  ⟨[], (List.append_nil moments).symm, fun _ isMember => nomatch isMember⟩

theorem IsQuiet.trans {first second third : List Moment} (one : IsQuiet first second)
    (two : IsQuiet second third) : IsQuiet first third := by
  obtain ⟨more, rfl, quiet⟩ := one
  obtain ⟨others, rfl, silent⟩ := two
  refine ⟨more ++ others, List.append_assoc _ _ _, ?_⟩
  intro moment isMember
  rcases List.mem_append.1 isMember with isMember | isMember
  · exact quiet moment isMember
  · exact silent moment isMember

/-- How the store of the directory answers within a run. -/
def storeReply (past : List Moment) (call : StoreCall) (answer : call.Answer)
    (now : List Moment) : Prop :=
  Moment.Follows past (.store call) answer now

theorem ends_visit {α : Type} {talk : Visit α} {past now : List Moment} {result : α} :
    (visit talk).Ends Moment.Follows past result now ↔ talk.Ends storeReply past result now := by
  rw [visit, Dialogue.ends_relay]
  simp only [Dialogue.ends_question]
  exact Iff.rfl

/-- A visit to the directory runs no command. -/
theorem isQuiet_of_visit {α : Type} {talk : Visit α} {past now : List Moment} {result : α}
    (ended : (visit talk).Ends Moment.Follows past result now) : IsQuiet past now := by
  refine Dialogue.Ends.preserves IsQuiet IsQuiet.refl IsQuiet.trans ?_ (ends_visit.1 ended)
  rintro past call answer now ⟨directory, _, rfl⟩
  refine ⟨_, rfl, ?_⟩
  rintro moment isMember ⟨command, same⟩
  rw [List.mem_singleton.1 isMember] at same
  cases same

/-- Whoever reads a record meets the moment that shows it. -/
theorem exists_shows_of_storeReply {α : Type} [Record α] {past now : List Moment} {key : String}
    {json : Json} {record : α} (replied : storeReply past (.get key) (.ok (some json)) now)
    (parsed : Record.parse? json = some record) :
    ∃ moment ∈ now, moment.Shows key record := by
  obtain ⟨directory, faithful, rfl⟩ := replied
  refine ⟨_, List.mem_append.2 (.inr (List.mem_singleton.2 rfl)), rfl, json, ?_, parsed⟩
  rcases faithful with held | ⟨error, failed⟩
  · exact (Except.ok.inj held).symm
  · cases failed

end Gatehouse.Site
