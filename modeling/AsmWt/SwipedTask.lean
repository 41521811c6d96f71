import AsmWt.Interleaving
import AsmWt.PendingCalls

/-!
# The answer to a swipe

A swipe to the right opens the delete dialogue and answers, whenever that
dialogue is closed, with the field `dismiss` of its card. The confirm button sets
the field before the delete is sent; only the cancel button takes it back.
-/

namespace SwipedTask

open Interleaving PendingCalls

/-- What lies on the page of the card; the dialogues are numbered by the swipes that opened them. -/
inductive Route where
  | page
  | dialogue (swipe : Nat)
  | overlay
  deriving DecidableEq

/-- The routes, the top one first; the delete requests in flight, each with the dialogue it was sent
from; whether one of them has succeeded; the answers that were given. -/
structure State where
  dismiss : Bool := false
  routes : List Route := [.page]
  swipes : Nat := 0
  calls : List Nat := []
  deleted : Bool := false
  answers : List Bool := []

/-- The buttons act on the latest dialogue. Something else may pop the top route: a tap outside the
dialogue, or the back button. A reply that comes when its dialogue has been popped may still find
the dialogue's context, until the animation has ended. -/
inductive Event where
  | swipe
  | confirm
  | cancel
  | tapOutside
  | back
  | reply (call : Nat) (ok : Bool) (mounted : Bool)

/-- Whether the status of the result is `S`. -/
def deleteTaskNotedById (taskId : String) (ok : Bool) : Bool := taskId ≠ "" && ok

namespace State

def onTop (s : State) : Bool :=
  match s.routes with
  | .dialogue _ :: _ => true
  | _ => false

/-- `Navigator.pop`; the future of a dialogue that is popped lets `confirmDismiss` return. -/
def pop (s : State) : State :=
  { s with
    routes := s.routes.tail
    answers := if s.onTop then s.dismiss :: s.answers else s.answers }

end State

/-- What follows `deleteTaskNotedById`: the dialogue is popped after a success, and the overlay is
hidden, each by popping what is on top. -/
def afterDelete (s : State) (success mounted : Bool) : State :=
  let t := { s with deleted := s.deleted || success }
  if mounted then if success then t.pop.pop else t.pop else t

def step (taskId : String) (s : State) : Event → Option State
  -- the guard of a missing connection compares a list with a value and never holds
  | .swipe =>
    if s.routes.head? = some .page then
      some { s with routes := .dialogue s.swipes :: s.routes, swipes := s.swipes + 1 }
    else none
  | .confirm =>
    match s.routes.find? (· ≠ .overlay) with
    | some (.dialogue swipe) =>
      some { s with dismiss := true, routes := .overlay :: s.routes, calls := swipe :: s.calls }
    | _ => none
  | .cancel =>
    match s.routes.find? (· ≠ .overlay) with
    | some (.dialogue _) => some { s with dismiss := false }.pop
    | _ => none
  | .tapOutside => if s.onTop then some s.pop else none
  | .back => some s.pop
  | .reply call ok mounted => do
    let (swipe, rest) ← takeOut s.calls call
    -- a dialogue that is shown has its context
    if .dialogue swipe ∈ s.routes ∧ mounted = false then none
    else
      return afterDelete { s with calls := rest } (deleteTaskNotedById taskId ok) mounted

/-- `confirmDismiss` has returned true only if the task was deleted. -/
def Truthful (s : State) : Prop := true ∈ s.answers → s.deleted = true

/-- The last button pressed was confirm, and no delete has succeeded. -/
def Stale (s : State) : Prop := s.dismiss = true ∧ s.deleted = false

/-- While the field is stale, the dialogue is closed by nothing but its cancel button: not by a tap
outside or the back button, nor when a failed delete hides what is on top. -/
def StaysOpen (taskId : String) (s : State) : Event → Prop
  | .tapOutside | .back => s.onTop = true → ¬ Stale s
  | .reply _ ok mounted =>
    deleteTaskNotedById taskId ok = false → mounted = true → s.onTop = true → ¬ Stale s
  | .swipe | .confirm | .cancel => True

section Answer

variable {s t : State}

theorem stale_iff : ¬ Stale s ↔ (s.dismiss = true → s.deleted = true) := by
  simp [Stale]

/-- Popping a dialogue answers with the field, popping anything else does not answer. -/
theorem truthful_pop_iff (h : Truthful s) :
    Truthful s.pop ↔ (s.onTop = true → s.dismiss = true → s.deleted = true) := by
  cases htop : s.onTop with
  | false =>
    have hanswers : s.pop.answers = s.answers := by rw [State.pop, htop]; rfl
    constructor
    · intro _ himpossible
      cases himpossible
    · intro _ hmem
      rw [hanswers] at hmem
      exact h hmem
  | true =>
    have hanswers : s.pop.answers = s.dismiss :: s.answers := by rw [State.pop, htop]; rfl
    constructor
    · intro ht _ hdismiss
      apply ht
      rw [hanswers, hdismiss]
      exact List.mem_cons_self
    · intro hd hmem
      rw [hanswers] at hmem
      rcases List.mem_cons.mp hmem with hmem | hmem
      · exact hd rfl hmem.symm
      · exact h hmem

/-- Once the task is deleted, no answer is wrong. -/
theorem truthful_of_deleted (h : s.deleted = true) : Truthful s := fun _ => h

theorem truthful_afterDelete_iff (h : Truthful s) (success mounted : Bool) :
    Truthful (afterDelete s success mounted) ↔
      (success = false → mounted = true → s.onTop = true → ¬ Stale s) := by
  cases success with
  | true =>
    have hdeleted : (afterDelete s true mounted).deleted = true := by
      cases mounted <;> simp [afterDelete, State.pop]
    refine ⟨fun _ himpossible => ?_, fun _ => truthful_of_deleted hdeleted⟩
    cases himpossible
  | false =>
    have same : { s with deleted := s.deleted || false } = s := by rw [Bool.or_false]
    cases mounted with
    | true =>
      have hpop : afterDelete s false true = s.pop := by
        simp only [afterDelete, same, if_true, Bool.false_eq_true, if_false]
      rw [hpop, truthful_pop_iff h, stale_iff]
      exact ⟨fun hs _ _ => hs, fun hs => hs rfl rfl⟩
    | false =>
      have hsame : afterDelete s false false = s := by
        simp only [afterDelete, same, Bool.false_eq_true, if_false]
      rw [hsame]
      refine ⟨fun _ _ himpossible => ?_, fun _ => h⟩
      cases himpossible

theorem step_truthful_iff {taskId : String} {e : Event} (h : Truthful s)
    (hstep : step taskId s e = some t) : Truthful t ↔ StaysOpen taskId s e := by
  cases e with
  | swipe =>
    simp only [step] at hstep
    split at hstep
    · cases hstep
      exact iff_of_true h trivial
    · cases hstep
  | confirm =>
    simp only [step] at hstep
    split at hstep
    · cases hstep
      exact iff_of_true h trivial
    · cases hstep
  | cancel =>
    simp only [step] at hstep
    split at hstep
    · cases hstep
      refine ⟨fun _ => trivial, fun _ => ?_⟩
      have hkept : Truthful { s with dismiss := false } := h
      rw [truthful_pop_iff hkept]
      intro _ himpossible
      cases himpossible
    · cases hstep
  | tapOutside =>
    simp only [step] at hstep
    split at hstep
    · cases hstep
      rw [truthful_pop_iff h, StaysOpen, stale_iff]
    · cases hstep
  | back =>
    cases hstep
    rw [truthful_pop_iff h, StaysOpen, stale_iff]
  | reply call ok mounted =>
    obtain ⟨⟨swipe, rest⟩, -, hstep⟩ := Option.bind_eq_some_iff.mp hstep
    dsimp only at hstep
    split at hstep
    · cases hstep
    · cases hstep
      have hrest : Truthful { s with calls := rest } := h
      exact truthful_afterDelete_iff hrest _ mounted

end Answer

/-- The answers of a run are truthful exactly if nothing closes the dialogue while its field is
stale. -/
theorem answersTruthful_iff (taskId : String) (es : List Event) :
    EveryState (step taskId) Truthful {} es ↔ EveryStep (step taskId) (StaysOpen taskId) {} es := by
  have start : Truthful {} := by
    intro hmem
    cases hmem
  exact everyState_iff_everyStep (fun _ _ _ h hstep => step_truthful_iff h hstep) start es

/-- The delete fails, and the dialogue that is left on the page is closed by a tap outside. -/
theorem failed_delete_dismisses_card :
    ¬ ∀ (taskId : String) (es : List Event), EveryState (step taskId) Truthful {} es := by
  intro claim
  refine not_everyState_of_run (fun t => true ∈ t.answers && !t.deleted) ?_ ?_
    (claim "t1" [.swipe, .confirm, .reply 0 false true, .tapOutside])
  · intro t hbad h
    obtain ⟨hmem, hkept⟩ := (Bool.and_eq_true _ _).mp hbad
    rw [h (of_decide_eq_true hmem)] at hkept
    cases hkept
  · decide

end SwipedTask
