import AsmWt.Interleaving
import AsmWt.PendingCalls

/-!
# The pause between two one-time passwords

The button that asks for another password is on screen only while the counter is
zero. A request that succeeds sets the counter back to thirty and starts the
timer again, but it does so when its reply arrives, not when it is sent.
-/

namespace OtpThrottle

open Interleaving PendingCalls

/-- A request of `onResendPressed`, the ticks before it was sent, and the requests that were in
flight then. -/
structure Request where
  id : Nat
  sentAt : Nat
  inFlight : List Nat
  deriving DecidableEq

/-- The fields of the controller, and its requests; `ticks` counts what the timer has done. -/
structure State where
  counter : Nat := 30
  timer : Bool := false
  ticks : Nat := 0
  requests : Nat := 0
  calls : List Request := []
  succeeded : List Request := []

/-- `initState` runs for the first page and for any that replaces it. `verifyPhone` does the same to
counter and timer when a code has been sent. A request that fails has no status, or another. -/
inductive Event where
  | initState
  | codeSent
  | tick
  | onResendPressed
  | reply (call : Nat) (success : Bool)

/-- `counter = 30` and `startTimer`, which puts one timer in the place of any other. -/
def State.restart (s : State) : State := { s with counter := 30, timer := true }

def step (s : State) : Event → Option State
  | .initState | .codeSent => some s.restart
  | .tick =>
    if s.timer then
      if 0 < s.counter then some { s with counter := s.counter - 1, ticks := s.ticks + 1 }
      else some { s with timer := false, ticks := s.ticks + 1 }
    else none
  | .onResendPressed =>
    if s.counter = 0 then
      some { s with
        requests := s.requests + 1
        calls := ⟨s.requests, s.ticks, s.calls.map Request.id⟩ :: s.calls }
    else none
  | .reply call success => do
    let (r, rest) ← takeOut s.calls call
    return if success then
        { s with calls := rest, succeeded := r :: s.succeeded }.restart
      else { s with calls := rest }

/-- At least thirty ticks lie between two requests. -/
def Apart (r q : Request) : Prop := r.sentAt + 30 ≤ q.sentAt ∨ q.sentAt + 30 ≤ r.sentAt

/-- One request was in flight when the other was sent. -/
def Overlap (r q : Request) : Prop := q.id ∈ r.inFlight ∨ r.id ∈ q.inFlight

def Throttled (s : State) : Prop := s.succeeded.Pairwise Apart

/-- A request does not succeed after one it overlaps has, with fewer than thirty ticks between
them. -/
def SpacedOverlaps (s : State) : Event → Prop
  | .reply call true =>
    ∀ r rest, takeOut s.calls call = some (r, rest) → ∀ q ∈ s.succeeded, Overlap r q → Apart r q
  | .initState | .codeSent | .tick | .onResendPressed | .reply _ false => True

theorem Apart.symm {r q : Request} (h : Apart r q) : Apart q r := Or.symm h

theorem Overlap.symm {r q : Request} (h : Overlap r q) : Overlap q r := Or.symm h

/-- The counter covers what is missing to thirty ticks after the requests that have succeeded, so
only a request that was already in flight can come too early. -/
structure Inv (s : State) : Prop where
  counter : s.counter ≤ 30
  succeeded : ∀ q ∈ s.succeeded, q.sentAt + 30 ≤ s.ticks + s.counter
  sent : ∀ r ∈ s.calls, r.sentAt ≤ s.ticks
  calls : s.calls.Pairwise Overlap
  apart : ∀ r ∈ s.calls, ∀ q ∈ s.succeeded, ¬ Overlap r q → Apart r q

section Step

variable {s t : State}

/-- Counter and ticks may go up in place of each other, and some calls may be gone. -/
theorem Inv.congr (h : Inv s) (counter : t.counter ≤ 30)
    (grows : s.ticks + s.counter ≤ t.ticks + t.counter) (ticks : s.ticks ≤ t.ticks)
    (succeeded : t.succeeded = s.succeeded) (calls : t.calls.Sublist s.calls) : Inv t where
  counter := counter
  succeeded := by
    intro q hq
    rw [succeeded] at hq
    have := h.succeeded q hq
    omega
  sent := fun r hr => Nat.le_trans (h.sent r (calls.subset hr)) ticks
  calls := h.calls.sublist calls
  apart := by
    intro r hr q hq
    rw [succeeded] at hq
    exact h.apart r (calls.subset hr) q hq

/-- When the button is on screen, thirty ticks have passed since every request that has
succeeded. -/
theorem Inv.onResendPressed (h : Inv s) (hc : s.counter = 0)
    (hstep : step s .onResendPressed = some t) : Inv t := by
  rw [step, if_pos hc] at hstep
  cases hstep
  refine ⟨h.counter, h.succeeded, fun r hr => ?_, ?_, fun r hr q hq => ?_⟩
  · rcases List.mem_cons.mp hr with rfl | hr
    · exact Nat.le_refl _
    · exact h.sent r hr
  · refine List.pairwise_cons.mpr ⟨fun q hq => ?_, h.calls⟩
    exact Or.inl (List.mem_map.mpr ⟨q, hq, rfl⟩)
  · rcases List.mem_cons.mp hr with rfl | hr
    · intro _
      have hcovered := h.succeeded q hq
      have late : q.sentAt + 30 ≤ s.ticks := by omega
      exact Or.inr late
    · exact h.apart r hr q hq

/-- A request that succeeds sets the counter to thirty again, after which those that stay in flight
are the ones it overlaps. -/
theorem Inv.success (h : Inv s) {r : Request} {rest : List Request} {call : Nat}
    (ht : takeOut s.calls call = some (r, rest)) :
    Inv ({ s with calls := rest, succeeded := r :: s.succeeded }.restart) := by
  have hperm := takeOut_perm ht
  have hpairs := hperm.pairwise h.calls Overlap.symm
  obtain ⟨hoverlap, hrest⟩ := List.pairwise_cons.mp hpairs
  have hmem : ∀ d ∈ rest, d ∈ s.calls := fun d hd => mem_of_mem_rest ht hd
  refine ⟨Nat.le_refl _, fun q hq => ?_, fun d hd => h.sent d (hmem d hd), hrest,
    fun d hd q hq hnot => ?_⟩
  · rcases List.mem_cons.mp hq with rfl | hq
    · have := h.sent q (mem_takeOut ht)
      exact Nat.add_le_add_right this 30
    · have := h.succeeded q hq
      have := h.counter
      show q.sentAt + 30 ≤ s.ticks + 30
      omega
  · rcases List.mem_cons.mp hq with rfl | hq
    · exact absurd (hoverlap d hd).symm hnot
    · exact h.apart d (hmem d hd) q hq hnot

theorem step_inv {e : Event} (h : Inv s) (hstep : step s e = some t) : Inv t := by
  have restart : Inv s.restart := by
    have := h.counter
    exact h.congr (Nat.le_refl _) (Nat.add_le_add_left this _) (Nat.le_refl _) rfl
      (List.Sublist.refl _)
  cases e with
  | initState =>
    cases hstep
    exact restart
  | codeSent =>
    cases hstep
    exact restart
  | tick =>
    have hcounter := h.counter
    simp only [step] at hstep
    split at hstep
    · split at hstep
      · cases hstep
        refine h.congr ?_ ?_ ?_ rfl (List.Sublist.refl _)
        all_goals
          dsimp only
          omega
      · cases hstep
        refine h.congr ?_ ?_ ?_ rfl (List.Sublist.refl _)
        all_goals
          dsimp only
          omega
    · cases hstep
  | onResendPressed =>
    by_cases hc : s.counter = 0
    · exact h.onResendPressed hc hstep
    · simp only [step, hc, if_false] at hstep
      cases hstep
  | reply call success =>
    obtain ⟨⟨r, rest⟩, ht, hstep⟩ := Option.bind_eq_some_iff.mp hstep
    cases success with
    | true =>
      cases hstep
      exact h.success ht
    | false =>
      cases hstep
      refine h.congr h.counter (Nat.le_refl _) (Nat.le_refl _) rfl ?_
      obtain ⟨a, -, he⟩ := Option.map_eq_some_iff.mp ht
      cases he
      exact List.eraseIdx_sublist _ _

theorem step_throttled_iff {e : Event} (all : Throttled s) (h : Inv s)
    (hstep : step s e = some t) : Throttled t ↔ SpacedOverlaps s e := by
  have same : t.succeeded = s.succeeded → SpacedOverlaps s e →
      (Throttled t ↔ SpacedOverlaps s e) := by
    intro hs hc
    refine ⟨fun _ => hc, fun _ => ?_⟩
    rw [Throttled, hs]
    exact all
  cases e with
  | initState =>
    cases hstep
    exact same rfl trivial
  | codeSent =>
    cases hstep
    exact same rfl trivial
  | tick =>
    simp only [step] at hstep
    split at hstep
    · split at hstep
      · cases hstep
        exact same rfl trivial
      · cases hstep
        exact same rfl trivial
    · cases hstep
  | onResendPressed =>
    simp only [step] at hstep
    split at hstep
    · cases hstep
      exact same rfl trivial
    · cases hstep
  | reply call success =>
    obtain ⟨⟨r, rest⟩, ht, hstep⟩ := Option.bind_eq_some_iff.mp hstep
    cases success with
    | false =>
      cases hstep
      exact same rfl trivial
    | true =>
      cases hstep
      have hcond : SpacedOverlaps s (.reply call true) ↔
          ∀ q ∈ s.succeeded, Overlap r q → Apart r q :=
        forall_takeOut_iff (p := fun r _ => ∀ q ∈ s.succeeded, Overlap r q → Apart r q) ht
      rw [hcond]
      constructor
      · intro hall q hq _
        exact (List.pairwise_cons.mp hall).1 q hq
      · intro hspaced
        refine List.pairwise_cons.mpr ⟨fun q hq => ?_, all⟩
        by_cases hoverlap : Overlap r q
        · exact hspaced q hq hoverlap
        · exact h.apart r (mem_takeOut ht) q hq hoverlap

end Step

/-- The requests that succeed are thirty ticks apart in every state of a run exactly if those are
that were in flight together. -/
theorem throttled_iff (es : List Event) :
    EveryState step Throttled {} es ↔ EveryStep step SpacedOverlaps {} es := by
  have hinv : Inv {} := by
    refine ⟨Nat.le_refl _, ?_, ?_, List.Pairwise.nil, ?_⟩
    all_goals
      intro x hx
      cases hx
  have hall : Throttled {} := List.Pairwise.nil
  exact everyState_iff_everyStep_of_inv (fun _ _ _ _ h hstep => step_inv h hstep)
    (fun _ _ _ all h hstep => step_throttled_iff all h hstep) hall hinv es

/-- The button is tapped twice before the first reply, and both requests succeed. -/
theorem two_taps_two_passwords :
    ¬ ∀ es : List Event, EveryState step Throttled {} es := by
  intro claim
  refine not_everyState_of_run
    (fun t => t.succeeded = [⟨1, 30, [0]⟩, ⟨0, 30, []⟩]) ?_ ?_
    (claim (.initState :: List.replicate 30 .tick ++
      [.onResendPressed, .onResendPressed, .reply 1 true, .reply 0 true]))
  · intro t hbad hall
    rw [Throttled, of_decide_eq_true hbad] at hall
    have hapart := (List.pairwise_cons.mp hall).1 _ (List.mem_singleton.mpr rfl)
    rcases hapart with hapart | hapart
    · exact absurd hapart (by decide)
    · exact absurd hapart (by decide)
  · decide

end OtpThrottle
