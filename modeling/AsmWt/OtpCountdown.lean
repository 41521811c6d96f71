import AsmWt.OtpThrottle

/-!
# The countdown to the next one-time password

One controller serves all pages of the second step. Its timer takes the counter
down to zero, second by second, and is cancelled one second later; everything
that sets the counter back starts another timer in its place.
-/

namespace OtpCountdown

open Interleaving

/-- The fields of the controller, and its timers that are not cancelled, numbered as they were
started; `opened` says that there has been a page. -/
structure State where
  counter : Int := 30
  timer : Option Nat := none
  started : Nat := 0
  running : List Nat := []
  opened : Bool := false

/-- Requests succeed or not. Whether `setState` runs what it is given is up to its page: a
controller that has no page, or whose page is gone, sets nothing. -/
inductive Event where
  | initState
  | onResendPressed (success ran : Bool)
  | codeSent (isResentCode ran : Bool)
  | verificationFailed (success ran : Bool)
  | tick (timer : Nat) (ran : Bool)

namespace State

def cancel (s : State) (timer : Nat) : State :=
  { s with running := s.running.filter (· ≠ timer) }

def startTimer (s : State) : State :=
  let running := match s.timer with
    | none => s.running
    | some timer => (s.cancel timer).running
  { s with
    timer := some s.started
    started := s.started + 1
    running := running ++ [s.started] }

def setState (s : State) (ran : Bool) (f : State → State) : State := if ran then f s else s

/-- `counter = 30` in a `setState`, and `startTimer`. -/
def restart (s : State) (ran : Bool) : State :=
  (s.setState ran fun s => { s with counter := 30 }).startTimer

/-- The callback of a timer, which knows the timer it belongs to. -/
def onTick (s : State) (timer : Nat) : State :=
  if 0 < s.counter then { s with counter := s.counter - 1 } else s.cancel timer

end State

def step (s : State) : Event → Option State
  | .initState => some ({ s with counter := 30, opened := true } : State).startTimer
  | .onResendPressed success ran | .codeSent success ran | .verificationFailed success ran =>
    some (if success then s.restart ran else s)
  | .tick timer ran =>
    if timer ∈ s.running then some (s.setState ran fun s => s.onTick timer) else none

def Event.isReset : Event → Bool
  | .initState => true
  | .onResendPressed success _ | .codeSent success _ | .verificationFailed success _ => success
  | .tick _ _ => false

/-- The ticks that reach a page. -/
def ticks (es : List Event) : Nat :=
  es.countP fun
    | .tick _ ran => ran
    | _ => false

/-- The counter stays in its range, there is one timer at most, and one that runs as long as a page
counts; without a reset the counter is at zero, where the button is shown, after 30 ticks, and these
can come. -/
structure Sound (s : State) : Prop where
  range : 0 ≤ s.counter ∧ s.counter ≤ 30
  oneTimer : s.running.length ≤ 1
  counts : s.opened = true → 0 < s.counter → s.running.length = 1
  available : ∀ es t, (∀ e ∈ es, e.isReset = false) → run step s es = some t → 30 ≤ ticks es →
    t.counter = 0
  comes : s.opened = true → ∃ es t, (∀ e ∈ es, e.isReset = false) ∧ ticks es ≤ 30 ∧
    run step s es = some t ∧ t.counter = 0

section Countdown

variable {s t : State}

/-- The timer of the field is the only one that may run, and it does while a page counts. -/
structure Inv (s : State) : Prop where
  range : 0 ≤ s.counter ∧ s.counter ≤ 30
  running : s.running = [] ∨ ∃ timer, s.timer = some timer ∧ s.running = [timer]
  counts : s.opened = true → 0 < s.counter → s.running ≠ []

theorem Inv.running_eq (h : Inv s) {timer : Nat} (ht : timer ∈ s.running) :
    s.running = [timer] := by
  rcases h.running with stopped | ⟨timer', -, one⟩
  · rw [stopped] at ht
    cases ht
  · rw [one] at ht
    cases List.mem_singleton.mp ht
    exact one

theorem Inv.exists_running (h : Inv s) (runs : s.running ≠ []) : ∃ timer, s.running = [timer] := by
  rcases h.running with stopped | ⟨timer, -, one⟩
  · exact absurd stopped runs
  · exact ⟨timer, one⟩

/-- A timer takes the place of the one there is. -/
theorem inv_startTimer (range : 0 ≤ s.counter ∧ s.counter ≤ 30)
    (running : s.running = [] ∨ ∃ timer, s.timer = some timer ∧ s.running = [timer]) :
    Inv s.startTimer := by
  have one : s.startTimer.running = [s.started] := by
    rcases running with stopped | ⟨timer, field, one⟩
    · cases hf : s.timer with
      | none => simp [State.startTimer, hf, stopped]
      | some timer => simp [State.startTimer, hf, State.cancel, stopped]
    · simp [State.startTimer, field, State.cancel, one]
  refine ⟨range, Or.inr ⟨s.started, rfl, one⟩, fun _ _ => ?_⟩
  rw [one]
  exact List.cons_ne_nil _ _

theorem Inv.restart (h : Inv s) (ran : Bool) : Inv (s.restart ran) := by
  cases ran with
  | false => exact inv_startTimer h.range h.running
  | true => exact inv_startTimer (show (0 : Int) ≤ 30 ∧ (30 : Int) ≤ 30 by decide) h.running

theorem Inv.onTick (h : Inv s) {timer : Nat} (ht : timer ∈ s.running) : Inv (s.onTick timer) := by
  have one := h.running_eq ht
  rw [State.onTick]
  split
  · case isTrue counting =>
    have range := h.range
    have down : 0 ≤ s.counter - 1 ∧ s.counter - 1 ≤ 30 := by omega
    refine ⟨down, h.running, fun _ _ => ?_⟩
    rw [one]
    exact List.cons_ne_nil _ _
  · case isFalse zero =>
    refine ⟨h.range, Or.inl ?_, fun _ counting => absurd counting zero⟩
    simp [State.cancel, one]

theorem step_inv {e : Event} (h : Inv s) (hstep : step s e = some t) : Inv t := by
  have restarted (success ran : Bool) : Inv (if success then s.restart ran else s) := by
    split
    · exact h.restart ran
    · exact h
  cases e with
  | initState =>
    cases hstep
    exact inv_startTimer (show (0 : Int) ≤ 30 ∧ (30 : Int) ≤ 30 by decide) h.running
  | onResendPressed success ran =>
    cases hstep
    exact restarted success ran
  | codeSent isResentCode ran =>
    cases hstep
    exact restarted isResentCode ran
  | verificationFailed success ran =>
    cases hstep
    exact restarted success ran
  | tick timer ran =>
    obtain ⟨ht, hstep⟩ := Option.ite_none_right_eq_some.mp hstep
    cases hstep
    cases ran with
    | false => exact h
    | true => exact h.onTick ht

/-- Without a reset the counter goes down with the ticks that reach a page, to zero. -/
theorem counter_of_run {es : List Event} (positive : 0 ≤ s.counter)
    (noReset : ∀ e ∈ es, e.isReset = false) (hr : run step s es = some t) :
    t.counter = max 0 (s.counter - ticks es) := by
  induction es generalizing s with
  | nil =>
    cases hr
    rw [ticks, List.countP_nil]
    omega
  | cons e es ih =>
    obtain ⟨u, hu, hr⟩ := Option.bind_eq_some_iff.mp hr
    obtain ⟨he, rest⟩ := List.forall_mem_cons.mp noReset
    cases e with
    | initState => cases he
    | tick timer ran =>
      obtain ⟨-, hu⟩ := Option.ite_none_right_eq_some.mp hu
      cases hu
      cases ran with
      | false =>
        have same : ticks (.tick timer false :: es) = ticks es := rfl
        rw [same]
        exact ih positive rest hr
      | true =>
        have one : ticks (.tick timer true :: es) = ticks es + 1 := by simp [ticks]
        have down : (s.onTick timer).counter = max 0 (s.counter - 1) := by
          rw [State.onTick]
          split
          · simp only
            omega
          · simp only [State.cancel]
            omega
        rw [ih (show 0 ≤ (s.onTick timer).counter by omega) rest hr, down, one]
        omega
    | _ =>
      cases he
      cases hu
      exact ih positive rest hr

/-- A timer that keeps ticking takes the counter to zero. -/
theorem run_ticks {timer : Nat} (n : Nat) (one : s.running = [timer]) (hn : s.counter = n) :
    ∃ t, run step s (List.replicate n (.tick timer true)) = some t ∧ t.counter = 0 := by
  induction n generalizing s with
  | zero => exact ⟨s, rfl, hn⟩
  | succ n ih =>
    have down : step s (.tick timer true) = some { s with counter := n } := by
      have counting : 0 < s.counter := by omega
      have next : s.counter - 1 = n := by omega
      simp [step, one, State.setState, State.onTick, counting, next]
    obtain ⟨t, hr, zero⟩ := @ih { s with counter := n } one rfl
    refine ⟨t, ?_, zero⟩
    rw [List.replicate_succ, run, down, Option.bind_some, hr]

theorem Inv.sound (h : Inv s) : Sound s where
  range := h.range
  oneTimer := by
    rcases h.running with stopped | ⟨timer, -, one⟩
    · simp [stopped]
    · simp [one]
  counts := by
    intro opened counting
    obtain ⟨timer, one⟩ := h.exists_running (h.counts opened counting)
    simp [one]
  available := by
    intro es t noReset hr enough
    have := h.range
    rw [counter_of_run h.range.1 noReset hr]
    omega
  comes := by
    intro opened
    by_cases zero : s.counter = 0
    · exact ⟨[], s, List.forall_mem_nil _, by decide, rfl, zero⟩
    · have := h.range
      obtain ⟨timer, one⟩ := h.exists_running (h.counts opened (by omega))
      obtain ⟨t, hr, done⟩ := run_ticks s.counter.toNat one (by omega)
      refine ⟨_, t, ?_, ?_, hr, done⟩
      · intro e he
        rw [List.eq_of_mem_replicate he]
        rfl
      · rw [ticks, List.countP_replicate]
        simp only [if_true]
        omega

theorem inv_start : Inv {} := ⟨by decide, Or.inl rfl, fun opened => nomatch opened⟩

/-- The countdown is sound in every state of every run. -/
theorem countdown_sound (es : List Event) : EveryState step Sound {} es :=
  (everyState_of_inv (fun _ _ _ h ht => step_inv h ht) inv_start es).mono fun _ h => h.sound

/-- Counter and timer as the throttle of the requests has them. -/
structure Represents (u : OtpThrottle.State) (s : State) : Prop where
  counter : s.counter = u.counter
  timer : u.timer = true ↔ s.running ≠ []

theorem represents_startTimer {u : OtpThrottle.State} (hc : s.counter = 30) :
    Represents u.restart s.startTimer := by
  have runs : s.startTimer.running ≠ [] := by simp [State.startTimer]
  exact ⟨hc, fun _ => runs, fun _ => rfl⟩

/-- The throttle leaves out which timer runs, which is safe, since there is one at most. -/
theorem step_represents {u v : OtpThrottle.State} {e : OtpThrottle.Event}
    (h : Inv s ∧ Represents u s) (hu : OtpThrottle.step u e = some v) :
    ∃ es t, run step s es = some t ∧ Inv t ∧ Represents v t := by
  obtain ⟨inv, rep⟩ := h
  have one {e : Event} {t : State} (ht : step s e = some t) (hrep : Represents v t) :
      ∃ es t, run step s es = some t ∧ Inv t ∧ Represents v t :=
    ⟨[e], t, by rw [run, ht]; rfl, step_inv inv ht, hrep⟩
  have still (same : v.counter = u.counter ∧ v.timer = u.timer) :
      ∃ es t, run step s es = some t ∧ Inv t ∧ Represents v t := by
    refine ⟨[], s, rfl, inv, ?_, ?_⟩
    · rw [same.1, rep.counter]
    · rw [same.2, rep.timer]
  cases e with
  | initState =>
    cases hu
    exact one (e := .initState) rfl (represents_startTimer rfl)
  | codeSent =>
    cases hu
    exact one (e := .codeSent true true) rfl (represents_startTimer rfl)
  | tick =>
    obtain ⟨ticking, hu⟩ := Option.ite_none_right_eq_some.mp hu
    obtain ⟨timer, running⟩ := inv.exists_running (rep.timer.mp ticking)
    have ticks : step s (.tick timer true) = some (s.onTick timer) := by
      simp [step, running, State.setState]
    refine one ticks ?_
    have same := rep.counter
    split at hu
    · case isTrue counting =>
      cases hu
      have down : s.counter - 1 = (u.counter - 1 : Nat) := by omega
      rw [State.onTick, if_pos (show 0 < s.counter by omega)]
      exact ⟨down, rep.timer⟩
    · case isFalse zero =>
      cases hu
      rw [State.onTick, if_neg (show ¬ 0 < s.counter by omega)]
      exact ⟨same, by simp [State.cancel, running]⟩
  | onResendPressed =>
    obtain ⟨-, hu⟩ := Option.ite_none_right_eq_some.mp hu
    cases hu
    exact still ⟨rfl, rfl⟩
  | reply call success =>
    obtain ⟨⟨r, rest⟩, -, hu⟩ := Option.bind_eq_some_iff.mp hu
    cases hu
    cases success with
    | false => exact still ⟨rfl, rfl⟩
    | true => exact one (e := .onResendPressed true true) rfl (represents_startTimer rfl)

/-- Every state of the throttle stands for one of the countdown. -/
theorem run_represents {u : OtpThrottle.State} {es : List OtpThrottle.Event}
    (hr : run OtpThrottle.step {} es = some u) :
    ∃ es' t, run step {} es' = some t ∧ Represents u t := by
  have start : Represents {} {} := ⟨rfl, by simp⟩
  obtain ⟨es', t, ht, -, hrep⟩ :=
    run_followed (R := fun u s => Inv s ∧ Represents u s)
      (fun _ _ _ _ h hstep => step_represents h hstep) ⟨inv_start, start⟩ hr
  exact ⟨es', t, ht, hrep⟩

end Countdown

end OtpCountdown
