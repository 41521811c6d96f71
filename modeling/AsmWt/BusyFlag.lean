import AsmWt.Interleaving
import AsmWt.PendingCalls
import AsmWt.ClockProcess

/-!
# The busy flag of the clock buttons

`onClockInOrClockOutPress` disables both buttons of `TodayTaskView`. The view
sets it before a clock-out only, and the handlers clear it once the position has
arrived. A handler that fails before that ends without touching it.
-/

namespace BusyFlag

open ClockProcess Interleaving PendingCalls

/-- `LocationPermission` of geolocator. -/
inductive LocationPermission where
  | denied
  | deniedForever
  | whileInUse
  | always
  | unableToDetermine
  deriving DecidableEq

/-- What `http.get` answers to the request for the geofences: an error, or a response whose body
may not decode; of each geofence it is known whether its own JSON decodes. -/
inductive GeofenceReply where
  | clientError
  | response (statusCode : Nat) (data : Option (List Bool))

/-- The status `getGeofencingAreaByOrganizationId` returns; `none` is an exception. -/
def getGeofencingAreaByOrganizationId : GeofenceReply → Option String
  -- the handler of `catchError` returns no response, which is an error of its own
  | .clientError => none
  | .response statusCode data =>
    if statusCode = 200 then
      match data with
      | none => none
      | some [] => some "E"
      | some (area :: areas) => if (area :: areas).all id then some "S" else none
    else some "E"

/-- What a press waits for, from the geofences to the position. -/
inductive Call where
  | getGeofencingArea
  | isLocationServiceEnabled
  | checkPermission
  | showCustomPermissionDialog
  | requestPermission
  | getLastKnownPosition
  deriving DecidableEq

inductive Reply where
  | exception
  | geofences (reply : GeofenceReply)
  | serviceEnabled (enabled : Bool)
  | permission (permission : LocationPermission)
  | dialogClosed
  | position (known : Bool)

/-- The flag, and the calls of the presses that are being handled. -/
structure State where
  onClockInOrClockOutPress : Bool := false
  calls : List Call := []

inductive Event where
  | press (button : ClockEvent)
  | acceptPermissionDialog
  | resume (call : Nat) (r : Reply)

def State.await (s : State) (c : Call) : State := { s with calls := c :: s.calls }

/-- `determinePosition` once the permission is known. -/
def afterPermission (s : State) : LocationPermission → State
  -- the handler ends with the error of `Future.error`
  | .denied | .deniedForever => s
  | .whileInUse | .always | .unableToDetermine => s.await .getLastKnownPosition

/-- What `onClockInPressed` and `onClockOutPressed` do after a call that is no longer in flight. -/
def resume (isAndroid : Bool) (s : State) : Call → Reply → Option State
  | .showCustomPermissionDialog, .exception => none
  | _, .exception => some s
  | .getGeofencingArea, .geofences reply =>
    match getGeofencingAreaByOrganizationId reply with
    | none => some s
    | some status => some (if status = "S" then s.await .isLocationServiceEnabled else s)
  | .isLocationServiceEnabled, .serviceEnabled enabled =>
    some (if enabled then s.await .checkPermission else s)
  | .checkPermission, .permission permission =>
    if permission = .denied then
      some (s.await (if isAndroid then .showCustomPermissionDialog else .requestPermission))
    else some (afterPermission s permission)
  -- `permission` is not read again, so it is still `denied`
  | .showCustomPermissionDialog, .dialogClosed => some (afterPermission s .denied)
  | .requestPermission, .permission permission => some (afterPermission s permission)
  | .getLastKnownPosition, .position _ => some { s with onClockInOrClockOutPress := false }
  | _, _ => none

def step (isAndroid : Bool) (s : State) : Event → Option State
  | .press button =>
    if s.onClockInOrClockOutPress then none
    else
      match button with
      | .clockIn => some (s.await .getGeofencingArea)
      | .clockOut =>
        some (State.await { s with onClockInOrClockOutPress := true } .getGeofencingArea)
  | .acceptPermissionDialog =>
    if .showCustomPermissionDialog ∈ s.calls then some { s with onClockInOrClockOutPress := false }
    else none
  | .resume call r => do
    let (c, rest) ← takeOut s.calls call
    resume isAndroid { s with calls := rest } c r

/-- The flag is set exactly while a press is being handled, and only one is at a time. -/
structure FlagIsBusy (s : State) : Prop where
  exactly : s.onClockInOrClockOutPress = true ↔ s.calls ≠ []
  single : s.calls.length ≤ 1

/-- A reply that lets a handler go on, or gives it the position it needs to end in order. -/
def Succeeds : Call → Reply → Prop
  | .getGeofencingArea, .geofences reply => getGeofencingAreaByOrganizationId reply = some "S"
  | .isLocationServiceEnabled, .serviceEnabled enabled => enabled = true
  -- a permission that is only denied is asked for
  | .checkPermission, .permission permission => permission ≠ .deniedForever
  | .requestPermission, .permission permission =>
    permission ≠ .denied ∧ permission ≠ .deniedForever
  | .getLastKnownPosition, .position _ => True
  | _, _ => False

/-- Only clock-outs are pressed, and what they wait for succeeds. -/
def Completes (s : State) : Event → Prop
  | .press button => button = .clockOut
  | .acceptPermissionDialog => False
  | .resume call r => ∀ c rest, takeOut s.calls call = some (c, rest) → Succeeds c r

/-- A press that is being handled. -/
theorem flagIsBusy_await (c : Call) :
    FlagIsBusy { onClockInOrClockOutPress := true, calls := [c] } := by
  constructor
  · simp
  · exact Nat.le_refl 1

/-- The buttons of a handler that ended without clearing the flag. -/
theorem not_flagIsBusy_dead : ¬ FlagIsBusy { onClockInOrClockOutPress := true } := by
  intro h
  exact h.exactly.mp rfl rfl

theorem flagIsBusy_idle : FlagIsBusy {} := by
  constructor
  · simp
  · exact Nat.zero_le 1

/-- While a press is handled it is the only one, and the flag is set. -/
theorem FlagIsBusy.takeOut {s : State} (h : FlagIsBusy s) {i : Nat} {c : Call} {rest : List Call}
    (ht : takeOut s.calls i = some (c, rest)) : s.onClockInOrClockOutPress = true ∧ rest = [] := by
  have hperm := takeOut_perm ht
  have hlength : rest.length + 1 = s.calls.length := by
    rw [hperm.length_eq, List.length_cons]
  have hsingle := h.single
  refine ⟨h.exactly.mpr ?_, List.eq_nil_of_length_eq_zero (by omega)⟩
  intro hnil
  rw [hnil] at hlength
  cases hlength

theorem afterPermission_busy_iff (permission : LocationPermission) :
    FlagIsBusy (afterPermission { onClockInOrClockOutPress := true } permission) ↔
      permission ≠ .denied ∧ permission ≠ .deniedForever := by
  cases permission with
  | denied => simp [afterPermission, not_flagIsBusy_dead]
  | deniedForever => simp [afterPermission, not_flagIsBusy_dead]
  | _ => simp [afterPermission, State.await, flagIsBusy_await]

/-- What follows a reply keeps the flag right iff the reply is a success. -/
theorem resume_busy_iff {isAndroid : Bool} {c : Call} {r : Reply} {t : State}
    (h : resume isAndroid { onClockInOrClockOutPress := true } c r = some t) :
    FlagIsBusy t ↔ Succeeds c r := by
  have failed : ∀ {p : Prop}, ¬ p → some { onClockInOrClockOutPress := true } = some t →
      (FlagIsBusy t ↔ p) := by
    rintro p hp ⟨⟩
    exact ⟨fun hb => absurd hb not_flagIsBusy_dead, fun hp' => absurd hp' hp⟩
  cases c with
  | getGeofencingArea =>
    cases r with
    | exception => exact failed id h
    | geofences reply =>
      simp only [resume] at h
      cases hstatus : getGeofencingAreaByOrganizationId reply with
      | none =>
        rw [hstatus] at h
        exact failed (by simp [Succeeds, hstatus]) h
      | some status =>
        rw [hstatus] at h
        by_cases hS : status = "S"
        · simp only [hS, if_true] at h
          cases h
          exact ⟨fun _ => hstatus.trans (congrArg some hS), fun _ => flagIsBusy_await _⟩
        · simp only [hS, if_false] at h
          exact failed (by simp [Succeeds, hstatus, hS]) h
    | _ => cases h
  | isLocationServiceEnabled =>
    cases r with
    | exception => exact failed id h
    | serviceEnabled enabled =>
      cases enabled with
      | false => exact failed (by simp [Succeeds]) h
      | true =>
        cases h
        exact ⟨fun _ => rfl, fun _ => flagIsBusy_await _⟩
    | _ => cases h
  | checkPermission =>
    cases r with
    | exception => exact failed id h
    | permission permission =>
      by_cases hdenied : permission = .denied
      · simp only [resume, hdenied, if_true] at h
        cases h
        refine ⟨fun _ => ?_, fun _ => flagIsBusy_await _⟩
        simp [Succeeds, hdenied]
      · simp only [resume, if_neg hdenied] at h
        cases h
        rw [afterPermission_busy_iff]
        simp [Succeeds, hdenied]
    | _ => cases h
  | showCustomPermissionDialog =>
    cases r with
    | dialogClosed => exact failed id h
    | _ => cases h
  | requestPermission =>
    cases r with
    | exception => exact failed id h
    | permission permission =>
      cases h
      exact afterPermission_busy_iff permission
    | _ => cases h
  | getLastKnownPosition =>
    cases r with
    | exception => exact failed id h
    | position known =>
      cases h
      exact iff_of_true flagIsBusy_idle trivial
    | _ => cases h

theorem step_busy_iff {isAndroid : Bool} {s t : State} {e : Event} (h : FlagIsBusy s)
    (hstep : step isAndroid s e = some t) : FlagIsBusy t ↔ Completes s e := by
  obtain ⟨flag, calls⟩ := s
  cases e with
  | press button =>
    cases flag with
    | true => cases hstep
    | false =>
      have idle : calls = [] := by
        by_contra hne
        exact Bool.noConfusion (h.exactly.mpr hne)
      subst idle
      cases button with
      | clockIn =>
        cases hstep
        constructor
        · intro busy
          exact Bool.noConfusion (busy.exactly.mpr (List.cons_ne_nil _ _))
        · intro hc
          cases hc
      | clockOut =>
        cases hstep
        exact ⟨fun _ => rfl, fun _ => flagIsBusy_await _⟩
  | acceptPermissionDialog =>
    simp only [step] at hstep
    split at hstep
    · case isTrue hopen =>
      cases hstep
      refine ⟨fun busy => ?_, False.elim⟩
      exact Bool.noConfusion (busy.exactly.mpr (List.ne_nil_of_mem hopen))
    · cases hstep
  | resume call r =>
    obtain ⟨⟨c, rest⟩, ht, hstep⟩ := Option.bind_eq_some_iff.mp hstep
    obtain ⟨rfl, rfl⟩ := h.takeOut ht
    rw [resume_busy_iff hstep]
    exact (forall_takeOut_iff (p := fun c _ => Succeeds c r) ht).symm

/-- The flag is right in every state of a run exactly when only clock-outs are pressed and every
call they wait for succeeds. -/
theorem flag_is_busy_iff (isAndroid : Bool) (es : List Event) :
    EveryState (step isAndroid) FlagIsBusy {} es ↔ EveryStep (step isAndroid) Completes {} es :=
  everyState_iff_everyStep (fun _ _ _ h hstep => step_busy_iff h hstep) flagIsBusy_idle es

/-- The server answers a clock-out with an error: the flag stays set and no button works. -/
theorem failed_clock_out_leaves_buttons_dead :
    ¬ ∀ (isAndroid : Bool) (es : List Event),
        EveryState (step isAndroid) FlagIsBusy {} es := by
  intro claim
  refine not_everyState_of_run
    (fun t => t.onClockInOrClockOutPress ∧ t.calls = []) ?_ ?_
    (claim true [.press .clockOut, .resume 0 (.geofences (.response 500 none))])
  · intro t hbad h
    obtain ⟨hflag, hcalls⟩ := of_decide_eq_true hbad
    exact h.exactly.mp hflag hcalls
  · decide

end BusyFlag
