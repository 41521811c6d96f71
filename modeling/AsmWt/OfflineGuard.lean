import AsmWt.Interleaving
import AsmWt.Employees

/-!
# The offline guard of the screens that call the backend

Each screen keeps the list of the latest connectivity report it received, from
the answer to `checkConnectivity` or from a change event. Before a backend call
it compares that list with an enum value. Equality of lists is identity in
Dart, so what matters is which object the variable holds, not its elements.
-/

namespace OfflineGuard

open Interleaving Employees

/-- `ConnectivityResult` of connectivity_plus. -/
inductive ConnectivityResult where
  | bluetooth
  | wifi
  | ethernet
  | mobile
  | none
  | vpn
  | other
  deriving DecidableEq

/-- What the operands of the guard may be. Every report is a list object of its own. -/
inductive Operand where
  | null
  | list (object : Nat) (results : List ConnectivityResult)
  | enumValue (result : ConnectivityResult)

/-- Dart's `==`: lists and enum values inherit the identity of `Object`. -/
def Operand.equals : Operand → Operand → Bool
  | .null, .null => true
  | .list a _, .list b _ => a = b
  | .enumValue r, .enumValue q => r = q
  | _, _ => false

/-- The screens with a `connectivityResult` of their own; each task card has one. -/
inductive Screen where
  | todayTask
  | login
  | taskCalendar
  | taskDismiss (taskId : String)
  deriving DecidableEq

inductive BackendCall where
  | getGeofencingAreaByOrganizationId
  | checkPhoneNumberIsExist (phoneNumber : String)
  | createUserTaskNote
  | deleteTaskNotedById (taskId : String)
  deriving DecidableEq

/-- What a press does first. -/
inductive Effect where
  | networkErrorDialog
  | itemDeleteDialogue (taskId : String)
  | showToastMessage (key : String)
  | backendCall (call : BackendCall)
  deriving DecidableEq

/-- The presses that are meant to be guarded, with what their handlers read: whether the form
is valid, the number, the planned times (a missing picker fails), the card. -/
inductive Press where
  | clockIn
  | clockOut
  | signIn (formValid isPhoneNumberValid : Bool) (phoneNumber : String)
  | create (formValid : Bool) (startDate finishDate : Option Int)
  | confirmDismiss (taskId : String)
  | confirmDelete (taskId : String)

def Press.screen : Press → Screen
  | .clockIn | .clockOut => .todayTask
  | .signIn _ _ _ => .login
  | .create _ _ _ => .taskCalendar
  | .confirmDismiss taskId | .confirmDelete taskId => .taskDismiss taskId

/-- The variables of the screens; `reports` numbers the list objects, `deleteDialogues` are the
open `itemDeleteDialogue`s. -/
structure State where
  connectivityResult : Screen → Option (Nat × List ConnectivityResult) := fun _ => none
  reports : Nat := 0
  onClockInOrClockOutPress : Bool := false
  deleteDialogues : List String := []

inductive Event where
  | initConnectivity (screen : Screen) (results : Option (List ConnectivityResult))
  | onConnectivityChanged (screen : Screen) (result : List ConnectivityResult)
  | pressHandled
  | popDialogue (taskId : String)
  | press (p : Press)

/-- `connectivityResult` as the left operand of the guard. -/
def State.operand (s : State) (screen : Screen) : Operand :=
  match s.connectivityResult screen with
  | none => .null
  | some (object, results) => .list object results

/-- `connectivityResult == ConnectivityResult.none`. -/
def State.isOffline (s : State) (screen : Screen) : Bool :=
  (s.operand screen).equals (.enumValue .none)

/-- The guard, which is written out in each handler. -/
def guardOffline (s : State) (screen : Screen) (otherwise : List Effect) : List Effect :=
  if s.isOffline screen then [.networkErrorDialog] else otherwise

def press (s : State) : Press → List Effect
  | .clockIn | .clockOut =>
    guardOffline s .todayTask [.backendCall .getGeofencingAreaByOrganizationId]
  | .signIn formValid isPhoneNumberValid phoneNumber =>
    if formValid ∧ isPhoneNumberValid then
      guardOffline s .login <|
        if ifStartWithZero phoneNumber then [.backendCall (.checkPhoneNumberIsExist phoneNumber)]
        else [.showToastMessage "permission.phone_start_with_zero"]
    else [.showToastMessage "message.invalid_phone_number"]
  | .create formValid startDate finishDate =>
    if formValid then
      guardOffline s .taskCalendar <|
        match startDate, finishDate with
        | some startDate, some finishDate =>
          if startDate < finishDate then [.backendCall .createUserTaskNote]
          else [.showToastMessage "message.went_wrong"]
        -- `startTimePicker!` or `finishTimePicker!` throws
        | _, _ => []
    else []
  | .confirmDismiss taskId => guardOffline s (.taskDismiss taskId) [.itemDeleteDialogue taskId]
  | .confirmDelete taskId => [.backendCall (.deleteTaskNotedById taskId)]

def State.receive (s : State) (screen : Screen) (results : List ConnectivityResult) : State :=
  { s with
    connectivityResult := fun other =>
      if other = screen then some (s.reports, results) else s.connectivityResult other
    reports := s.reports + 1 }

/-- Whether the button is there and enabled. -/
def State.enabled (s : State) : Press → Bool
  | .clockIn | .clockOut => !s.onClockInOrClockOutPress
  | .confirmDelete taskId => s.deleteDialogues.contains taskId
  | .signIn _ _ _ | .create _ _ _ | .confirmDismiss _ => true

def State.afterPress (s : State) : Press → State
  | .clockOut => { s with onClockInOrClockOutPress := true }
  | .confirmDismiss taskId =>
    if s.isOffline (.taskDismiss taskId) then s
    else { s with deleteDialogues := taskId :: s.deleteDialogues }
  | .clockIn | .signIn _ _ _ | .create _ _ _ | .confirmDelete _ => s

def step (s : State) : Event → Option State
  -- a `PlatformException` leaves the variable alone
  | .initConnectivity _ none => some s
  | .initConnectivity screen (some results) => some (s.receive screen results)
  | .onConnectivityChanged screen result => some (s.receive screen result)
  | .pressHandled => some { s with onClockInOrClockOutPress := false }
  | .popDialogue taskId => some { s with deleteDialogues := s.deleteDialogues.erase taskId }
  | .press p => if s.enabled p then some (s.afterPress p) else none

/-- The report an event brings to a screen. -/
def reported (screen : Screen) : Event → Option (List ConnectivityResult)
  | .initConnectivity other results => if other = screen then results else none
  | .onConnectivityChanged other result => if other = screen then some result else none
  | .pressHandled | .popDialogue _ | .press _ => none

/-- The latest report a screen has received in a run. -/
def latestReport (screen : Screen) (es : List Event) : Option (List ConnectivityResult) :=
  es.foldl (fun latest e => (reported screen e).or latest) none

/-- A press is kept off the backend, and the user is told why. -/
structure Guarded (s : State) (p : Press) : Prop where
  noCall : ∀ call, Effect.backendCall call ∉ press s p
  dialog : Effect.networkErrorDialog ∈ press s p

/-- What is typed and picked passes the checks of the handler itself, and the handler is one
that calls the backend at once: the swipe first asks. -/
def Press.Accepted : Press → Prop
  | .clockIn | .clockOut | .confirmDelete _ => True
  | .signIn formValid isPhoneNumberValid phoneNumber =>
    formValid = true ∧ isPhoneNumberValid = true ∧ ifStartWithZero phoneNumber = true
  | .create formValid startDate finishDate =>
    formValid = true ∧ ∃ start finish, startDate = some start ∧ finishDate = some finish ∧
      start < finish
  | .confirmDismiss _ => False

/-- Neither null nor a list is identical to an enum value. -/
theorem isOffline_eq_false (s : State) (screen : Screen) : s.isOffline screen = false := by
  unfold State.isOffline State.operand
  cases s.connectivityResult screen <;> rfl

theorem guardOffline_eq (s : State) (screen : Screen) (otherwise : List Effect) :
    guardOffline s screen otherwise = otherwise := by
  rw [guardOffline, isOffline_eq_false]
  rfl

theorem reported_of_step {s t : State} {e : Event} (h : step s e = some t) (screen : Screen) :
    (t.connectivityResult screen).map Prod.snd =
      (reported screen e).or ((s.connectivityResult screen).map Prod.snd) := by
  have received : ∀ other results,
      ((s.receive other results).connectivityResult screen).map Prod.snd =
        (if other = screen then some results else none).or
          ((s.connectivityResult screen).map Prod.snd) := by
    intro other results
    by_cases ho : screen = other
    · simp [State.receive, ho]
    · simp [State.receive, ho, Ne.symm ho]
  cases e with
  | initConnectivity other results =>
    cases results with
    | none =>
      cases h
      simp [reported]
    | some results =>
      cases h
      exact received other results
  | onConnectivityChanged other result =>
    cases h
    exact received other result
  | pressHandled =>
    cases h
    rfl
  | popDialogue taskId =>
    cases h
    rfl
  | press p =>
    simp only [step] at h
    split at h
    · cases h
      cases p with
      | confirmDismiss taskId =>
        rw [State.afterPress, isOffline_eq_false]
        rfl
      | _ => rfl
    · cases h

/-- The variable of a screen does hold the latest report it received. -/
theorem connectivityResult_of_run {es : List Event} {s : State} (hr : run step {} es = some s)
    (screen : Screen) :
    (s.connectivityResult screen).map Prod.snd = latestReport screen es := by
  have general : ∀ (es : List Event) (r : State), run step r es = some s →
      (s.connectivityResult screen).map Prod.snd =
        es.foldl (fun latest e => (reported screen e).or latest)
          ((r.connectivityResult screen).map Prod.snd) := by
    intro es
    induction es with
    | nil =>
      intro r hr
      cases hr
      rfl
    | cons e es ih =>
      intro r hr
      obtain ⟨t, ht, hr⟩ := Option.bind_eq_some_iff.mp hr
      rw [List.foldl_cons, ← reported_of_step ht]
      exact ih t hr
  exact general es {} hr

theorem dialog_not_mem (s : State) (p : Press) : Effect.networkErrorDialog ∉ press s p := by
  cases p with
  | signIn formValid isPhoneNumberValid phoneNumber =>
    simp only [press, guardOffline_eq]
    split
    · split <;> simp
    · simp
  | create formValid startDate finishDate =>
    simp only [press, guardOffline_eq]
    split
    · split
      · split <;> simp
      · simp
    · simp
  | _ => simp [press, guardOffline_eq]

/-- A press reaches the backend as if the device were online. -/
theorem calls_iff (s : State) (p : Press) :
    (∃ call, Effect.backendCall call ∈ press s p) ↔ p.Accepted := by
  cases p with
  | signIn formValid isPhoneNumberValid phoneNumber =>
    simp only [press, guardOffline_eq, Press.Accepted]
    by_cases hform : formValid = true ∧ isPhoneNumberValid = true
    · rw [if_pos hform]
      split
      · case isTrue hphone => simp [hform, hphone]
      · case isFalse hphone => simp [hphone]
    · rw [if_neg hform]
      simp only [List.mem_singleton, reduceCtorEq, exists_false, false_iff]
      exact fun h => hform ⟨h.1, h.2.1⟩
  | create formValid startDate finishDate =>
    simp only [press, guardOffline_eq, Press.Accepted]
    by_cases hform : formValid = true
    · rw [if_pos hform]
      cases startDate with
      | none => simp
      | some start =>
        cases finishDate with
        | none => simp
        | some finish =>
          by_cases hlt : start < finish
          · simp [hform, hlt]
          · simp [hlt]
    · simp [hform]
  | _ => simp [press, guardOffline_eq, Press.Accepted]

/-- Whatever reports have arrived, a press on a screen whose latest report is offline is not
guarded: the screen holds that report, shows no dialog, and calls the backend whenever its other
checks pass. -/
theorem offline_press_not_guarded {es : List Event} {s : State} {p : Press}
    (hr : run step {} es = some s) (offline : latestReport p.screen es = some [.none]) :
    (s.connectivityResult p.screen).map Prod.snd = some [.none] ∧ ¬ Guarded s p ∧
      ((∃ call, Effect.backendCall call ∈ press s p) ↔ p.Accepted) := by
  refine ⟨?_, fun h => dialog_not_mem s p h.dialog, calls_iff s p⟩
  rw [connectivityResult_of_run hr, offline]

/-- The device is online when the page opens and goes offline after that. -/
def goesOffline : List Event :=
  [.initConnectivity .todayTask (some [.wifi]), .onConnectivityChanged .todayTask [.none]]

/-- What the page holds then. -/
def offlineState : State :=
  (({} : State).receive .todayTask [.wifi]).receive .todayTask [.none]

theorem offline_press_not_guarded_clockIn :
    run step {} goesOffline = some offlineState ∧
      latestReport Press.clockIn.screen goesOffline = some [.none] ∧
      ¬ Guarded offlineState .clockIn ∧
      ∃ call, Effect.backendCall call ∈ press offlineState .clockIn := by
  have hr : run step {} goesOffline = some offlineState := rfl
  have offline : latestReport Press.clockIn.screen goesOffline = some [.none] := by decide
  obtain ⟨-, unguarded, calls⟩ := offline_press_not_guarded (p := .clockIn) hr offline
  exact ⟨hr, offline, unguarded, calls.mpr trivial⟩

/-- Clocking in offline asks the server for the geofences. -/
theorem offline_clock_in_calls_backend :
    ¬ ∀ (es : List Event) (s t : State) (p : Press), run step {} es = some s →
        latestReport p.screen es = some [.none] → step s (.press p) = some t → Guarded s p := by
  intro claim
  have guarded := claim goesOffline offlineState offlineState .clockIn rfl (by decide) rfl
  exact guarded.noCall .getGeofencingAreaByOrganizationId (by decide)

end OfflineGuard
