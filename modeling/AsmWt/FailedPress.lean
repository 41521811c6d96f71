import AsmWt.LocationEvidence

/-!
# A clock press that fails

The confirm button of a sheet fills in the model of the page in two goes: the
position and the remark after the check of the geofence, the rest once the
server time is there. Whether the model is stored is known only after that, and
nothing puts it back when it is not.
-/

namespace FailedPress

open Firestore TasksModel ClockProcess LocationEvidence

/-- The outcome of `confirmInGeofencingArea`: `malformed` is a list whose decoding fails, `failed`
an exception or the reply of a server that is not well. -/
inductive Check where
  | inside (areas : List (AreaModel String))
  | outside
  | malformed
  | failed

/-- A press of the confirm button and what its calls come to: the position, or the error of
`determinePosition`; the check; whether the dialog shown outside the areas is confirmed; the server
time, unless `NTP.now` throws; the answers of the counter and of Firestore. -/
structure Attempt where
  command : Option String := none
  position : Option (Option GeoPoint)
  check : Check
  dialogConfirmed : Bool := false
  serverTimeNow : Option Int := none
  counter : Bool := true
  updateData : Bool := true

/-- The sheet comes up if the list of geofences, a first position and a server time are there; its
confirm button may then be pressed any number of times. -/
structure Press where
  getGeofencingArea : Bool := true
  determinePosition : Bool := true
  ntpNow : Bool := true
  attempts : List Attempt

/-- Whether the status of the result is `S`. -/
def succeeds (taskId : Option String) (updateData : Bool) : Bool :=
  (updateTaskStatusByTaskId taskId fun _ => if updateData then some () else none).isSome

/-- `clockInProcess` or `clockOutProcess`: the model it leaves and, if it comes to its end, whether
it was stored. The answer of the counter is not looked at. -/
def process (kind : ClockEvent) (m : TaskModel) (a : Attempt) (areas : List (AreaModel String)) :
    TaskModel × Option Bool :=
  match a.serverTimeNow with
  | none => (m, none)
  | some serverTimeNow =>
    match processModel kind m serverTimeNow (some (areaNames areas .en))
        (some (areaNames areas .th)) with
    | none => (m, none)
    | some m' => (m', some (succeeds m'.taskId a.updateData))

def onClockConfirmPressed (kind : ClockEvent) (m : TaskModel) (a : Attempt) :
    TaskModel × Option Bool :=
  match a.position with
  | none => (m, none)
  | some position =>
    let m' := confirmModel kind m position a.command
    match a.check with
    | .inside areas => process kind m' a areas
    | .outside => if a.dialogConfirmed then process kind m' a [] else (m', none)
    | .malformed | .failed => (m, none)

/-- A process that comes to its end pops the sheet. -/
def pressConfirm (kind : ClockEvent) (m : TaskModel) : List Attempt → TaskModel × Option Bool
  | [] => (m, none)
  | a :: as =>
    match onClockConfirmPressed kind m a with
    | (m', none) => pressConfirm kind m' as
    | (m', some stored) => (m', some stored)

def Press.showsSheet (p : Press) : Bool := p.getGeofencingArea && p.determinePosition && p.ntpNow

/-- `onClockInPressed` or `onClockOutPressed` with everything that follows. -/
def onClockPressed (kind : ClockEvent) (m : TaskModel) (p : Press) : TaskModel × Option Bool :=
  if p.showsSheet then pressConfirm kind m p.attempts else (m, none)

/-- Unless the write was stored, the model is what it was. -/
def LeavesModel (kind : ClockEvent) (m : TaskModel) (p : Press) : Prop :=
  (onClockPressed kind m p).2 ≠ some true → (onClockPressed kind m p).1 = m

/-- The position of an attempt that gets past its check. -/
def Attempt.located (a : Attempt) : Option (Option GeoPoint) :=
  match a.check with
  | .inside _ | .outside => a.position
  | .malformed | .failed => none

/-- The areas of an attempt whose process starts. -/
def Attempt.areas (a : Attempt) : Option (List (AreaModel String)) :=
  match a.check with
  | .inside areas => some areas
  | .outside => if a.dialogConfirmed then some [] else none
  | .malformed | .failed => none

def finishes (kind : ClockEvent) (m : TaskModel) (a : Attempt) : Bool :=
  a.located.isSome && a.areas.isSome && a.serverTimeNow.isSome && (planned kind m).isSome

/-- The last attempt that gets past its check before the sheet is popped. -/
def lastLocated (kind : ClockEvent) (m : TaskModel) : List Attempt → Option Attempt
  | [] => none
  | a :: as =>
    if finishes kind m a then some a
    else (lastLocated kind m as).or (if a.located.isSome then some a else none)

def command : ClockEvent → TaskModel → Option String
  | .clockIn, m => m.clockInCommand
  | .clockOut, m => m.clockOutCommand

def driverTime : ClockEvent → TaskModel → Option Int
  | .clockIn, m => m.driverStartAt
  | .clockOut, m => m.driverFinishAt

def punctuality : ClockEvent → TaskModel → Option String
  | .clockIn, m => m.clockInStatus
  | .clockOut, m => m.clockOutStatus

/-- The model has the position and the remark of the attempt. -/
def RepeatsConfirm (kind : ClockEvent) (m : TaskModel) (position : Option GeoPoint)
    (remark : Option String) : Prop :=
  location kind m = some (pointOf position) ∧ command kind m = remark

/-- The model has been clocked at that time, in those areas. -/
structure RepeatsProcess (kind : ClockEvent) (m : TaskModel) (planned serverTimeNow : Int)
    (areas : List (AreaModel String)) : Prop where
  area : ∀ l, areaOf kind l m = some (areaNames areas l)
  status : m.status = some (targetStatus kind)
  driverTime : driverTime kind m = some serverTimeNow
  punctuality : punctuality kind m = some (clockStatus planned serverTimeNow)

/-- Whatever the attempt assigns is there already. -/
def Repeats (kind : ClockEvent) (m : TaskModel) (a : Attempt) : Prop :=
  (∀ position ∈ a.located, RepeatsConfirm kind m position a.command) ∧
    ∀ areas ∈ a.areas, ∀ serverTimeNow ∈ a.serverTimeNow, ∀ time ∈ planned kind m,
      a.located.isSome = true → RepeatsProcess kind m time serverTimeNow areas

section Model

variable {kind : ClockEvent} {m m' : TaskModel}

theorem confirmModel_eq_self_iff {position : Option GeoPoint} {remark : Option String} :
    confirmModel kind m position remark = m ↔ RepeatsConfirm kind m position remark := by
  constructor
  · intro h
    rw [← h]
    cases kind <;> exact ⟨rfl, rfl⟩
  · rintro ⟨hlocation, hcommand⟩
    cases kind with
    | clockIn =>
      simp only [location, command] at hlocation hcommand
      rw [confirmModel, onClockInConfirmPressed, ← hlocation, ← hcommand]
    | clockOut =>
      simp only [location, command] at hlocation hcommand
      rw [confirmModel, onClockOutConfirmPressed, ← hlocation, ← hcommand]

/-- The next confirm press overwrites all the one before has assigned. -/
theorem confirmModel_confirmModel (kind : ClockEvent) (m : TaskModel)
    (position position' : Option GeoPoint) (remark remark' : Option String) :
    confirmModel kind (confirmModel kind m position remark) position' remark' =
      confirmModel kind m position' remark' := by
  cases kind <;> rfl

@[simp] theorem planned_confirmModel (kind : ClockEvent) (m : TaskModel)
    (position : Option GeoPoint) (remark : Option String) :
    planned kind (confirmModel kind m position remark) = planned kind m := by
  cases kind <;> rfl

section Process

variable {position : Option GeoPoint} {remark : Option String} {areas : List (AreaModel String)}
variable {serverTimeNow time : Int}

/-- What an operation leaves in the model it was confirmed on. -/
theorem repeats_processModel (htime : planned kind m = some time)
    (h : processModel kind (confirmModel kind m position remark) serverTimeNow
      (some (areaNames areas .en)) (some (areaNames areas .th)) = some m') :
    RepeatsConfirm kind m' position remark ∧ RepeatsProcess kind m' time serverTimeNow areas := by
  rw [← planned_confirmModel kind m position remark] at htime
  cases kind with
  | clockIn =>
    obtain ⟨startDate, hs, rfl⟩ := clockInProcess_eq_some h
    cases hs.symm.trans htime
    exact ⟨⟨rfl, rfl⟩, fun l => by cases l <;> rfl, rfl, rfl, rfl⟩
  | clockOut =>
    obtain ⟨finishDate, hs, rfl⟩ := clockOutProcess_eq_some h
    cases hs.symm.trans htime
    exact ⟨⟨rfl, rfl⟩, fun l => by cases l <;> rfl, rfl, rfl, rfl⟩

theorem processModel_confirmModel_eq_self_iff (htime : planned kind m = some time)
    (h : processModel kind (confirmModel kind m position remark) serverTimeNow
      (some (areaNames areas .en)) (some (areaNames areas .th)) = some m') :
    m' = m ↔ RepeatsConfirm kind m position remark ∧
      RepeatsProcess kind m time serverTimeNow areas := by
  constructor
  · rintro rfl
    exact repeats_processModel htime h
  · rintro ⟨hconfirm, hprocess⟩
    rw [confirmModel_eq_self_iff.mpr hconfirm] at h
    have hen := hprocess.area .en
    have hth := hprocess.area .th
    have hstatus := hprocess.status
    have hdriver := hprocess.driverTime
    have hpunctual := hprocess.punctuality
    cases kind with
    | clockIn =>
      obtain ⟨startDate, hs, rfl⟩ := clockInProcess_eq_some h
      cases hs.symm.trans htime
      simp only [areaOf, targetStatus, driverTime, punctuality] at hen hth hstatus hdriver hpunctual
      rw [← hen, ← hth, ← hstatus, ← hdriver, ← hpunctual]
    | clockOut =>
      obtain ⟨finishDate, hs, rfl⟩ := clockOutProcess_eq_some h
      cases hs.symm.trans htime
      simp only [areaOf, targetStatus, driverTime, punctuality] at hen hth hstatus hdriver hpunctual
      rw [← hen, ← hth, ← hstatus, ← hdriver, ← hpunctual]

end Process

section Attempt

variable {a : Attempt}

theorem onClockConfirmPressed_of_not_located (kind : ClockEvent) (m : TaskModel)
    (h : a.located = none) : onClockConfirmPressed kind m a = (m, none) := by
  simp only [Attempt.located] at h
  cases hp : a.position with
  | none => simp only [onClockConfirmPressed, hp]
  | some position =>
    cases hc : a.check with
    | inside areas =>
      rw [hc, hp] at h
      cases h
    | outside =>
      rw [hc, hp] at h
      cases h
    | malformed => simp only [onClockConfirmPressed, hp, hc]
    | failed => simp only [onClockConfirmPressed, hp, hc]

/-- Past its check an attempt confirms the model, and goes on if it has areas to go on with. -/
theorem onClockConfirmPressed_of_located (kind : ClockEvent) (m : TaskModel)
    {position : Option GeoPoint} (h : a.located = some position) :
    onClockConfirmPressed kind m a =
      (a.areas.map (process kind (confirmModel kind m position a.command) a)).getD
        (confirmModel kind m position a.command, none) := by
  simp only [Attempt.located] at h
  cases hc : a.check with
  | inside areas =>
    rw [hc] at h
    simp only [onClockConfirmPressed, Attempt.areas, h, hc, Option.map_some, Option.getD_some]
  | outside =>
    rw [hc] at h
    simp only [onClockConfirmPressed, Attempt.areas, h, hc]
    cases a.dialogConfirmed <;> rfl
  | malformed =>
    rw [hc] at h
    cases h
  | failed =>
    rw [hc] at h
    cases h

theorem process_of_not_finishes {position : Option GeoPoint} {areas : List (AreaModel String)}
    (hlocated : a.located = some position) (hareas : a.areas = some areas)
    (h : finishes kind m a = false) :
    process kind (confirmModel kind m position a.command) a areas =
      (confirmModel kind m position a.command, none) := by
  simp only [finishes, hlocated, hareas, Option.isSome_some, Bool.true_and, Bool.and_eq_false_iff]
    at h
  cases hnow : a.serverTimeNow with
  | none => simp only [process, hnow]
  | some now =>
    rw [hnow] at h
    have hplanned : planned kind m = none := by simpa using h
    have hnone : processModel kind (confirmModel kind m position a.command) now
        (some (areaNames areas .en)) (some (areaNames areas .th)) = none := by
      rw [← planned_confirmModel kind m position a.command] at hplanned
      cases kind with
      | clockIn => exact Option.map_eq_none_iff.mpr hplanned
      | clockOut => exact Option.map_eq_none_iff.mpr hplanned
    simp only [process, hnow, hnone]

/-- An attempt that does not come to its end leaves the sheet, and the model as confirmed. -/
theorem onClockConfirmPressed_of_not_finishes {position : Option GeoPoint}
    (hlocated : a.located = some position) (h : finishes kind m a = false) :
    onClockConfirmPressed kind m a = (confirmModel kind m position a.command, none) := by
  rw [onClockConfirmPressed_of_located kind m hlocated]
  cases hareas : a.areas with
  | none => rfl
  | some areas => exact process_of_not_finishes hlocated hareas h

/-- What an attempt that comes to its end was given. -/
theorem finishes_eq_true_iff :
    finishes kind m a = true ↔ ∃ position areas now time, a.located = some position ∧
      a.areas = some areas ∧ a.serverTimeNow = some now ∧ planned kind m = some time := by
  simp only [finishes, Bool.and_eq_true, Option.isSome_iff_exists]
  constructor
  · rintro ⟨⟨⟨⟨position, hp⟩, areas, ha⟩, now, hn⟩, time, ht⟩
    exact ⟨position, areas, now, time, hp, ha, hn, ht⟩
  · rintro ⟨position, areas, now, time, hp, ha, hn, ht⟩
    exact ⟨⟨⟨⟨position, hp⟩, areas, ha⟩, now, hn⟩, time, ht⟩

/-- An attempt that comes to its end has made a model, which was stored or not. -/
theorem onClockConfirmPressed_of_finishes {position : Option GeoPoint}
    {areas : List (AreaModel String)} {now time : Int} (hlocated : a.located = some position)
    (hareas : a.areas = some areas) (hnow : a.serverTimeNow = some now)
    (htime : planned kind m = some time) :
    ∃ m' stored, onClockConfirmPressed kind m a = (m', some stored) ∧
      processModel kind (confirmModel kind m position a.command) now (some (areaNames areas .en))
        (some (areaNames areas .th)) = some m' := by
  obtain ⟨m', hm'⟩ : ∃ m', processModel kind (confirmModel kind m position a.command) now
      (some (areaNames areas .en)) (some (areaNames areas .th)) = some m' := by
    rw [← planned_confirmModel kind m position a.command] at htime
    cases kind with
    | clockIn => exact ⟨_, Option.map_eq_some_iff.mpr ⟨time, htime, rfl⟩⟩
    | clockOut => exact ⟨_, Option.map_eq_some_iff.mpr ⟨time, htime, rfl⟩⟩
  refine ⟨m', succeeds m'.taskId a.updateData, ?_, hm'⟩
  rw [onClockConfirmPressed_of_located kind m hlocated, hareas]
  simp only [Option.map_some, Option.getD_some, process, hnow, hm']

/-- One attempt leaves the model alone exactly if it repeats what is there. -/
theorem onClockConfirmPressed_eq_self_iff :
    (onClockConfirmPressed kind m a).1 = m ↔ Repeats kind m a := by
  cases hlocated : a.located with
  | none =>
    rw [onClockConfirmPressed_of_not_located kind m hlocated]
    refine ⟨fun _ => ⟨?_, ?_⟩, fun _ => rfl⟩
    · rw [hlocated]
      intro position hposition
      cases hposition
    · rw [hlocated]
      intro _ _ _ _ _ _ himpossible
      cases himpossible
  | some position =>
    have one : Repeats kind m a ↔ RepeatsConfirm kind m position a.command ∧
        ∀ areas ∈ a.areas, ∀ now ∈ a.serverTimeNow, ∀ time ∈ planned kind m,
          RepeatsProcess kind m time now areas := by
      simp [Repeats, hlocated]
    rw [one]
    cases hfinishes : finishes kind m a with
    | false =>
      rw [onClockConfirmPressed_of_not_finishes hlocated hfinishes, confirmModel_eq_self_iff]
      refine ⟨fun h => ⟨h, fun areas ha now hn time ht => ?_⟩, fun h => h.1⟩
      have : finishes kind m a = true :=
        finishes_eq_true_iff.mpr ⟨position, areas, now, time, hlocated, ha, hn, ht⟩
      rw [hfinishes] at this
      cases this
    | true =>
      obtain ⟨_, areas, now, time, hl, ha, hn, ht⟩ := finishes_eq_true_iff.mp hfinishes
      cases hlocated.symm.trans hl
      obtain ⟨m', stored, heq, hm'⟩ := onClockConfirmPressed_of_finishes hl ha hn ht
      rw [heq, processModel_confirmModel_eq_self_iff ht hm', ha, hn, ht]
      simp

end Attempt

/-- Confirming moves no planned time, so the same attempts come to their end. -/
theorem lastLocated_confirmModel (kind : ClockEvent) (m : TaskModel) (position : Option GeoPoint)
    (remark : Option String) (as : List Attempt) :
    lastLocated kind (confirmModel kind m position remark) as = lastLocated kind m as := by
  induction as with
  | nil => rfl
  | cons a as ih =>
    have same : finishes kind (confirmModel kind m position remark) a = finishes kind m a := by
      rw [finishes, planned_confirmModel, finishes]
    rw [lastLocated, lastLocated, same, ih]

theorem isSome_located_of_lastLocated {as : List Attempt} {a : Attempt}
    (h : lastLocated kind m as = some a) : a.located.isSome = true := by
  induction as with
  | nil => cases h
  | cons b as ih =>
    rw [lastLocated] at h
    split at h
    · case isTrue hb =>
      cases h
      obtain ⟨position, -, -, -, hl, -⟩ := finishes_eq_true_iff.mp hb
      rw [hl]
      rfl
    · rcases Option.or_eq_some_iff.mp h with h | ⟨-, h⟩
      · exact ih h
      · split at h
        · case isTrue hb =>
          cases h
          exact hb
        · cases h

/-- An attempt on a model that was confirmed before is one on the model itself. -/
theorem onClockConfirmPressed_confirmModel {a : Attempt} (h : a.located.isSome = true)
    (kind : ClockEvent) (m : TaskModel) (position : Option GeoPoint) (remark : Option String) :
    onClockConfirmPressed kind (confirmModel kind m position remark) a =
      onClockConfirmPressed kind m a := by
  obtain ⟨own, hown⟩ := Option.isSome_iff_exists.mp h
  rw [onClockConfirmPressed_of_located _ _ hown, onClockConfirmPressed_of_located _ _ hown,
    confirmModel_confirmModel]

/-- All that is left of the attempts on a sheet is the last one that got past its check. -/
theorem pressConfirm_eq (kind : ClockEvent) (m : TaskModel) (as : List Attempt) :
    pressConfirm kind m as =
      ((lastLocated kind m as).map (onClockConfirmPressed kind m)).getD (m, none) := by
  induction as generalizing m with
  | nil => rfl
  | cons a as ih =>
    cases hfinishes : finishes kind m a with
    | true =>
      obtain ⟨position, areas, now, time, hl, ha, hn, ht⟩ := finishes_eq_true_iff.mp hfinishes
      obtain ⟨m', stored, heq, -⟩ := onClockConfirmPressed_of_finishes hl ha hn ht
      simp only [pressConfirm, lastLocated, hfinishes, heq, if_true, Option.map_some,
        Option.getD_some]
    | false =>
      cases hlocated : a.located with
      | none =>
        have heq := onClockConfirmPressed_of_not_located kind m hlocated
        simp only [pressConfirm, lastLocated, hfinishes, heq, hlocated, ih, Bool.false_eq_true,
          if_false, Option.isSome_none, Option.or_none]
      | some position =>
        have heq := onClockConfirmPressed_of_not_finishes hlocated hfinishes
        simp only [pressConfirm, lastLocated, hfinishes, heq, hlocated, ih, Bool.false_eq_true,
          if_false, Option.isSome_some, if_true, lastLocated_confirmModel]
        cases hlast : lastLocated kind m as with
        | none =>
          simp only [Option.map_none, Option.getD_none, Option.none_or, Option.map_some,
            Option.getD_some, heq]
        | some b =>
          have hb := isSome_located_of_lastLocated hlast
          simp only [Option.map_some, Option.getD_some, Option.some_or,
            onClockConfirmPressed_confirmModel hb]

/-- The last attempt of a press that got past its check. -/
def lastOf (kind : ClockEvent) (m : TaskModel) (p : Press) : Option Attempt :=
  if p.showsSheet then lastLocated kind m p.attempts else none

/-- A press that was not stored leaves the model as it was exactly if its last attempt past the
check has repeated what was there. -/
theorem leavesModel_iff {p : Press} (failed : (onClockPressed kind m p).2 ≠ some true) :
    LeavesModel kind m p ↔ ∀ a ∈ lastOf kind m p, Repeats kind m a := by
  have model : LeavesModel kind m p ↔ (onClockPressed kind m p).1 = m :=
    ⟨fun h => h failed, fun h _ => h⟩
  rw [model, onClockPressed, lastOf]
  split
  · rw [pressConfirm_eq]
    cases lastLocated kind m p.attempts with
    | none => simp
    | some a => simpa using onClockConfirmPressed_eq_self_iff
  · simp

/-- A worker is in the terminal, and Firestore fails. -/
def failedWrite : Press where
  attempts :=
    [{ position := some (some ⟨13, 100⟩)
       check := .inside [⟨some "Terminal", none⟩]
       serverTimeNow := some 90
       updateData := false }]

theorem leavesModel_failedWrite_iff :
    LeavesModel .clockIn (plannedModel "t1" TaskStatus.confirm 100 200) failedWrite ↔
      ∀ a ∈ lastOf .clockIn (plannedModel "t1" TaskStatus.confirm 100 200) failedWrite,
        Repeats .clockIn (plannedModel "t1" TaskStatus.confirm 100 200) a :=
  leavesModel_iff (by decide)

/-- The page goes on with a task that has started, which was never stored. -/
theorem failedWrite_starts_task :
    ¬ ∀ (kind : ClockEvent) (m : TaskModel) (p : Press), LeavesModel kind m p := by
  intro claim
  have same := claim .clockIn (plannedModel "t1" TaskStatus.confirm 100 200) failedWrite (by decide)
  have started := congrArg TaskModel.status same
  exact absurd started (by decide)

end Model
end FailedPress
