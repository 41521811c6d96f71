import AsmWt.TasksModel
import AsmWt.UserProfile

/-!
# What accepting, clocking in and clocking out send to a task

A clock operation holds the `TaskModel` that was decoded when its page was
built. The confirm button of its sheet stores position and remark in that
model, the process stores areas, status, time and punctuality, and the whole
model is then sent back.
-/

namespace ClockProcess

open KeyedRecord Firestore TasksModel UserProfile

/-- `ClockInOutEvent`. -/
inductive ClockEvent where
  | clockIn
  | clockOut
  deriving DecidableEq

/-- What `onClockInConfirmPressed` and `clockInProcess` (or their clock-out twins) get from
the position, the remark, the time server, the geofencing service and the user controller. -/
structure Confirmation where
  position : Option GeoPoint := none
  command : Option String := none
  serverTimeNow : Int := 0
  areaNameEn : Option (List String) := none
  areaNameTh : Option (List String) := none
  userModel : Option UserModel := none

/-- `GeoPoint(position?.latitude ?? 0, position?.longitude ?? 0)`. -/
def pointOf (position : Option GeoPoint) : GeoPoint := position.getD ⟨0, 0⟩

/-- `planned.compareTo(now)` read as the punctuality both processes store. -/
def clockStatus (planned now : Int) : String :=
  if planned < now then ClockStatus.late
  else if planned = now then ClockStatus.same
  else ClockStatus.early

/-- Too late to clock in on time, or too early to clock out on time. -/
def offTime : ClockEvent → Int → Int → Bool
  | .clockIn, planned, now => planned < now
  | .clockOut, planned, now => now < planned

/-- `TasksService.updateTaskStatusByTaskId` with the write it calls; `none` is every reply that is
not `'S'`. -/
def updateTaskStatusByTaskId {Result : Type} (taskId : Option String)
    (updateData : String → Option Result) : Option Result :=
  match taskId with
  | none => none
  | some id => if id = "" then none else updateData id

/-- The assignments of `onClockInConfirmPressed` inside or outside a geofence. -/
def onClockInConfirmPressed (m : TaskModel) (position : Option GeoPoint)
    (command : Option String) : TaskModel :=
  { m with clockInLocation := some (pointOf position), clockInCommand := command }

def onClockOutConfirmPressed (m : TaskModel) (position : Option GeoPoint)
    (command : Option String) : TaskModel :=
  { m with clockOutCommand := command, clockOutLocation := some (pointOf position) }

/-- The assignments of `clockInProcess` once the time server has answered; `none` is the
failing null check of `start_date!`. -/
def clockInProcess (m : TaskModel) (serverTimeNow : Int)
    (areaNameEn areaNameTh : Option (List String)) : Option TaskModel :=
  m.startDate.map fun startDate =>
    { m with
      clockInAreaEn := areaNameEn
      clockInAreaTh := areaNameTh
      status := some TaskStatus.start
      driverStartAt := some serverTimeNow
      clockInStatus := some (clockStatus startDate serverTimeNow) }

def clockOutProcess (m : TaskModel) (serverTimeNow : Int)
    (areaNameEn areaNameTh : Option (List String)) : Option TaskModel :=
  m.finishDate.map fun finishDate =>
    { m with
      clockOutAreaEn := areaNameEn
      clockOutAreaTh := areaNameTh
      driverFinishAt := some serverTimeNow
      status := some TaskStatus.done
      clockOutStatus := some (clockStatus finishDate serverTimeNow) }

/-- The map `clockInProcess` hands to `updateTaskStatusByTaskId`. -/
def clockInData (m : TaskModel) (userModel : Option UserModel) : Payload :=
  toJson m (some false) ++ profileFields userModel

def clockOutData (m : TaskModel) : Payload := toJson m (some false)

/-- The map `onAcceptPressed` hands to `updateTaskStatusByTaskId`: only what it changes. -/
def acceptData (userModel : Option UserModel) : Payload :=
  ("status", .str TaskStatus.confirm) :: profileFields userModel

def confirmModel (kind : ClockEvent) (m : TaskModel) (position : Option GeoPoint)
    (command : Option String) : TaskModel :=
  match kind with
  | .clockIn => onClockInConfirmPressed m position command
  | .clockOut => onClockOutConfirmPressed m position command

def processModel (kind : ClockEvent) (m : TaskModel) (serverTimeNow : Int)
    (areaNameEn areaNameTh : Option (List String)) : Option TaskModel :=
  match kind with
  | .clockIn => clockInProcess m serverTimeNow areaNameEn areaNameTh
  | .clockOut => clockOutProcess m serverTimeNow areaNameEn areaNameTh

/-- The model of a page after the confirm button and the process of an operation. -/
def clockModel (kind : ClockEvent) (m : TaskModel) (c : Confirmation) : Option TaskModel :=
  processModel kind (confirmModel kind m c.position c.command) c.serverTimeNow c.areaNameEn
    c.areaNameTh

/-- The punctuality for which a process calls its counter before it writes. -/
def callsCounter (kind : ClockEvent) (m : TaskModel) : Bool :=
  match kind with
  | .clockIn => m.clockInStatus = some ClockStatus.late
  | .clockOut => m.clockOutStatus = some ClockStatus.early

/-- The map an operation sends for the model it has filled in. -/
def modelData (kind : ClockEvent) (m : TaskModel) (userModel : Option UserModel) : Payload :=
  match kind with
  | .clockIn => clockInData m userModel
  | .clockOut => clockOutData m

/-- A whole operation on the model of its page, from the confirm button to the map sent. -/
def clockData (kind : ClockEvent) (m : TaskModel) (c : Confirmation) : Option Payload :=
  (clockModel kind m c).map fun m' => modelData kind m' c.userModel

/-- The status an operation leaves a task in. -/
def targetStatus : ClockEvent → String
  | .clockIn => TaskStatus.start
  | .clockOut => TaskStatus.done

/-- The status for which the views offer the operation's button. -/
def sourceStatus : ClockEvent → String
  | .clockIn => TaskStatus.confirm
  | .clockOut => TaskStatus.start

/-- The fields an operation is there to record. -/
def recorded : ClockEvent → List String
  | .clockIn =>
    ["status", "employee_start_time", "clock_in_location", "clock_in_status",
      "clock_in_command", "clock_in_area_en", "clock_in_area_th"] ++ profileKeys
  | .clockOut =>
    ["status", "employee_finish_time", "clock_out_location", "clock_out_status",
      "clock_out_command", "clock_out_area_en", "clock_out_area_th"]

theorem clockStatus_eq_late_iff {planned now : Int} :
    clockStatus planned now = ClockStatus.late ↔ planned < now := by
  unfold clockStatus
  constructor
  · intro h
    by_contra hlt
    rw [if_neg hlt] at h
    split at h
    · exact absurd h (by decide)
    · exact absurd h (by decide)
  · intro h
    rw [if_pos h]

theorem clockStatus_eq_early_iff {planned now : Int} :
    clockStatus planned now = ClockStatus.early ↔ now < planned := by
  unfold clockStatus
  constructor
  · intro h
    split at h
    · exact absurd h (by decide)
    · split at h
      · exact absurd h (by decide)
      · omega
  · intro h
    rw [if_neg (by omega), if_neg (by omega)]

theorem clockInProcess_eq_some {m m' : TaskModel} {now : Int}
    {en th : Option (List String)} (h : clockInProcess m now en th = some m') :
    ∃ startDate, m.startDate = some startDate ∧
      m' = { m with
        clockInAreaEn := en
        clockInAreaTh := th
        status := some TaskStatus.start
        driverStartAt := some now
        clockInStatus := some (clockStatus startDate now) } := by
  obtain ⟨startDate, hs, rfl⟩ := Option.map_eq_some_iff.mp h
  exact ⟨startDate, hs, rfl⟩

theorem clockOutProcess_eq_some {m m' : TaskModel} {now : Int}
    {en th : Option (List String)} (h : clockOutProcess m now en th = some m') :
    ∃ finishDate, m.finishDate = some finishDate ∧
      m' = { m with
        clockOutAreaEn := en
        clockOutAreaTh := th
        driverFinishAt := some now
        status := some TaskStatus.done
        clockOutStatus := some (clockStatus finishDate now) } := by
  obtain ⟨finishDate, hs, rfl⟩ := Option.map_eq_some_iff.mp h
  exact ⟨finishDate, hs, rfl⟩

/-- A process leaves its model in the operation's status. -/
theorem processModel_status {kind : ClockEvent} {m m' : TaskModel} {now : Int}
    {en th : Option (List String)} (h : processModel kind m now en th = some m') :
    m'.status = some (targetStatus kind) := by
  cases kind with
  | clockIn =>
    obtain ⟨startDate, -, rfl⟩ := clockInProcess_eq_some h
    rfl
  | clockOut =>
    obtain ⟨finishDate, -, rfl⟩ := clockOutProcess_eq_some h
    rfl

/-- The thirteen profile fields are none of the fields of a task model. -/
theorem keys_clockInData_nodup (m : TaskModel) (userModel : Option UserModel) :
    (keys (clockInData m userModel)).Nodup := by
  rw [clockInData, keys_append, keys_profileFields]
  have all : (jsonKeys ++ profileKeys).Nodup := by decide
  exact ((keys_toJson_sublist m _).append (List.Sublist.refl _)).nodup all

theorem keys_clockOutData_nodup (m : TaskModel) : (keys (clockOutData m)).Nodup :=
  keys_toJson_nodup m _

theorem keys_modelData_nodup (kind : ClockEvent) (m : TaskModel) (userModel : Option UserModel) :
    (keys (modelData kind m userModel)).Nodup := by
  cases kind with
  | clockIn => exact keys_clockInData_nodup m userModel
  | clockOut => exact keys_clockOutData_nodup m

theorem keys_clockData_nodup {kind : ClockEvent} {m : TaskModel} {c : Confirmation}
    {p : Payload} (h : clockData kind m c = some p) : (keys p).Nodup := by
  obtain ⟨m', -, rfl⟩ := Option.map_eq_some_iff.mp h
  exact keys_modelData_nodup kind m' _

theorem keys_acceptData_nodup (userModel : Option UserModel) :
    (keys (acceptData userModel)).Nodup := by
  have h : ("status" :: profileKeys).Nodup := by decide
  exact h

theorem driverStartAt_mem_toJson (m : TaskModel) (isCreateNew : Option Bool) :
    ("employee_start_time", Codec.timestamp.encode m.driverStartAt) ∈ toJson m isCreateNew := by
  simp [toJson]

theorem clockInLocation_mem_toJson (m : TaskModel) (isCreateNew : Option Bool) :
    ("clock_in_location", Codec.geoPoint.encode m.clockInLocation) ∈ toJson m isCreateNew := by
  simp [toJson]

theorem clockInStatus_mem_toJson (m : TaskModel) (isCreateNew : Option Bool) :
    ("clock_in_status", Codec.string.encode m.clockInStatus) ∈ toJson m isCreateNew := by
  simp [toJson]

theorem clockOutStatus_mem_toJson (m : TaskModel) (isCreateNew : Option Bool) :
    ("clock_out_status", Codec.string.encode m.clockOutStatus) ∈ toJson m isCreateNew := by
  simp [toJson]

theorem status_mem_toJson (m : TaskModel) (isCreateNew : Option Bool) :
    ("status", Codec.string.encode m.status) ∈ toJson m isCreateNew := by
  simp [toJson]

/-- What the model says about a field is what is stored after its write. -/
theorem update_modelData {kind : ClockEvent} {m : TaskModel} {k : String} {w : Value}
    (h : (k, w) ∈ toJson m (some false)) (userModel : Option UserModel) (d : Doc) :
    update d (modelData kind m userModel) k = w := by
  apply update_of_mem (keys_modelData_nodup kind m userModel)
  cases kind with
  | clockIn => exact List.mem_append_left _ h
  | clockOut => exact h

theorem status_update_acceptData (userModel : Option UserModel) (d : Doc) :
    update d (acceptData userModel) "status" = .str TaskStatus.confirm :=
  update_of_mem (keys_acceptData_nodup userModel) List.mem_cons_self

end ClockProcess
