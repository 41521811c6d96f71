import AsmWt.Firestore

/-!
# Task documents and `TaskModel`

`fromDocumentSnapshot` reads a task document into a model and `toJson` writes
the model back. The two are not inverse: the area names are never read, the
location name is a constant of `toJson`, and the reference to the employee and
the four lists of area names are only sent when they are set.
-/

namespace TasksModel

open KeyedRecord Firestore

namespace TaskStatus
def new : String := "new"
def confirm : String := "confirm"
def start : String := "start"
def done : String := "done"
def delete : String := "deleted"
def skip : String := "skip"
def request : String := "Request"
end TaskStatus

namespace ClockStatus
def late : String := "late"
def same : String := "same"
def early : String := "early"
end ClockStatus

structure TaskModel where
  taskId : Option String := none
  userId : Option String := none
  name : Option String := none
  controllerName : Option String := none
  controllerId : Option String := none
  location : Option GeoPoint := none
  locationName : Option String := none
  clockInLocation : Option GeoPoint := none
  clockOutLocation : Option GeoPoint := none
  desc : Option String := none
  isDisable : Option Bool := none
  status : Option String := none
  startDate : Option Int := none
  driverStartAt : Option Int := none
  driverFinishAt : Option Int := none
  createDate : Option Int := none
  finishDate : Option Int := none
  clockInStatus : Option String := none
  clockOutStatus : Option String := none
  clockOutCommand : Option String := none
  clockInCommand : Option String := none
  clockInAreaEn : Option (List String) := none
  clockInAreaTh : Option (List String) := none
  clockOutAreaEn : Option (List String) := none
  clockOutAreaTh : Option (List String) := none
  type : Option String := none
  taskGroup : Option String := none
  skipReason : Option String := none
  employeeModelRefData : Option String := none

/-- `TaskModel.fromDocumentSnapshot`; `none` is the type error of a wrongly typed field. -/
def fromDocumentSnapshot (id : String) (data : Doc) : Option TaskModel := do
  let location ← Codec.geoPoint.decode (data "location")
  let clockInLocation ← Codec.geoPoint.decode (data "clock_in_location")
  let clockOutLocation ← Codec.geoPoint.decode (data "clock_out_location")
  let userId ← Codec.string.decode (data "employee_id")
  let name ← Codec.string.decode (data "name")
  let desc ← Codec.string.decode (data "desc")
  let driverStartAt ← Codec.timestamp.decode (data "employee_start_time")
  let driverFinishAt ← Codec.timestamp.decode (data "employee_finish_time")
  let startDate ← Codec.timestamp.decode (data "start_time")
  let finishDate ← Codec.timestamp.decode (data "finish_time")
  let controllerId ← Codec.string.decode (data "controller_id")
  let controllerName ← Codec.string.decode (data "controller_name")
  let isDisable ← Codec.bool.decode (data "is_disabled")
  let status ← Codec.string.decode (data "status")
  let clockInStatus ← Codec.string.decode (data "clock_in_status")
  let clockOutStatus ← Codec.string.decode (data "clock_out_status")
  let clockOutCommand ← Codec.string.decode (data "clock_out_command")
  let clockInCommand ← Codec.string.decode (data "clock_in_command")
  let type ← Codec.string.decode (data "type")
  let taskGroup ← Codec.string.decode (data "task_group")
  let locationName ← Codec.string.decode (data "location_name")
  let employeeModelRefData ← Codec.reference.decode (data "employeeRef")
  let skipReason ← Codec.string.decode (data "skip_reason")
  let createDate ← Codec.timestamp.decode (data "created_at")
  return {
    taskId := some id
    location, clockInLocation, clockOutLocation, userId, name, desc, driverStartAt,
    driverFinishAt, startDate, finishDate, controllerId, controllerName, isDisable, status,
    clockInStatus, clockOutStatus, clockOutCommand, clockInCommand, type, taskGroup,
    locationName, employeeModelRefData, skipReason, createDate }

/-- `TaskModel.toJson`, in the order the source fills its map. -/
def toJson (m : TaskModel) (isCreateNew : Option Bool) : Payload :=
  [("location", Codec.geoPoint.encode m.location),
    ("clock_in_location", Codec.geoPoint.encode m.clockInLocation),
    ("location_name", .str "Suvarnabhumi Airport"),
    ("clock_out_location", Codec.geoPoint.encode m.clockOutLocation),
    ("employee_id", Codec.string.encode m.userId),
    ("name", Codec.string.encode m.name),
    ("desc", Codec.string.encode m.desc),
    ("employee_start_time", Codec.timestamp.encode m.driverStartAt),
    ("employee_finish_time", Codec.timestamp.encode m.driverFinishAt),
    ("start_time", Codec.timestamp.encode m.startDate),
    ("is_disabled", Codec.bool.encode m.isDisable),
    ("finish_time", Codec.timestamp.encode m.finishDate),
    ("controller_id", Codec.string.encode m.controllerId),
    ("controller_name", Codec.string.encode m.controllerName),
    ("status", Codec.string.encode m.status),
    ("clock_in_status", Codec.string.encode m.clockInStatus)] ++
  optional "clock_in_area_en" (m.clockInAreaEn.map .strings) ++
  optional "clock_in_area_th" (m.clockInAreaTh.map .strings) ++
  optional "clock_out_area_en" (m.clockOutAreaEn.map .strings) ++
  optional "clock_out_area_th" (m.clockOutAreaTh.map .strings) ++
  [("clock_out_status", Codec.string.encode m.clockOutStatus)] ++
  optional "created_at" (if isCreateNew.getD false then some .serverTimestamp else none) ++
  [("clock_out_command", Codec.string.encode m.clockOutCommand),
    ("clock_in_command", Codec.string.encode m.clockInCommand),
    ("type", Codec.string.encode m.type),
    ("task_group", Codec.string.encode m.taskGroup),
    ("skip_reason", Codec.string.encode m.skipReason)] ++
  optional "employeeRef" (m.employeeModelRefData.map .reference)

/-- Every field `toJson` can send. -/
def jsonKeys : List String :=
  ["location", "clock_in_location", "location_name", "clock_out_location", "employee_id",
    "name", "desc", "employee_start_time", "employee_finish_time", "start_time",
    "is_disabled", "finish_time", "controller_id", "controller_name", "status",
    "clock_in_status", "clock_in_area_en", "clock_in_area_th", "clock_out_area_en",
    "clock_out_area_th", "clock_out_status", "created_at", "clock_out_command",
    "clock_in_command", "type", "task_group", "skip_reason", "employeeRef"]

theorem keys_toJson_sublist (m : TaskModel) (isCreateNew : Option Bool) :
    (keys (toJson m isCreateNew)).Sublist jsonKeys := by
  have one := fun k v => keys_optional_sublist k v
  simp only [toJson, keys_append]
  exact (((((((List.Sublist.refl _).append (one _ _)).append (one _ _)).append
    (one _ _)).append (one _ _)).append (List.Sublist.refl _)).append (one _ _)).append
    (List.Sublist.refl _) |>.append (one _ _)

theorem jsonKeys_nodup : jsonKeys.Nodup := by decide

theorem keys_toJson_nodup (m : TaskModel) (isCreateNew : Option Bool) :
    (keys (toJson m isCreateNew)).Nodup :=
  (keys_toJson_sublist m isCreateNew).nodup jsonKeys_nodup

/-- What a successful decoding says about the document, field by field. -/
structure Decodes (id : String) (data : Doc) (m : TaskModel) : Prop where
  taskId : m.taskId = some id
  location : data "location" = Codec.geoPoint.encode m.location
  clockInLocation : data "clock_in_location" = Codec.geoPoint.encode m.clockInLocation
  clockOutLocation : data "clock_out_location" = Codec.geoPoint.encode m.clockOutLocation
  userId : data "employee_id" = Codec.string.encode m.userId
  name : data "name" = Codec.string.encode m.name
  desc : data "desc" = Codec.string.encode m.desc
  driverStartAt : data "employee_start_time" = Codec.timestamp.encode m.driverStartAt
  driverFinishAt : data "employee_finish_time" = Codec.timestamp.encode m.driverFinishAt
  startDate : data "start_time" = Codec.timestamp.encode m.startDate
  finishDate : data "finish_time" = Codec.timestamp.encode m.finishDate
  controllerId : data "controller_id" = Codec.string.encode m.controllerId
  controllerName : data "controller_name" = Codec.string.encode m.controllerName
  isDisable : data "is_disabled" = Codec.bool.encode m.isDisable
  status : data "status" = Codec.string.encode m.status
  clockInStatus : data "clock_in_status" = Codec.string.encode m.clockInStatus
  clockOutStatus : data "clock_out_status" = Codec.string.encode m.clockOutStatus
  clockOutCommand : data "clock_out_command" = Codec.string.encode m.clockOutCommand
  clockInCommand : data "clock_in_command" = Codec.string.encode m.clockInCommand
  type : data "type" = Codec.string.encode m.type
  taskGroup : data "task_group" = Codec.string.encode m.taskGroup
  locationName : data "location_name" = Codec.string.encode m.locationName
  employeeModelRefData : data "employeeRef" = Codec.reference.encode m.employeeModelRefData
  skipReason : data "skip_reason" = Codec.string.encode m.skipReason
  createDate : data "created_at" = Codec.timestamp.encode m.createDate
  clockInAreaEn : m.clockInAreaEn = none
  clockInAreaTh : m.clockInAreaTh = none
  clockOutAreaEn : m.clockOutAreaEn = none
  clockOutAreaTh : m.clockOutAreaTh = none

theorem fromDocumentSnapshot_eq_some {id : String} {data : Doc} {m : TaskModel}
    (h : fromDocumentSnapshot id data = some m) : Decodes id data m := by
  simp only [fromDocumentSnapshot, ↓Codec.decode_bind_eq_some_iff, Option.pure_def,
    Option.some.injEq] at h
  obtain ⟨_, h1, _, h2, _, h3, _, h4, _, h5, _, h6, _, h7, _, h8, _, h9, _, h10, _, h11, _,
    h12, _, h13, _, h14, _, h15, _, h16, _, h17, _, h18, _, h19, _, h20, _, h21, _, h22, _,
    h23, _, h24, rfl⟩ := h
  exact ⟨rfl, h1, h2, h3, h4, h5, h6, h7, h8, h9, h10, h11, h12, h13, h14, h15, h16, h17, h18,
    h19, h20, h21, h22, h23, h24, rfl, rfl, rfl, rfl⟩

theorem fromDocumentSnapshot_of_decodes {id : String} {data : Doc} {m : TaskModel}
    (h : Decodes id data m) : fromDocumentSnapshot id data = some m := by
  simp only [fromDocumentSnapshot, h.location, h.clockInLocation, h.clockOutLocation, h.userId,
    h.name, h.desc, h.driverStartAt, h.driverFinishAt, h.startDate, h.finishDate, h.controllerId,
    h.controllerName, h.isDisable, h.status, h.clockInStatus, h.clockOutStatus,
    h.clockOutCommand, h.clockInCommand, h.type, h.taskGroup, h.locationName,
    h.employeeModelRefData, h.skipReason, h.createDate, Codec.decode_encode, Option.bind_eq_bind,
    Option.bind_some, Option.pure_def]
  have taskId := h.taskId
  have en := h.clockInAreaEn
  have th := h.clockInAreaTh
  have en' := h.clockOutAreaEn
  have th' := h.clockOutAreaTh
  cases m
  cases taskId
  cases en
  cases th
  cases en'
  cases th'
  rfl

/-- Everything but the name of the location is sent as it was read. -/
theorem toJson_of_decodes {id : String} {data : Doc} {m : TaskModel} (h : Decodes id data m) :
    ∀ e ∈ toJson m (some false), e.1 ≠ "location_name" → e.2 = data e.1 := by
  have unread : ∀ k, Firestore.optional k none = [] := fun _ => rfl
  have reference : ∀ e ∈ Firestore.optional "employeeRef" (m.employeeModelRefData.map .reference),
      e.1 ≠ "location_name" → e.2 = data e.1 := by
    rintro ⟨k, w⟩ hmem -
    obtain ⟨rfl, hw⟩ := mem_optional.mp hmem
    obtain ⟨path, hpath, rfl⟩ := Option.map_eq_some_iff.mp hw
    rw [h.employeeModelRefData, hpath]
    rfl
  simp only [toJson, h.clockInAreaEn, h.clockInAreaTh, h.clockOutAreaEn, h.clockOutAreaTh,
    Option.map_none, Option.getD_some, Bool.false_eq_true, if_false, unread, List.append_nil,
    List.forall_mem_append, List.forall_mem_cons]
  simp only [h.location, h.clockInLocation, h.clockOutLocation, h.userId, h.name, h.desc,
    h.driverStartAt, h.driverFinishAt, h.startDate, h.finishDate, h.controllerId,
    h.controllerName, h.isDisable, h.status, h.clockInStatus, h.clockOutStatus,
    h.clockOutCommand, h.clockInCommand, h.type, h.taskGroup, h.skipReason, implies_true,
    ne_eq, not_true_eq_false, false_implies, List.not_mem_nil, true_and]
  exact reference

/-- Writing a task back as it was read renames its location and does nothing else. -/
theorem update_toJson_of_decodes {id : String} {data : Doc} {m : TaskModel}
    (h : Decodes id data m) :
    update data (toJson m (some false)) =
      update data [("location_name", .str "Suvarnabhumi Airport")] := by
  have written : ("location_name", Value.str "Suvarnabhumi Airport") ∈ toJson m (some false) := by
    simp [toJson]
  funext k
  by_cases hk : k = "location_name"
  · rw [hk, update_of_mem (keys_toJson_nodup m _) written, update_of_mem (by decide)]
    exact List.mem_cons_self
  · have kept : update data (toJson m (some false)) k = data k := by
      rw [update_eq_self_iff (keys_toJson_nodup m _)]
      exact fun w hw => toJson_of_decodes h (k, w) hw hk
    rw [kept, update_of_not_mem]
    simpa [keys] using hk

/-- Re-encoding changes nothing iff the location already has the name that `toJson` writes. -/
theorem reencode_eq_self_iff {id : String} {data : Doc} {m : TaskModel}
    (h : fromDocumentSnapshot id data = some m) :
    update data (toJson m (some false)) = data ↔
      data "location_name" = .str "Suvarnabhumi Airport" := by
  rw [update_toJson_of_decodes (fromDocumentSnapshot_eq_some h)]
  constructor
  · intro heq
    rw [← heq]
    rfl
  · intro hname
    funext k
    rw [update_eq_self_iff (by decide)]
    intro w hw
    cases List.mem_singleton.mp hw
    exact hname.symm

/-- A task as a controller creates it; every other field is absent. -/
def plannedTask (status : String) (startTime finishTime : Int) : Doc :=
  update (fun _ => .null)
    [("status", .str status), ("employee_id", .str "e1"), ("is_disabled", .bool false),
      ("start_time", .timestamp startTime), ("finish_time", .timestamp finishTime)]

/-- What such a task decodes to. -/
def plannedModel (id status : String) (startTime finishTime : Int) : TaskModel :=
  { taskId := some id
    userId := some "e1"
    isDisable := some false
    status := some status
    startDate := some startTime
    finishDate := some finishTime }

theorem fromDocumentSnapshot_plannedTask (id status : String) (startTime finishTime : Int) :
    fromDocumentSnapshot id (plannedTask status startTime finishTime) =
      some (plannedModel id status startTime finishTime) := rfl

/-- A task at a location of the given name. -/
def taskAt (locationName : String) : Doc :=
  update (plannedTask TaskStatus.new 0 0) [("location_name", .str locationName)]

def taskAtModel (locationName : String) : TaskModel :=
  { plannedModel "t1" TaskStatus.new 0 0 with locationName := some locationName }

theorem reencode_eq_self_at_airport :
    update (taskAt "Suvarnabhumi Airport")
        (toJson (taskAtModel "Suvarnabhumi Airport") (some false)) =
      taskAt "Suvarnabhumi Airport" ↔
        taskAt "Suvarnabhumi Airport" "location_name" = .str "Suvarnabhumi Airport" :=
  reencode_eq_self_iff (show fromDocumentSnapshot "t1" (taskAt "Suvarnabhumi Airport") =
    some (taskAtModel "Suvarnabhumi Airport") from rfl)

/-- A task at another location is moved to the airport. -/
theorem reencode_moves_task :
    ¬ ∀ (id : String) (data : Doc) (m : TaskModel), fromDocumentSnapshot id data = some m →
        update data (toJson m (some false)) = data := by
  intro claim
  have same := claim "t1" (taskAt "Bangkok") (taskAtModel "Bangkok") rfl
  have moved : update (taskAt "Bangkok") (toJson (taskAtModel "Bangkok") (some false))
      "location_name" = .str "Suvarnabhumi Airport" := by decide
  rw [same] at moved
  exact absurd moved (by decide)

end TasksModel
