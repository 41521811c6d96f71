import AsmWt.TaskCalendar
import AsmWt.TaskRequest

/-!
# A requested task from the form to the calendar

A request becomes a document, the document comes back in the snapshot of the
calendar, is decoded, and is sorted under the day it starts on. Between the press
and the snapshot anybody may write to other tasks, or to this one.
-/

namespace RequestedTask

open KeyedRecord Firestore TasksModel WallClock DeletedTask TaskCalendar TaskRequest Interleaving
open DocStore

/-- The server fills its time in. -/
def stamp (time : Int) : Value → Value
  | .serverTimestamp => .timestamp time
  | v => v

/-- The document that is added for the data. -/
def stored (time : Int) (data : Payload) : Doc :=
  update (fun _ => .null) (data.map fun e => (e.1, stamp time e.2))

/-- A request that was stored, with the controller as it was when the button was pressed. -/
structure Request where
  taskId : String
  form : Form
  pressed : TaskRequest.State
  start : Time
  finish : Time
  time : Int

/-- The form, the tasks, and the requests whose documents nothing else has written to. -/
structure State where
  controller : TaskRequest.State
  tasks : Collection
  requests : List Request := []

/-- What happens to the form, a press whose task may be added under a new id, and writes to any
task: updates, deletions and tasks that others add. -/
inductive Event where
  | form (e : TaskRequest.Event)
  | onCreatedBtnPressed (form : Form) (validates : Bool) (added : Option (String × Int))
  | updateTaskStatusByTaskId (taskId : String) (data : Payload)
  | deleteTaskNotedById (taskId : String)
  | add (taskId : String) (doc : Doc)

/-- The press that stores a task is an event of its own. -/
def stores : TaskRequest.Event → Bool
  | .onCreatedBtnPressed _ _ added => added
  | _ => false

def State.untouched (s : State) (taskId : String) : List Request :=
  s.requests.filter fun r => r.taskId ≠ taskId

def step (z : Zone) (s : State) : Event → Option State
  | .form e =>
    if stores e then none
    else (TaskRequest.step z s.controller e).map fun controller => { s with controller }
  | .onCreatedBtnPressed form validates none =>
    (TaskRequest.step z s.controller (.onCreatedBtnPressed form validates false)).map
      fun controller => { s with controller }
  | .onCreatedBtnPressed form validates (some (taskId, time)) => do
    let start ← s.controller.startTimePicker
    let finish ← s.controller.finishTimePicker
    let data ← (if validates then s.controller.request z form else none : Option Payload)
    let tasks ← s.tasks.insert taskId (stored time data)
    let controller ← TaskRequest.step z s.controller (.onCreatedBtnPressed form validates true)
    some
      { controller
        tasks
        requests := ⟨taskId, form, s.controller, start, finish, time⟩ :: s.requests }
  | .updateTaskStatusByTaskId taskId data =>
    (updateData s.tasks taskId data).map fun tasks =>
      { s with tasks, requests := s.untouched taskId }
  | .deleteTaskNotedById taskId =>
    some { s with tasks := s.tasks.remove taskId, requests := s.untouched taskId }
  | .add taskId doc => (s.tasks.insert taskId doc).map fun tasks => { s with tasks }

namespace Request

variable (z : Zone) (r : Request)

def startDate : Int :=
  dateTime z (r.pressed.selectedStartDay.date z) r.start.hour r.start.minute r.start.second

def finishDate : Int :=
  dateTime z (r.pressed.selectedFinishDay.date z) r.finish.hour r.finish.minute r.finish.second

/-- What was handed to `createUserTaskNote`. -/
def data : Payload :=
  toJson (requestedTask r.pressed r.form (r.startDate z) (r.finishDate z)) (some true)

/-- The task the calendar has of it. -/
def task : TaskModel :=
  { requestedTask r.pressed r.form (r.startDate z) (r.finishDate z) with
    taskId := some r.taskId
    locationName := some "Suvarnabhumi Airport"
    createDate := some r.time }

/-- The picked day; hour 24 is the beginning of the next one. -/
def day : CivilDate :=
  dateOf (dayOf (r.pressed.selectedStartDay.date z) + if r.start.hour = 24 then 1 else 0)

end Request

/-- The list the calendar shows under a day. -/
def listOf (z : Zone) (c : TaskCalendar.State) (day : CivilDate) (shown : List TaskModel) :
    List TaskModel :=
  let (c, l) := findSelectedTime z c (some day) shown
  c.lists[l]?.getD []

/-- Whenever the calendar of some employee is built, the request is in the list of its day exactly
if it is that employee's and starts within the bounds of the query; and it is there as it was
made. -/
structure Reaches (z : Zone) (tasks : Collection) (r : Request) : Prop where
  listed : ∀ now userId shown, taskModels (getTasksSnapshotByUserId now tasks userId) = some shown →
    ∀ c day, (∃ task ∈ listOf z c day shown, task.taskId = some r.taskId) ↔
      day = r.day z ∧ r.form.userId = some userId ∧ userId ≠ "" ∧
        now - 15 * dayMicros ≤ r.startDate z ∧ r.startDate z ≤ now + 5 * dayMicros
  same : ∀ now userId shown, taskModels (getTasksSnapshotByUserId now tasks userId) = some shown →
    ∀ c day, ∀ task ∈ listOf z c day shown, task.taskId = some r.taskId → task = r.task z

section Document

variable {time : Int} {m : TaskModel}

/-- Only the time of the server is filled in. -/
theorem stamp_ofConstructor {α : Type} {mk : α → Value} {read : Value → Option α}
    {read_iff : ∀ v a, read v = some a ↔ v = mk a} {mk_ne : ∀ a, mk a ≠ .null}
    (same : ∀ a, stamp time (mk a) = mk a) (a : Option α) :
    stamp time ((Codec.ofConstructor mk read read_iff mk_ne).encode a) =
      (Codec.ofConstructor mk read read_iff mk_ne).encode a := by
  cases a with
  | none => rfl
  | some a => exact same a

theorem keys_stamped (data : Payload) :
    keys (data.map fun e => (e.1, stamp time e.2)) = keys data := by
  simp [keys]

theorem stored_of_mem {k : String} {v w : Value} (hv : stamp time v = w)
    (h : (k, v) ∈ toJson m (some true)) : stored time (toJson m (some true)) k = w := by
  rw [stored, update_of_mem]
  · rw [keys_stamped]
    exact keys_toJson_nodup m _
  · exact List.mem_map.mpr ⟨(k, v), h, by rw [hv]⟩

theorem optional_not_mem {k k' : String} (hk : k ≠ k') (v : Option Value) :
    k' ∉ keys (Firestore.optional k v) := fun hmem =>
  hk (List.mem_singleton.mp ((keys_optional_sublist k v).subset hmem)).symm

theorem employeeRef_not_mem (h : m.employeeModelRefData = none) (isCreateNew : Option Bool) :
    "employeeRef" ∉ keys (toJson m isCreateNew) := by
  simp only [toJson, keys_append, List.mem_append, not_or, h, Option.map_none]
  refine ⟨⟨⟨⟨⟨⟨⟨⟨by simp [keys], optional_not_mem (by decide) _⟩, optional_not_mem (by decide) _⟩,
    optional_not_mem (by decide) _⟩, optional_not_mem (by decide) _⟩, ?_⟩,
    optional_not_mem (by decide) _⟩, ?_⟩, ?_⟩
  · simp [keys]
  · simp [keys]
  · simp [keys, Firestore.optional]

/-- What is read from the document that is added for a task. -/
def readBack (taskId : String) (time : Int) (m : TaskModel) : TaskModel :=
  { m with
    taskId := some taskId
    locationName := some "Suvarnabhumi Airport"
    createDate := some time
    clockInAreaEn := none
    clockInAreaTh := none
    clockOutAreaEn := none
    clockOutAreaTh := none }

theorem decodes_stored (taskId : String) (time : Int) (m : TaskModel) :
    Decodes taskId (stored time (toJson m (some true))) (readBack taskId time m) := by
  have string {k : String} {a : Option String}
      (h : (k, Codec.string.encode a) ∈ toJson m (some true)) :
      stored time (toJson m (some true)) k = Codec.string.encode a :=
    stored_of_mem (stamp_ofConstructor (fun _ => rfl) a) h
  have timestamp {k : String} {a : Option Int}
      (h : (k, Codec.timestamp.encode a) ∈ toJson m (some true)) :
      stored time (toJson m (some true)) k = Codec.timestamp.encode a :=
    stored_of_mem (stamp_ofConstructor (fun _ => rfl) a) h
  have geoPoint {k : String} {a : Option GeoPoint}
      (h : (k, Codec.geoPoint.encode a) ∈ toJson m (some true)) :
      stored time (toJson m (some true)) k = Codec.geoPoint.encode a :=
    stored_of_mem (stamp_ofConstructor (fun _ => rfl) a) h
  constructor
  case employeeModelRefData =>
    change _ = Codec.reference.encode m.employeeModelRefData
    cases hr : m.employeeModelRefData with
    | none =>
      rw [stored, update_of_not_mem]
      · rfl
      · rw [keys_stamped]
        exact employeeRef_not_mem hr _
    | some path =>
      apply stored_of_mem (v := .reference path) rfl
      simp [toJson, hr, Firestore.optional]
  case isDisable =>
    apply stored_of_mem (stamp_ofConstructor (fun _ => rfl) m.isDisable)
    simp [toJson, Codec.bool]
  case createDate =>
    apply stored_of_mem (v := .serverTimestamp) rfl
    simp [toJson, Firestore.optional]
  case locationName => exact stored_of_mem (v := .str _) rfl (by simp [toJson])
  case location => exact geoPoint (by simp [toJson, readBack])
  case clockInLocation => exact geoPoint (by simp [toJson, readBack])
  case clockOutLocation => exact geoPoint (by simp [toJson, readBack])
  case driverStartAt => exact timestamp (by simp [toJson, readBack])
  case driverFinishAt => exact timestamp (by simp [toJson, readBack])
  case startDate => exact timestamp (by simp [toJson, readBack])
  case finishDate => exact timestamp (by simp [toJson, readBack])
  case taskId => rfl
  case clockInAreaEn => rfl
  case clockInAreaTh => rfl
  case clockOutAreaEn => rfl
  case clockOutAreaTh => rfl
  all_goals exact string (by simp [toJson, readBack])

end Document

section Calendar

variable {z : Zone} {tasks : Collection} {r : Request}
variable {now : Int} {userId : String} {shown : List TaskModel}

theorem listOf_eq (c : TaskCalendar.State) (day : CivilDate) (shown : List TaskModel) :
    listOf z c day shown = Grouping.group (startDay z) shown day := by
  rw [listOf, findSelectedTime_eq]
  simp

theorem decodes_data : Decodes r.taskId (stored r.time (r.data z)) (r.task z) :=
  decodes_stored r.taskId r.time _

/-- What the query asks of the document. -/
theorem ofCalendar_data : ofCalendar now userId (stored r.time (r.data z)) = true ↔
    r.form.userId = some userId ∧
      now - 15 * dayMicros ≤ r.startDate z ∧ r.startDate z ≤ now + 5 * dayMicros := by
  have employee : stored r.time (r.data z) "employee_id" = Codec.string.encode r.form.userId :=
    decodes_data.userId
  have start : stored r.time (r.data z) "start_time" = .timestamp (r.startDate z) :=
    decodes_data.startDate
  rw [ofCalendar, employee, start, decide_eq_true_iff, Codec.string_encode_eq_str_iff,
    startsWithin, decide_eq_true_iff]

theorem status_data : stored r.time (r.data z) "status" = .str TaskStatus.confirm :=
  decodes_data.status

/-- The task of the request is shown exactly if the query delivers its document. -/
theorem mem_shown_iff (hget : tasks.get? r.taskId = some (stored r.time (r.data z)))
    (hshown : taskModels (getTasksSnapshotByUserId now tasks userId) = some shown)
    (task : TaskModel) :
    task ∈ shown ∧ task.taskId = some r.taskId ↔
      task = r.task z ∧ userId ≠ "" ∧ ofCalendar now userId (stored r.time (r.data z)) = true := by
  have hmem := Store.get?_eq_some_iff.mp hget
  have hread := fromDocumentSnapshot_of_decodes (decodes_data (z := z) (r := r))
  obtain ⟨decoded, hdecoded, hfiltered⟩ := Option.bind_eq_some_iff.mp hshown
  cases hfiltered
  rw [List.mem_filter, mem_of_mapM_eq_some hdecoded]
  constructor
  · rintro ⟨⟨⟨doc, hdoc, hm⟩, -⟩, hid⟩
    have hne : userId ≠ "" := by
      rintro rfl
      cases hdoc
    rw [getTasksSnapshotByUserId, if_neg hne, List.mem_insertionSort, List.mem_filter] at hdoc
    obtain ⟨hentry, hqueried⟩ := hdoc
    have same : doc.1 = r.taskId :=
      Option.some.inj ((fromDocumentSnapshot_eq_some hm).taskId.symm.trans hid)
    have hdata : doc.2 = stored r.time (r.data z) := by
      have found := Store.get?_eq_some_iff.mpr hentry
      rw [same, hget] at found
      exact (Option.some.inj found).symm
    rw [same, hdata, hread] at hm
    rw [hdata] at hqueried
    exact ⟨(Option.some.inj hm).symm, hne, ((Bool.and_eq_true _ _).mp hqueried).1⟩
  · rintro ⟨rfl, hne, hof⟩
    refine ⟨⟨⟨(r.taskId, stored r.time (r.data z)), ?_, hread⟩, ?_⟩, rfl⟩
    · rw [getTasksSnapshotByUserId, if_neg hne, List.mem_insertionSort, List.mem_filter]
      have kept : isNotEqualTo (stored r.time (r.data z) "status") TaskStatus.delete = true := by
        rw [status_data]
        decide
      exact ⟨hmem, (Bool.and_eq_true _ _).mpr ⟨hof, kept⟩⟩
    · exact decide_eq_true (by decide : some TaskStatus.confirm ≠ some TaskStatus.delete)

/-- In a zone that keeps its offset the task starts on the picked day. -/
theorem date_startDate (offset : Int) (r : Request) :
    (Zone.fixed offset).date (r.startDate (Zone.fixed offset)) = r.day (Zone.fixed offset) := by
  have hour := r.start.hour_range
  have minute := r.start.minute_range
  have second := r.start.second_range
  rw [Zone.date, Request.day, dateOf_inj]
  generalize hd : dayOf (r.pressed.selectedStartDay.date (Zone.fixed offset)) = d
  simp only [Zone.day, Zone.fixed, Request.startDate, dateTime, dayMicros, hourMicros,
    minuteMicros, secondMicros] at hd ⊢
  rw [hd]
  split
  · case isTrue last => omega
  · case isFalse early => omega

theorem reaches_of_get? {offset : Int}
    (hget : tasks.get? r.taskId = some (stored r.time (r.data (Zone.fixed offset)))) :
    Reaches (Zone.fixed offset) tasks r := by
  constructor
  · intro now userId shown hshown c day
    have onDay : startDay (Zone.fixed offset) (r.task (Zone.fixed offset)) = some day ↔
        day = r.day (Zone.fixed offset) := by
      change some ((Zone.fixed offset).date (r.startDate (Zone.fixed offset))) = some day ↔ _
      rw [date_startDate, Option.some.injEq, eq_comm]
    rw [listOf_eq]
    constructor
    · rintro ⟨task, htask, hid⟩
      obtain ⟨hmem, hday⟩ := Grouping.mem_group.mp htask
      obtain ⟨rfl, hne, hof⟩ := (mem_shown_iff hget hshown task).mp ⟨hmem, hid⟩
      obtain ⟨huser, early, late⟩ := ofCalendar_data.mp hof
      exact ⟨onDay.mp hday, huser, hne, early, late⟩
    · rintro ⟨hday, huser, hne, early, late⟩
      have hof := ofCalendar_data.mpr ⟨huser, early, late⟩
      obtain ⟨hmem, hid⟩ := (mem_shown_iff hget hshown _).mpr ⟨rfl, hne, hof⟩
      exact ⟨_, Grouping.mem_group.mpr ⟨hmem, onDay.mpr hday⟩, hid⟩
  · intro now userId shown hshown c day task htask hid
    rw [listOf_eq] at htask
    exact ((mem_shown_iff hget hshown task).mp ⟨(Grouping.mem_group.mp htask).1, hid⟩).1

end Calendar

section Run

variable {z : Zone} {s t : State}

/-- The documents of the requests that nothing else has written to are as they were added. -/
def Inv (z : Zone) (s : State) : Prop :=
  ∀ r ∈ s.requests, s.tasks.get? r.taskId = some (stored r.time (r.data z))

theorem mem_untouched {taskId : String} {r : Request} :
    r ∈ s.untouched taskId ↔ r ∈ s.requests ∧ r.taskId ≠ taskId := by
  simp [State.untouched]

/-- A request hands over the data of its times. -/
theorem request_eq {s : TaskRequest.State} {form : Form} {data : Payload} {start finish : Time}
    (hstart : s.startTimePicker = some start) (hfinish : s.finishTimePicker = some finish)
    (h : s.request z form = some data) (taskId : String) (time : Int) :
    data = Request.data z ⟨taskId, form, s, start, finish, time⟩ := by
  rw [TaskRequest.State.request, hstart, hfinish] at h
  obtain ⟨-, h⟩ := Option.ite_none_right_eq_some.mp h
  exact (Option.some.inj h).symm

theorem step_inv {e : Event} (h : Inv z s) (hstep : step z s e = some t) : Inv z t := by
  cases e with
  | form e =>
    obtain ⟨-, hstep⟩ := Option.ite_none_left_eq_some.mp hstep
    obtain ⟨controller, -, rfl⟩ := Option.map_eq_some_iff.mp hstep
    exact h
  | onCreatedBtnPressed form validates added =>
    cases added with
    | none =>
      obtain ⟨controller, -, rfl⟩ := Option.map_eq_some_iff.mp hstep
      exact h
    | some added =>
      obtain ⟨taskId, time⟩ := added
      obtain ⟨start, hstart, hstep⟩ := Option.bind_eq_some_iff.mp hstep
      obtain ⟨finish, hfinish, hstep⟩ := Option.bind_eq_some_iff.mp hstep
      obtain ⟨data, hdata, hstep⟩ := Option.bind_eq_some_iff.mp hstep
      obtain ⟨tasks, htasks, hstep⟩ := Option.bind_eq_some_iff.mp hstep
      obtain ⟨controller, -, hstep⟩ := Option.bind_eq_some_iff.mp hstep
      cases hstep
      obtain ⟨-, hdata⟩ := Option.ite_none_right_eq_some.mp hdata
      intro r hr
      rcases List.mem_cons.mp hr with rfl | hr
      · rw [request_eq hstart hfinish hdata taskId time] at htasks
        exact Store.get?_eq_some_iff.mpr ((Store.mem_insert htasks).mpr (Or.inl ⟨rfl, rfl⟩))
      · exact Store.get?_insert_of_get? htasks (h r hr)
  | updateTaskStatusByTaskId taskId data =>
    obtain ⟨tasks, htasks, rfl⟩ := Option.map_eq_some_iff.mp hstep
    intro r hr
    obtain ⟨hr, hne⟩ := mem_untouched.mp hr
    apply Store.get?_eq_some_iff.mpr
    exact (Store.mem_modify htasks).mpr (Or.inl ⟨hne, Store.get?_eq_some_iff.mp (h r hr)⟩)
  | deleteTaskNotedById taskId =>
    cases hstep
    intro r hr
    obtain ⟨hr, hne⟩ := mem_untouched.mp hr
    apply Store.get?_eq_some_iff.mpr
    exact Store.mem_remove.mpr ⟨Store.get?_eq_some_iff.mp (h r hr), hne⟩
  | add taskId doc =>
    obtain ⟨tasks, htasks, rfl⟩ := Option.map_eq_some_iff.mp hstep
    intro r hr
    exact Store.get?_insert_of_get? htasks (h r hr)

/-- Along every run. -/
theorem always_stored (z : Zone) (controller : TaskRequest.State) (tasks : Collection)
    (es : List Event) : EveryState (step z) (Inv z) { controller, tasks } es := by
  have start : Inv z { controller, tasks } := fun _ hr => nomatch hr
  exact everyState_of_inv (fun _ _ _ h hstep => step_inv h hstep) start es

/-- In every state of every run, each request that was stored and not written to since reaches the
calendar of its employee, under the day that was picked and with what was entered. -/
theorem requests_reach_calendar (offset : Int) (controller : TaskRequest.State)
    (tasks : Collection) (es : List Event) :
    EveryState (step (Zone.fixed offset))
      (fun s => ∀ r ∈ s.requests, Reaches (Zone.fixed offset) s.tasks r)
      { controller, tasks } es :=
  (always_stored (Zone.fixed offset) controller tasks es).mono fun _ h r hr =>
    reaches_of_get? (h r hr)

end Run

end RequestedTask
