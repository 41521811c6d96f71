import AsmWt.Interleaving
import AsmWt.ClockProcess

/-!
# The monthly report and the tasks it counts

A late clock-in and an early clock-out are counted before the task is written,
a completed task is counted after a write that succeeded, and no result of a
counter call is looked at. Operations follow each other; a retry is one more
operation on whatever model its page holds.
-/

namespace ReportCounters

open KeyedRecord Firestore TasksModel UserProfile ClockProcess Interleaving DocStore

/-- The month's entry of the organization's `TaskStatusReport` document. -/
structure MonthReport where
  lateStart : Nat := 0
  earlyFinish : Nat := 0
  completed : Nat := 0

/-- Which backend calls of an operation succeed. -/
structure Outcome where
  timeServer : Bool := true
  counter : Bool := true
  write : Bool := true
  completedCounter : Bool := true

structure Operation where
  kind : ClockEvent
  model : TaskModel
  confirmation : Confirmation := {}
  outcome : Outcome := {}

/-- `completedFailed` tells whether a call that counts a completed task has failed. -/
structure State where
  tasks : Collection
  report : MonthReport := {}
  completedFailed : Bool := false

/-- The write of an operation, which throws when the backend does not answer. -/
def write (tasks : Collection) (data : Payload) (reached : Bool) (taskId : String) :
    Option Collection :=
  if reached then updateData tasks taskId data else none

/-- `increaseLateStartTaskByDocID` in `clockInProcess` and `increaseEarlyFinishTaskByDocID` in
`clockOutProcess`, on the model the process has filled in. -/
def countPunctuality (kind : ClockEvent) (m : TaskModel) (ok : Bool) (r : MonthReport) :
    MonthReport :=
  match kind with
  | .clockIn =>
    if m.clockInStatus = some ClockStatus.late ∧ ok then { r with lateStart := r.lateStart + 1 }
    else r
  | .clockOut =>
    if m.clockOutStatus = some ClockStatus.early ∧ ok then
      { r with earlyFinish := r.earlyFinish + 1 }
    else r

/-- `increaseCompletedTaskByDocID`, which only `clockOutProcess` calls. -/
def countCompleted (kind : ClockEvent) (ok : Bool) (s : State) : State :=
  match kind with
  | .clockIn => s
  | .clockOut =>
    if ok then { s with report := { s.report with completed := s.report.completed + 1 } }
    else { s with completedFailed := true }

/-- `clockInProcess` and `clockOutProcess` with the calls they make, in order. -/
def operate (s : State) (op : Operation) : State :=
  if op.outcome.timeServer then
    match clockModel op.kind op.model op.confirmation with
    | none => s
    | some m =>
      let report := countPunctuality op.kind m op.outcome.counter s.report
      let data := modelData op.kind m op.confirmation.userModel
      match updateTaskStatusByTaskId m.taskId (write s.tasks data op.outcome.write) with
      | none => { s with report }
      | some tasks => countCompleted op.kind op.outcome.completedCounter { s with tasks, report }
  else s

def step (s : State) (op : Operation) : Option State := some (operate s op)

def isLate (d : Doc) : Bool := d "clock_in_status" = .str ClockStatus.late
def isEarly (d : Doc) : Bool := d "clock_out_status" = .str ClockStatus.early
def isDone (d : Doc) : Bool := d "status" = .str TaskStatus.done

/-- The report counts what is stored, the completed tasks as long as their counter call never
failed. -/
structure Agree (s : State) : Prop where
  lateStart : s.report.lateStart = s.tasks.count isLate
  earlyFinish : s.report.earlyFinish = s.tasks.count isEarly
  completed : s.completedFailed = false → s.report.completed = s.tasks.count isDone

/-- The stored document that an operation's write takes effect on. -/
def written (s : State) (op : Operation) : Option Doc :=
  if op.outcome.write then
    op.model.taskId.bind fun id => if id = "" then none else s.tasks.get? id
  else none

/-- Whether the operation happens after the planned start or before the planned finish. -/
def isOffTime (op : Operation) : Bool :=
  match op.kind with
  | .clockIn => op.model.startDate.any fun planned => planned < op.confirmation.serverTimeNow
  | .clockOut => op.model.finishDate.any fun planned => op.confirmation.serverTimeNow < planned

/-- The planned time the process cannot do without. -/
def planned (op : Operation) : Option Int :=
  match op.kind with
  | .clockIn => op.model.startDate
  | .clockOut => op.model.finishDate

/-- A counter call is in step with a write: it counts a mark that appears, and without it
the mark stays as it was. -/
def InStep (counted before after : Bool) : Prop :=
  if counted then before = false ∧ after = true else before = after

/-- When an operation's counter calls and its write fit together. Without a write nothing
may be counted. With one, the operation's own mark is counted iff it is new, the mark of the
other kind is sent back as it is stored, and the task was not done before. -/
def CountedOnce (s : State) (op : Operation) : Prop :=
  op.outcome.timeServer = true → (planned op).isSome →
    match written s op with
    | none => (isOffTime op && op.outcome.counter) = false
    | some d =>
      match op.kind with
      | .clockIn =>
        InStep (isOffTime op && op.outcome.counter) (isLate d) (isOffTime op) ∧
          isEarly d = decide (op.model.clockOutStatus = some ClockStatus.early) ∧
          (s.completedFailed = false → isDone d = false)
      | .clockOut =>
        isLate d = decide (op.model.clockInStatus = some ClockStatus.late) ∧
          InStep (isOffTime op && op.outcome.counter) (isEarly d) (isOffTime op) ∧
          (s.completedFailed = false → op.outcome.completedCounter = true → isDone d = false)

/-- The arithmetic of one counter against one count. -/
theorem inStep_iff {counter count count' : Nat} {counted before after : Bool}
    (agree : counter = count) (moved : count' + before.toNat = count + after.toNat) :
    counter + counted.toNat = count' ↔ InStep counted before after := by
  cases counted <;> cases before <;> cases after <;> simp [InStep] at moved ⊢ <;> omega

theorem isLate_update (kind : ClockEvent) (m : TaskModel) (userModel : Option UserModel) (d : Doc) :
    isLate (update d (modelData kind m userModel)) =
      decide (m.clockInStatus = some ClockStatus.late) := by
  simp only [isLate, update_modelData (clockInStatus_mem_toJson m _),
    Codec.string_encode_eq_str_iff]

theorem isEarly_update (kind : ClockEvent) (m : TaskModel) (userModel : Option UserModel)
    (d : Doc) : isEarly (update d (modelData kind m userModel)) =
      decide (m.clockOutStatus = some ClockStatus.early) := by
  simp only [isEarly, update_modelData (clockOutStatus_mem_toJson m _),
    Codec.string_encode_eq_str_iff]

theorem isDone_update (kind : ClockEvent) (m : TaskModel) (userModel : Option UserModel) (d : Doc) :
    isDone (update d (modelData kind m userModel)) =
      decide (m.status = some TaskStatus.done) := by
  simp only [isDone, update_modelData (status_mem_toJson m _), Codec.string_encode_eq_str_iff]

/-- The write of an operation takes effect exactly on `written`. -/
theorem updateTask_of_written_none {s : State} {op : Operation} (h : written s op = none)
    (data : Payload) :
    updateTaskStatusByTaskId op.model.taskId (write s.tasks data op.outcome.write) = none := by
  unfold written at h
  unfold updateTaskStatusByTaskId
  cases hw : op.outcome.write with
  | false => cases op.model.taskId <;> simp [write]
  | true =>
    rw [hw, if_pos rfl] at h
    cases ht : op.model.taskId with
    | none => rfl
    | some id =>
      rw [ht, Option.bind_some] at h
      by_cases hid : id = ""
      · simp [hid]
      · rw [if_neg hid] at h
        have hmem : id ∉ s.tasks.entries.map Prod.fst := by
          rw [← Store.get?_isSome_iff, h]
          exact Bool.false_ne_true
        simp [write, hid, updateData, Store.modify, hmem]

theorem updateTask_of_written {s : State} {op : Operation} {d : Doc} (h : written s op = some d)
    (data : Payload) :
    ∃ id tasks, s.tasks.get? id = some d ∧
      s.tasks.modify id (fun d => update d data) = some tasks ∧
      updateTaskStatusByTaskId op.model.taskId (write s.tasks data op.outcome.write) =
        some tasks := by
  unfold written at h
  cases hw : op.outcome.write with
  | false => rw [hw] at h; cases h
  | true =>
    rw [hw, if_pos rfl] at h
    obtain ⟨id, ht, h⟩ := Option.bind_eq_some_iff.mp h
    by_cases hid : id = ""
    · rw [if_pos hid] at h
      cases h
    · rw [if_neg hid] at h
      obtain ⟨tasks, htasks, -⟩ := Store.modify_of_get? h fun d => update d data
      refine ⟨id, tasks, h, htasks, ?_⟩
      simpa [updateTaskStatusByTaskId, write, ht, hid, updateData] using htasks

theorem toNat_eq_ite (b : Bool) : (if b = true then 1 else 0) = b.toNat := by
  cases b <;> rfl

/-- A process marks its model off time exactly when the operation was. -/
theorem callsCounter_clockModel {op : Operation} {m : TaskModel}
    (h : clockModel op.kind op.model op.confirmation = some m) :
    callsCounter op.kind m = isOffTime op := by
  cases hk : op.kind with
  | clockIn =>
    rw [hk] at h
    obtain ⟨startDate, hs, rfl⟩ := clockInProcess_eq_some h
    have hs : op.model.startDate = some startDate := hs
    simp only [callsCounter, isOffTime, hk, hs, Option.any_some, Option.some.injEq,
      clockStatus_eq_late_iff]
  | clockOut =>
    rw [hk] at h
    obtain ⟨finishDate, hf, rfl⟩ := clockOutProcess_eq_some h
    have hf : op.model.finishDate = some finishDate := hf
    simp only [callsCounter, isOffTime, hk, hf, Option.any_some, Option.some.injEq,
      clockStatus_eq_early_iff]

theorem countPunctuality_clockIn (m : TaskModel) (ok : Bool) (r : MonthReport) :
    countPunctuality .clockIn m ok r =
      { r with lateStart := r.lateStart + (callsCounter .clockIn m && ok).toNat } := by
  simp only [countPunctuality, callsCounter]
  by_cases h : m.clockInStatus = some ClockStatus.late <;> cases ok <;> simp [h]

theorem countPunctuality_clockOut (m : TaskModel) (ok : Bool) (r : MonthReport) :
    countPunctuality .clockOut m ok r =
      { r with earlyFinish := r.earlyFinish + (callsCounter .clockOut m && ok).toNat } := by
  simp only [countPunctuality, callsCounter]
  by_cases h : m.clockOutStatus = some ClockStatus.early <;> cases ok <;> simp [h]

/-- What an operation keeps of the page's model. -/
theorem clockModel_keeps {op : Operation} {m : TaskModel}
    (h : clockModel op.kind op.model op.confirmation = some m) :
    (planned op).isSome = true ∧ m.taskId = op.model.taskId ∧
      (op.kind = .clockIn → m.clockOutStatus = op.model.clockOutStatus) ∧
      (op.kind = .clockOut → m.clockInStatus = op.model.clockInStatus) := by
  unfold planned
  cases hk : op.kind with
  | clockIn =>
    rw [hk] at h
    obtain ⟨startDate, hs, rfl⟩ := clockInProcess_eq_some h
    have hs : op.model.startDate = some startDate := hs
    exact ⟨by rw [hs]; rfl, rfl, fun _ => rfl, nofun⟩
  | clockOut =>
    rw [hk] at h
    obtain ⟨finishDate, hf, rfl⟩ := clockOutProcess_eq_some h
    have hf : op.model.finishDate = some finishDate := hf
    exact ⟨by rw [hf]; rfl, rfl, nofun, fun _ => rfl⟩

theorem planned_eq_none {op : Operation}
    (h : clockModel op.kind op.model op.confirmation = none) : planned op = none := by
  unfold planned
  cases hk : op.kind with
  | clockIn =>
    rw [hk] at h
    exact Option.map_eq_none_iff.mp h
  | clockOut =>
    rw [hk] at h
    exact Option.map_eq_none_iff.mp h

/-- An operation whose task write takes no effect must not have counted anything. -/
theorem agree_report_iff {s : State} (hs : Agree s) {r : MonthReport} (counted : Bool)
    (hr : r = { s.report with lateStart := s.report.lateStart + counted.toNat } ∨
      r = { s.report with earlyFinish := s.report.earlyFinish + counted.toNat }) :
    Agree { s with report := r } ↔ counted = false := by
  obtain ⟨hl, he, hd⟩ := hs
  rcases hr with rfl | rfl
  · constructor
    · intro h
      have h1 : s.report.lateStart + counted.toNat = s.tasks.count isLate := h.lateStart
      cases counted with
      | false => rfl
      | true => simp only [Bool.toNat_true] at h1; omega
    · rintro rfl
      exact ⟨hl, he, hd⟩
  · constructor
    · intro h
      have h1 : s.report.earlyFinish + counted.toNat = s.tasks.count isEarly := h.earlyFinish
      cases counted with
      | false => rfl
      | true => simp only [Bool.toNat_true] at h1; omega
    · rintro rfl
      exact ⟨hl, he, hd⟩

/-- Three counters against three counts: each has to be in step with the task written. -/
theorem agree_modify_iff {s : State} (hs : Agree s) {id : String} {f : Doc → Doc} {d : Doc}
    {tasks : Collection} (hd : s.tasks.get? id = some d) (ht : s.tasks.modify id f = some tasks)
    (late early done failed : Bool) (hfailed : failed = false → s.completedFailed = false) :
    Agree ⟨tasks, ⟨s.report.lateStart + late.toNat, s.report.earlyFinish + early.toNat,
        s.report.completed + done.toNat⟩, failed⟩ ↔
      InStep late (isLate d) (isLate (f d)) ∧ InStep early (isEarly d) (isEarly (f d)) ∧
        (failed = false → InStep done (isDone d) (isDone (f d))) := by
  have moved : ∀ p : Doc → Bool,
      tasks.count p + (p d).toNat = s.tasks.count p + (p (f d)).toNat := by
    intro p
    have h := Store.count_modify ht hd p
    simpa only [toNat_eq_ite] using h
  have completed : (failed = false → InStep done (isDone d) (isDone (f d))) ↔
      (failed = false → s.report.completed + done.toNat = tasks.count isDone) :=
    forall_congr' fun hf => (inStep_iff (hs.completed (hfailed hf)) (moved isDone)).symm
  rw [← inStep_iff hs.lateStart (moved isLate), ← inStep_iff hs.earlyFinish (moved isEarly),
    completed]
  exact ⟨fun h => ⟨h.lateStart, h.earlyFinish, h.completed⟩, fun h => ⟨h.1, h.2.1, h.2.2⟩⟩

/-- The report and the tasks agree after an operation iff it counted what it wrote. -/
theorem agree_operate_iff {s : State} (hs : Agree s) (op : Operation) :
    Agree (operate s op) ↔ CountedOnce s op := by
  unfold operate CountedOnce
  cases htime : op.outcome.timeServer with
  | false => simp [hs]
  | true =>
    cases hm : clockModel op.kind op.model op.confirmation with
    | none => simp [planned_eq_none hm, hs]
    | some m =>
      obtain ⟨hp, hid, hout, hin⟩ := clockModel_keeps hm
      have hcalls := callsCounter_clockModel hm
      have hstatus := processModel_status hm
      cases hw : written s op with
      | none =>
        have hu := updateTask_of_written_none hw (modelData op.kind m op.confirmation.userModel)
        have h := agree_report_iff hs (r := countPunctuality op.kind m op.outcome.counter s.report)
          (isOffTime op && op.outcome.counter) ?_
        · simpa [hp, hid, hu] using h
        · rw [← hcalls]
          cases op.kind with
          | clockIn => exact Or.inl (countPunctuality_clockIn m _ _)
          | clockOut => exact Or.inr (countPunctuality_clockOut m _ _)
      | some d =>
        obtain ⟨id, tasks, hd, ht, hu⟩ := updateTask_of_written hw
          (modelData op.kind m op.confirmation.userModel)
        cases hk : op.kind with
        | clockIn =>
          rw [hk] at hcalls hstatus ht hu
          have hlate : decide (m.clockInStatus = some ClockStatus.late) = isOffTime op := hcalls
          have hdone : decide (m.status = some TaskStatus.done) = false := by
            rw [hstatus]
            rfl
          have h := agree_modify_iff hs hd ht (isOffTime op && op.outcome.counter) false false
            s.completedFailed fun hf => hf
          simp only [isLate_update, isEarly_update, isDone_update, hlate, hdone, hout hk] at h
          simpa [hp, hid, hu, countPunctuality_clockIn, hcalls, countCompleted, InStep] using h
        | clockOut =>
          rw [hk] at hcalls hstatus ht hu
          have hearly : decide (m.clockOutStatus = some ClockStatus.early) = isOffTime op := hcalls
          have hdone : decide (m.status = some TaskStatus.done) = true := by
            rw [hstatus]
            rfl
          cases hcompleted : op.outcome.completedCounter with
          | false =>
            have h := agree_modify_iff hs hd ht false (isOffTime op && op.outcome.counter) false
              true fun hf => Bool.noConfusion hf
            simp only [isLate_update, isEarly_update, isDone_update, hearly, hdone, hin hk] at h
            simpa [hp, hid, hu, countPunctuality_clockOut, hcalls, countCompleted, InStep] using h
          | true =>
            have h := agree_modify_iff hs hd ht false (isOffTime op && op.outcome.counter) true
              s.completedFailed fun hf => hf
            simp only [isLate_update, isEarly_update, isDone_update, hearly, hdone, hin hk] at h
            simpa [hp, hid, hu, countPunctuality_clockOut, hcalls, countCompleted, InStep] using h

/-- Over any run of operations and retries the report agrees with the tasks iff every
operation counted exactly what it wrote. -/
theorem agree_iff {s : State} (hs : Agree s) (ops : List Operation) :
    EveryState step Agree s ops ↔ EveryStep step CountedOnce s ops := by
  refine everyState_iff_everyStep (fun s op t hs ht => ?_) hs ops
  cases ht
  exact agree_operate_iff hs op

/-- One confirmed task, planned from 100 to 200, and an empty report. -/
def oneTask : State where
  tasks := ⟨[("t1", plannedTask "confirm" 100 200)], by simp⟩

theorem agree_oneTask : Agree oneTask := ⟨by decide, by decide, by decide⟩

/-- A clock-in at 150, with the outcome of its calls. -/
def lateClockIn (outcome : Outcome) : Operation where
  kind := .clockIn
  model := plannedModel "t1" "confirm" 100 200
  confirmation := { serverTimeNow := 150 }
  outcome := outcome

theorem agree_iff_late_clockIn :
    EveryState step Agree oneTask [lateClockIn {}] ↔
      EveryStep step CountedOnce oneTask [lateClockIn {}] :=
  agree_iff agree_oneTask [lateClockIn {}]

/-- A late clock-in whose task write fails is counted, and counted again by its retry. -/
theorem retried_clock_in_is_counted_twice :
    ¬ ∀ (s : State) (ops : List Operation), Agree s → EveryState step Agree s ops := by
  intro claim
  refine not_everyState_of_run
    (fun t => t.report.lateStart = 2 ∧ t.tasks.count isLate = 1) ?_ ?_
    (claim oneTask [lateClockIn { write := false }, lateClockIn {}] agree_oneTask)
  · intro t hbad h
    obtain ⟨hr, hc⟩ := of_decide_eq_true hbad
    have := h.lateStart
    omega
  · decide

end ReportCounters
