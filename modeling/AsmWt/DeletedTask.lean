import AsmWt.ClockingScreens

/-!
# Deleted tasks on three screens

The calendar goes by the status of a task, the page of today by its status and
its type, and a notification that names a task by the type alone. A lookup that
finds nothing comes back as `null`, and so does one that fails.
-/

namespace ClockingScreens.StatusType

def scheduled : String := "scheduled"
def rescheduled : String := "rescheduled"
def dayoff : String := "dayoff"
def absence : String := "absence"
def ot : String := "ot"

end ClockingScreens.StatusType

namespace DeletedTask

open KeyedRecord Firestore TasksModel DocStore WallClock ClockingScreens

/-- A `where` with `isNotEqualTo`: a field that is missing or `null` never matches. -/
def isNotEqualTo (v : Value) (s : String) : Bool := v ≠ .null ∧ v ≠ .str s

/-- The start times the calendar asks for, both ends included. -/
def startsWithin (startDate endDate : Int) : Value → Bool
  | .timestamp t => startDate ≤ t ∧ t ≤ endDate
  | _ => false

/-- The conditions of `getTasksSnapshotByUserId` that do not look at the status. -/
def ofCalendar (now : Int) (userId : String) (d : Doc) : Bool :=
  d "employee_id" = .str userId ∧
    startsWithin (now - 15 * dayMicros) (now + 5 * dayMicros) (d "start_time")

/-- The snapshot of `TasksService.getTasksSnapshotByUserId`. -/
def getTasksSnapshotByUserId (now : Int) (tasks : Collection) (userId : String) :
    List (String × Doc) :=
  if userId = "" then []
  else (tasks.entries.filter fun e =>
    ofCalendar now userId e.2 && isNotEqualTo (e.2 "status") TaskStatus.delete).insertionSort
      startsBefore

/-- The builder of the calendar; `none` is the exception of a document that does not decode. -/
def taskModels (docs : List (String × Doc)) : Option (List TaskModel) := do
  let decoded ← docs.mapM fun doc => fromDocumentSnapshot doc.1 doc.2
  pure (decoded.filter fun task => task.status ≠ some TaskStatus.delete)

/-- `TasksService.getTaskByTaskId`; every failure is caught and gives `null`. -/
def getTaskByTaskId (tasks : Collection) (taskId : String) (reached : Bool) : Option TaskModel :=
  if reached ∧ taskId ≠ "" then (tasks.get? taskId).bind (fromDocumentSnapshot taskId)
  else none

/-- What `onNotificationItemPress` reads of an item. -/
structure NotificationItem where
  notificationId : String
  titleId : Option String
  view : Option Bool
  notifyCode : Option String

/-- What a press brings up; `fails` is an exception. -/
inductive Shown where
  | nothing
  | dialog (title content : String)
  | tasksDetail (extra : Option TaskModel)
  | toast (message : String)
  | fails

/-- The write of a press, if there is one, and what it brings up. -/
structure Press where
  written : Option (String × Payload) := none
  shown : Shown

/-- The notifications that are about a task. -/
def namesTask (notifyCode : Option String) : Bool :=
  notifyCode = some StatusType.scheduled ∨ notifyCode = some StatusType.rescheduled ∨
    notifyCode = some StatusType.ot

def onNotificationItemPress (tasks : Collection) (reached : Bool) (item : NotificationItem) :
    Press :=
  match item.view with
  -- the negation of a `null`
  | none => { shown := .fails }
  | some view =>
    let written := if view then none else some (item.notificationId, [("view", .bool true)])
    if item.notifyCode = some StatusType.dayoff ∨ item.notifyCode = some StatusType.absence then
      { written, shown := .dialog "text_header.cannot_view" "contents.cannot_view_msg" }
    else if namesTask item.notifyCode then
      match item.titleId with
      | none => { written, shown := .fails }
      | some titleId =>
        let res := getTaskByTaskId tasks titleId reached
        if res.bind (·.type) ≠ some StatusType.delete then { written, shown := .tasksDetail res }
        else { written, shown := .toast "message.task_delete" }
    else { written, shown := .nothing }

/-- The criterion of the calendar. -/
def DeletedInCalendar (d : Doc) : Prop := d "status" = .str TaskStatus.delete

/-- The criteria of the page of today, in its listener and in its loop. -/
def DeletedToday (d : Doc) : Prop :=
  d "status" = .str TaskStatus.delete ∨ d "type" = .str StatusType.delete

instance : DecidablePred DeletedInCalendar := fun _ => inferInstanceAs (Decidable (_ = _))
instance : DecidablePred DeletedToday := fun _ => inferInstanceAs (Decidable (_ ∨ _))

def Shown.OpensDetail (shown : Shown) : Prop := ∃ extra, shown = .tasksDetail extra

/-- A press on a notification about the task treats it as both lists do. -/
structure ScreensAgree (tasks : Collection) (titleId : String) (shown : Shown) : Prop where
  calendar : shown.OpensDetail ↔ ∃ d, tasks.get? titleId = some d ∧ ¬ DeletedInCalendar d
  today : shown.OpensDetail ↔ ∃ d, tasks.get? titleId = some d ∧ ¬ DeletedToday d
  withModel : ∀ extra, shown = .tasksDetail extra → extra.isSome

/-- The lookup gives a task that both of its marks call deleted or neither. An item that does not
say whether it was viewed opens nothing, which is right for a task that is missing or deleted. -/
def MarksAgree (tasks : Collection) (reached : Bool) (item : NotificationItem)
    (titleId : String) : Prop :=
  match item.view with
  | none => ∀ d, tasks.get? titleId = some d → DeletedInCalendar d
  | some _ => ∃ m, getTaskByTaskId tasks titleId reached = some m ∧
      (m.type = some StatusType.delete ↔ m.status = some TaskStatus.delete)

section Calendar

theorem mem_of_mapM_eq_some {α β : Type} {f : α → Option β} {xs : List α} {ys : List β}
    (h : xs.mapM f = some ys) (y : β) : y ∈ ys ↔ ∃ x ∈ xs, f x = some y := by
  induction xs generalizing ys with
  | nil =>
    cases h
    simp
  | cons x xs ih =>
    rw [List.mapM_cons] at h
    obtain ⟨z, hz, h⟩ := Option.bind_eq_some_iff.mp h
    obtain ⟨zs, hzs, h⟩ := Option.bind_eq_some_iff.mp h
    cases h
    simp [ih hzs, hz, eq_comm]

variable {now : Int} {tasks : Collection} {userId : String}

theorem status_eq_delete_iff {id : String} {d : Doc} {m : TaskModel}
    (hm : fromDocumentSnapshot id d = some m) :
    m.status = some TaskStatus.delete ↔ DeletedInCalendar d := by
  rw [DeletedInCalendar, (fromDocumentSnapshot_eq_some hm).status, Codec.string_encode_eq_str_iff]

theorem type_eq_delete_iff {id : String} {d : Doc} {m : TaskModel}
    (hm : fromDocumentSnapshot id d = some m) :
    m.type = some StatusType.delete ↔ d "type" = .str StatusType.delete := by
  rw [(fromDocumentSnapshot_eq_some hm).type, Codec.string_encode_eq_str_iff]

/-- A task of the calendar's employee and window that has a status is left out of the calendar iff
it is deleted by the calendar's criterion. -/
theorem mem_taskModels_iff {shown : List TaskModel} {e : String × Doc} {m : TaskModel}
    (hshown : taskModels (getTasksSnapshotByUserId now tasks userId) = some shown)
    (hid : userId ≠ "") (he : e ∈ tasks.entries) (hm : fromDocumentSnapshot e.1 e.2 = some m)
    (hof : ofCalendar now userId e.2 = true) (hstatus : e.2 "status" ≠ .null) :
    m ∈ shown ↔ ¬ DeletedInCalendar e.2 := by
  obtain ⟨decoded, hdecoded, hshown⟩ := Option.bind_eq_some_iff.mp hshown
  cases hshown
  rw [List.mem_filter, mem_of_mapM_eq_some hdecoded, decide_eq_true_iff, Ne,
    status_eq_delete_iff hm]
  constructor
  · exact fun h => h.2
  · intro hkeep
    refine ⟨⟨e, ?_, hm⟩, hkeep⟩
    rw [getTasksSnapshotByUserId, if_neg hid, List.mem_insertionSort, List.mem_filter, hof,
      Bool.true_and]
    exact ⟨he, decide_eq_true ⟨hstatus, hkeep⟩⟩

end Calendar

section Today

variable {z : Zone} {now : Int} {tasks : Collection} {driverId : String}

theorem not_deletedInCalendar_of_mem_documents {e : String × Doc}
    (he : e ∈ documents z now tasks driverId) : ¬ DeletedInCalendar e.2 := by
  obtain ⟨-, -, hq⟩ := mem_documents.mp he
  intro hdelete
  rcases queried_status hq with hs | hs
  · exact absurd (hdelete.symm.trans hs) (by decide)
  · exact absurd (hdelete.symm.trans hs) (by decide)

/-- A task of today that reaches the page is passed over iff it is deleted by the page's
criteria. -/
theorem visit_eq_none_iff_deletedToday (settingsModel : Option SettingsModel) {e : String × Doc}
    {item : TaskModel} {startDate finishDate : Int} (he : e ∈ documents z now tasks driverId)
    (dated : Dated e item startDate finishDate)
    (today : OfToday z now item startDate finishDate) :
    visit z settingsModel now e = none ↔ DeletedToday e.2 := by
  obtain ⟨-, -, hq⟩ := mem_documents.mp he
  have hstatus : ¬ e.2 "status" = .str TaskStatus.delete :=
    not_deletedInCalendar_of_mem_documents he
  rw [visit_of_dated dated, DeletedToday, or_iff_right hstatus,
    ← type_eq_delete_iff dated.decodes, ← skipped_iff dated hq]
  by_cases skipped : Skipped item
  · simp [skipped]
  · simp [skipped, today]

end Today

theorem onNotificationItemPress_of_namesTask {tasks : Collection} {reached : Bool}
    {item : NotificationItem} {titleId : String} {view : Bool}
    (hcode : namesTask item.notifyCode = true) (htitle : item.titleId = some titleId)
    (hview : item.view = some view) :
    (onNotificationItemPress tasks reached item).shown =
      if (getTaskByTaskId tasks titleId reached).bind (·.type) ≠ some StatusType.delete then
        .tasksDetail (getTaskByTaskId tasks titleId reached)
      else .toast "message.task_delete" := by
  have other : ¬ (item.notifyCode = some StatusType.dayoff ∨
      item.notifyCode = some StatusType.absence) := by
    rcases of_decide_eq_true hcode with h | h | h <;> rw [h] <;> decide
  simp only [onNotificationItemPress, hview, if_neg other, hcode, if_true, htitle]
  split <;> rfl

theorem getTaskByTaskId_eq_some {tasks : Collection} {reached : Bool} {titleId : String}
    {m : TaskModel} (h : getTaskByTaskId tasks titleId reached = some m) :
    ∃ d, tasks.get? titleId = some d ∧ fromDocumentSnapshot titleId d = some m := by
  rw [getTaskByTaskId] at h
  split at h
  · exact Option.bind_eq_some_iff.mp h
  · cases h

/-- An exception opens nothing, which is right for a task that is missing or deleted. -/
theorem screensAgree_fails_iff {tasks : Collection} {titleId : String} :
    ScreensAgree tasks titleId .fails ↔
      ∀ d, tasks.get? titleId = some d → DeletedInCalendar d := by
  have closed : ¬ Shown.fails.OpensDetail := by
    rintro ⟨extra, hextra⟩
    cases hextra
  constructor
  · intro agree d hd
    by_contra hkeep
    exact closed (agree.calendar.mpr ⟨d, hd, hkeep⟩)
  · intro hdelete
    refine ⟨?_, ?_, ?_⟩
    · refine iff_of_false closed ?_
      rintro ⟨d, hd, hkeep⟩
      exact hkeep (hdelete d hd)
    · refine iff_of_false closed ?_
      rintro ⟨d, hd, hkeep⟩
      exact hkeep (Or.inl (hdelete d hd))
    · exact fun extra hextra => absurd ⟨extra, hextra⟩ closed

/-- A task that was found opens by its type, so its status has to say the same. -/
theorem screensAgree_found_iff {tasks : Collection} {titleId : String} {d : Doc} {m : TaskModel}
    (hd : tasks.get? titleId = some d) (hm : fromDocumentSnapshot titleId d = some m) :
    ScreensAgree tasks titleId (if m.type ≠ some StatusType.delete then .tasksDetail (some m)
      else .toast "message.task_delete") ↔
        (m.type = some StatusType.delete ↔ m.status = some TaskStatus.delete) := by
  have found : ∀ P : Doc → Prop, (∃ d', tasks.get? titleId = some d' ∧ P d') ↔ P d := by
    simp [hd]
  have opens : (if m.type ≠ some StatusType.delete then
      Shown.tasksDetail (some m) else .toast "message.task_delete").OpensDetail ↔
        ¬ m.type = some StatusType.delete := by
    by_cases htype : m.type = some StatusType.delete
    · simp [htype, Shown.OpensDetail]
    · simp [htype, Shown.OpensDetail]
  constructor
  · intro agree
    have hcalendar := agree.calendar
    rw [opens, found, ← status_eq_delete_iff hm, not_iff_not] at hcalendar
    exact hcalendar
  · intro hmarks
    refine ⟨?_, ?_, ?_⟩
    · rw [opens, found, ← status_eq_delete_iff hm, hmarks]
    · rw [opens, found, DeletedToday, ← type_eq_delete_iff hm]
      have hstatus := status_eq_delete_iff hm
      rw [DeletedInCalendar] at hstatus
      rw [← hstatus, ← hmarks, or_self]
    · intro extra hextra
      split at hextra
      · cases hextra
        rfl
      · cases hextra

/-- The press agrees with the lists iff the task's two marks agree. -/
theorem screensAgree_iff_marksAgree {tasks : Collection} {reached : Bool}
    {item : NotificationItem} {titleId : String} (hcode : namesTask item.notifyCode = true)
    (htitle : item.titleId = some titleId) :
    ScreensAgree tasks titleId (onNotificationItemPress tasks reached item).shown ↔
      MarksAgree tasks reached item titleId := by
  cases hview : item.view with
  | none =>
    simp only [MarksAgree, onNotificationItemPress, hview]
    exact screensAgree_fails_iff
  | some view =>
    rw [onNotificationItemPress_of_namesTask hcode htitle hview]
    simp only [MarksAgree, hview]
    cases hres : getTaskByTaskId tasks titleId reached with
    | none =>
      refine iff_of_false ?_ ?_
      · intro agree
        exact absurd (agree.withModel none rfl) Bool.false_ne_true
      · rintro ⟨m, hm, -⟩
        cases hm
    | some m =>
      obtain ⟨d, hd, hm⟩ := getTaskByTaskId_eq_some hres
      refine (screensAgree_found_iff hd hm).trans ?_
      simp

def scheduledItem : NotificationItem where
  notificationId := "n1"
  titleId := some "t1"
  view := some true
  notifyCode := some StatusType.scheduled

/-- A task whose document has the given marks. -/
def marked (status type : String) : Collection :=
  ⟨[("t1", update (plannedTask status 0 0) [("type", .str type)])], by
    simp⟩

theorem screensAgree_deleted :
    ScreensAgree (marked TaskStatus.delete StatusType.delete) "t1"
      (onNotificationItemPress (marked TaskStatus.delete StatusType.delete) true
        scheduledItem).shown :=
  (screensAgree_iff_marksAgree (by decide) rfl).mpr ⟨_, rfl, by decide⟩

/-- A task that both lists leave out as deleted still opens from its notification. -/
theorem deleted_task_opens :
    ¬ ∀ (tasks : Collection) (reached : Bool) (item : NotificationItem) (titleId : String),
      namesTask item.notifyCode = true → item.titleId = some titleId →
        ScreensAgree tasks titleId (onNotificationItemPress tasks reached item).shown := by
  intro claim
  have agree :=
    claim (marked TaskStatus.delete StatusType.scheduled) true scheduledItem "t1" rfl rfl
  obtain ⟨d, hd, hkeep⟩ := agree.calendar.mp ⟨_, rfl⟩
  cases hd
  exact hkeep (by decide)

end DeletedTask
