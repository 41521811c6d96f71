import AsmWt.TasksModel
import AsmWt.WallClock
import AsmWt.OrderedSearch
import Mathlib.Data.String.Basic

/-!
# The two screens that offer the clock buttons

`TodayTaskView` takes the first suitable task of a query that is limited to a
window of start times, and offers the clock-out only near the planned finish.
`TasksDetailView` shows the task that was picked in the calendar and has no such
limit. Both read their dates off the wall clock.
-/

namespace ClockingScreens

open Firestore TasksModel WallClock OrderedSearch

namespace StatusType
def delete : String := "deleted"
end StatusType

structure SettingsModel where
  before_clock_out_hour : Option Int := none

/-- `settingsModel?.before_clock_out_hour ?? 0`. -/
def beforeClockOutHour (settingsModel : Option SettingsModel) : Int :=
  (settingsModel.bind (·.before_clock_out_hour)).getD 0

/-- What a screen puts in the place of its floating button. -/
inductive Button where
  | clockIn
  | clockOut
  | accept
  | doneTask
  | shrink
  deriving DecidableEq

/-- What `TodayTaskView` builds; `buildFails` is an exception of the loop. -/
inductive Page where
  | buildFails
  | noTask
  | container
  | task (item : TaskModel) (button : Button)

/-- The floating button of `TodayTaskView` for the task it shows. -/
def floatingActionButton (z : Zone) (settingsModel : Option SettingsModel) (now : Int)
    (item : TaskModel) (finishDate : Int) : Button :=
  let dateNowHour := z.minute now
  let finishTimeHour := z.minute finishDate
  let twoHourBeforeFinish := finishTimeHour - beforeClockOutHour settingsModel * hourMicros
  let diffHour := twoHourBeforeFinish - dateNowHour
  if item.status = some TaskStatus.confirm then .clockIn
  else if item.status = some TaskStatus.start ∧
      inHours diffHour ≤ beforeClockOutHour settingsModel then .clockOut
  else .shrink

/-- One turn of the loop in `TodayTaskView.build`; `none` goes on to the next document. -/
def visit (z : Zone) (settingsModel : Option SettingsModel) (now : Int) (doc : String × Doc) :
    Option Page :=
  match fromDocumentSnapshot doc.1 doc.2 with
  | none => some .buildFails
  | some item =>
    match item.startDate, item.finishDate with
    | some startDate, some finishDate =>
      let finishTime := z.midnight (z.day finishDate)
      let startTime := z.midnight (z.day startDate)
      let dateNow := z.midnight (z.day now)
      if (finishTime = dateNow ∧ item.status = some TaskStatus.start) ∨ startTime = dateNow then
        if item.type = some StatusType.delete ∨ item.status = some TaskStatus.skip then none
        else some (.task item (floatingActionButton z settingsModel now item finishDate))
      else none
    -- `start_date!` or `finish_date!` throws
    | _, _ => some .buildFails

/-- `TodayTaskView.build` on the documents its listener kept. -/
def build (z : Zone) (settingsModel : Option SettingsModel) (now : Int)
    (documents : List (String × Doc)) : Page :=
  if documents.isEmpty then .noTask
  else (documents.findSome? (visit z settingsModel now)).getD .container

/-- `TasksDetailView.buttonWidget`; `none` is the exception of `start_date!`. -/
def buttonWidget (z : Zone) (now : Int) (taskModel : TaskModel) : Option Button :=
  taskModel.startDate.map fun startDate =>
    let onlyDate := z.midnight (z.day startDate)
    let date := z.midnight (z.day now)
    if taskModel.status = some TaskStatus.done then .doneTask
    else if taskModel.status = some TaskStatus.confirm then
      -- `isSameDay(date, onlyDate)`
      if z.day date = z.day onlyDate then .clockIn else .shrink
    else if taskModel.status = some TaskStatus.start then .clockOut
    else if taskModel.status = some TaskStatus.new then .accept
    else .shrink

/-- The task shown on one screen has the same clock buttons on the other. -/
structure ScreensAgree (z : Zone) (now : Int) (item : TaskModel) (button : Button) : Prop where
  clockIn : button = .clockIn ↔ buttonWidget z now item = some .clockIn
  clockOut : button = .clockOut ↔ buttonWidget z now item = some .clockOut

/-- The planned finish, without its seconds, is less than twice the configured hours and one
more away; a negative setting leaves out that one hour. -/
def NearFinish (z : Zone) (settingsModel : Option SettingsModel) (now finishDate : Int) : Prop :=
  if 0 ≤ beforeClockOutHour settingsModel then
    z.minute finishDate - z.minute now < (2 * beforeClockOutHour settingsModel + 1) * hourMicros
  else z.minute finishDate - z.minute now ≤ 2 * beforeClockOutHour settingsModel * hourMicros

instance (z : Zone) (settingsModel : Option SettingsModel) (now finishDate : Int) :
    Decidable (NearFinish z settingsModel now finishDate) :=
  inferInstanceAs (Decidable (if 0 ≤ beforeClockOutHour settingsModel then
    z.minute finishDate - z.minute now < (2 * beforeClockOutHour settingsModel + 1) * hourMicros
  else z.minute finishDate - z.minute now ≤ 2 * beforeClockOutHour settingsModel * hourMicros))

/-- The rounded difference of `build` says whether the finish is near. -/
theorem nearFinish_iff {z : Zone} {settingsModel : Option SettingsModel} {now finishDate : Int} :
    inHours (z.minute finishDate - beforeClockOutHour settingsModel * hourMicros - z.minute now) ≤
        beforeClockOutHour settingsModel ↔
      NearFinish z settingsModel now finishDate := by
  rw [inHours_le_iff, NearFinish]
  generalize beforeClockOutHour settingsModel = h
  split
  · rw [Int.add_mul, Int.add_mul, Int.mul_assoc]
    omega
  · rw [Int.mul_assoc]
    omega

/-- A document that decodes to a task with both planned times. -/
structure Dated (doc : String × Doc) (item : TaskModel) (startDate finishDate : Int) : Prop where
  decodes : fromDocumentSnapshot doc.1 doc.2 = some item
  startDate : item.startDate = some startDate
  finishDate : item.finishDate = some finishDate

/-- The loop takes a task for one of today. -/
def OfToday (z : Zone) (now : Int) (item : TaskModel) (startDate finishDate : Int) : Prop :=
  (z.day finishDate = z.day now ∧ item.status = some TaskStatus.start) ∨
    z.day startDate = z.day now

/-- The loop does not show a task even if it is one of today. -/
def Skipped (item : TaskModel) : Prop :=
  item.type = some StatusType.delete ∨ item.status = some TaskStatus.skip

instance (z : Zone) (now : Int) (item : TaskModel) (startDate finishDate : Int) :
    Decidable (OfToday z now item startDate finishDate) :=
  inferInstanceAs (Decidable ((z.day finishDate = z.day now ∧ item.status = some TaskStatus.start) ∨
    z.day startDate = z.day now))

instance (item : TaskModel) : Decidable (Skipped item) :=
  inferInstanceAs (Decidable (item.type = some StatusType.delete ∨
    item.status = some TaskStatus.skip))

theorem visit_of_dated {z : Zone} {settingsModel : Option SettingsModel} {now : Int}
    {doc : String × Doc} {item : TaskModel} {startDate finishDate : Int}
    (h : Dated doc item startDate finishDate) :
    visit z settingsModel now doc =
      if OfToday z now item startDate finishDate ∧ ¬ Skipped item then
        some (.task item (floatingActionButton z settingsModel now item finishDate))
      else none := by
  unfold visit OfToday Skipped
  simp only [h.decodes, h.startDate, h.finishDate, Zone.midnight_inj]
  split
  · case isTrue today =>
    split
    · case isTrue skipped => rw [if_neg fun hc => hc.2 skipped]
    · case isFalse shown => rw [if_pos ⟨today, shown⟩]
  · case isFalse other => rw [if_neg fun hc => other hc.1]

/-- A document without planned times ends the loop. -/
theorem visit_cases (z : Zone) (settingsModel : Option SettingsModel) (now : Int)
    (doc : String × Doc) :
    (∃ item startDate finishDate, Dated doc item startDate finishDate) ∨
      visit z settingsModel now doc = some .buildFails := by
  unfold visit
  cases hd : fromDocumentSnapshot doc.1 doc.2 with
  | none => exact Or.inr rfl
  | some item =>
    cases hs : item.startDate with
    | none => exact Or.inr (by simp [hs])
    | some startDate =>
      cases hf : item.finishDate with
      | none => exact Or.inr (by simp [hs, hf])
      | some finishDate => exact Or.inl ⟨item, startDate, finishDate, hd, hs, hf⟩

/-- What is known about a task that is shown. -/
theorem visit_eq_task {z : Zone} {settingsModel : Option SettingsModel} {now : Int}
    {doc : String × Doc} {item : TaskModel} {button : Button}
    (h : visit z settingsModel now doc = some (.task item button)) :
    ∃ startDate finishDate, Dated doc item startDate finishDate ∧
      OfToday z now item startDate finishDate ∧ ¬ Skipped item ∧
      button = floatingActionButton z settingsModel now item finishDate := by
  rcases visit_cases z settingsModel now doc with ⟨item', startDate, finishDate, dated⟩ | hfails
  · rw [visit_of_dated dated] at h
    split at h
    · case isTrue shown =>
      cases h
      exact ⟨startDate, finishDate, dated, shown.1, shown.2, rfl⟩
    · cases h
  · cases h.symm.trans hfails

theorem build_eq_task_iff {z : Zone} {settingsModel : Option SettingsModel} {now : Int}
    {documents : List (String × Doc)} {item : TaskModel} {button : Button} :
    build z settingsModel now documents = .task item button ↔
      documents.findSome? (visit z settingsModel now) = some (.task item button) := by
  unfold build
  cases documents with
  | nil => simp
  | cons doc rest =>
    simp only [List.isEmpty_cons, Bool.false_eq_true, if_false]
    cases (doc :: rest).findSome? (visit z settingsModel now) <;> simp

theorem buttonWidget_of_start (z : Zone) (now : Int) {startDate : Int} {item : TaskModel}
    (hs : item.startDate = some startDate) (started : item.status = some TaskStatus.start) :
    buttonWidget z now item = some .clockOut := by
  simp [buttonWidget, hs, started, TaskStatus.start, TaskStatus.done, TaskStatus.confirm]

theorem buttonWidget_of_confirm (z : Zone) (now : Int) {startDate : Int} {item : TaskModel}
    (hs : item.startDate = some startDate) (confirmed : item.status = some TaskStatus.confirm) :
    buttonWidget z now item =
      some (if z.day startDate = z.day now then .clockIn else .shrink) := by
  simp [buttonWidget, hs, confirmed, TaskStatus.done, TaskStatus.confirm, eq_comm]

theorem floatingActionButton_of_start (z : Zone) (settingsModel : Option SettingsModel)
    (now : Int) {item : TaskModel} (started : item.status = some TaskStatus.start)
    (finishDate : Int) :
    floatingActionButton z settingsModel now item finishDate =
      if NearFinish z settingsModel now finishDate then .clockOut else .shrink := by
  have notConfirmed : item.status ≠ some TaskStatus.confirm := by
    rw [started]
    decide
  rw [floatingActionButton, if_neg notConfirmed]
  simp only [started, true_and, nearFinish_iff]

/-- Nothing can be clocked on either screen in any other status. -/
theorem buttonWidget_of_other (z : Zone) (now : Int) {item : TaskModel}
    (started : item.status ≠ some TaskStatus.start)
    (confirmed : item.status ≠ some TaskStatus.confirm) :
    buttonWidget z now item ≠ some .clockIn ∧ buttonWidget z now item ≠ some .clockOut := by
  cases hs : item.startDate with
  | none => simp [buttonWidget, hs]
  | some startDate =>
    simp only [buttonWidget, hs, if_neg started, if_neg confirmed, Option.map_some]
    split
    · simp
    · split <;> simp

/-- The screens agree on a task unless it is under way and its finish is not near. -/
theorem screensAgree_iff {z : Zone} {settingsModel : Option SettingsModel} {now : Int}
    {documents : List (String × Doc)} {item : TaskModel} {button : Button}
    (shown : build z settingsModel now documents = .task item button) :
    ScreensAgree z now item button ↔
      (item.status = some TaskStatus.start → ∀ finishDate, item.finishDate = some finishDate →
        NearFinish z settingsModel now finishDate) := by
  obtain ⟨doc, -, hv⟩ := List.exists_of_findSome?_eq_some (build_eq_task_iff.mp shown)
  obtain ⟨startDate, finishDate, dated, today, -, rfl⟩ := visit_eq_task hv
  by_cases confirmed : item.status = some TaskStatus.confirm
  · have notStarted : item.status ≠ some TaskStatus.start := by
      rw [confirmed]
      decide
    have startsToday : z.day startDate = z.day now := today.resolve_left fun h => notStarted h.2
    have hbutton : floatingActionButton z settingsModel now item finishDate = .clockIn := by
      rw [floatingActionButton, if_pos confirmed]
    have hdetail := buttonWidget_of_confirm z now dated.startDate confirmed
    rw [if_pos startsToday] at hdetail
    refine ⟨fun _ h => absurd h notStarted, fun _ => ⟨?_, ?_⟩⟩
    · simp [hbutton, hdetail]
    · simp [hbutton, hdetail]
  · by_cases started : item.status = some TaskStatus.start
    · have hdetail := buttonWidget_of_start z now dated.startDate started
      have hbutton := floatingActionButton_of_start z settingsModel now started finishDate
      by_cases near : NearFinish z settingsModel now finishDate
      · rw [if_pos near] at hbutton
        refine ⟨fun _ _ f hf => ?_, fun _ => ⟨?_, ?_⟩⟩
        · cases dated.finishDate.symm.trans hf
          exact near
        · simp [hbutton, hdetail]
        · simp [hbutton, hdetail]
      · rw [if_neg near] at hbutton
        constructor
        · intro agree
          have := agree.clockOut.mpr hdetail
          rw [hbutton] at this
          cases this
        · exact fun h => absurd (h started finishDate dated.finishDate) near
    · obtain ⟨noClockIn, noClockOut⟩ := buttonWidget_of_other z now started confirmed
      have hbutton : floatingActionButton z settingsModel now item finishDate = .shrink := by
        rw [floatingActionButton, if_neg confirmed, if_neg fun h => started h.1]
      refine ⟨fun _ h => absurd h started, fun _ => ⟨?_, ?_⟩⟩
      · simp [hbutton, noClockIn]
      · simp [hbutton, noClockOut]

/-- The screens in a zone seven hours ahead, with 09:00 of day 100 as the current time. -/
def bangkok : Zone := Zone.fixed (7 * hourMicros)
def nine : Int := 100 * dayMicros + 2 * hourMicros

/-- A shift from 08:00 to 17:00 of that day. -/
def dayShift (status : String) : String × Doc :=
  ("t1", plannedTask status (nine - hourMicros) (nine + 8 * hourMicros))

def dayShiftModel (status : String) : TaskModel :=
  plannedModel "t1" status (nine - hourMicros) (nine + 8 * hourMicros)

theorem screensAgree_iff_confirmed :
    ScreensAgree bangkok nine (dayShiftModel TaskStatus.confirm) .clockIn ↔
      ((dayShiftModel TaskStatus.confirm).status = some TaskStatus.start → ∀ finishDate,
        (dayShiftModel TaskStatus.confirm).finishDate = some finishDate →
          NearFinish bangkok none nine finishDate) :=
  screensAgree_iff (show build bangkok none nine [dayShift TaskStatus.confirm] =
    .task (dayShiftModel TaskStatus.confirm) .clockIn from rfl)

/-- Eight hours before its finish the calendar offers the clock-out and the other page not. -/
theorem calendar_offers_early_clock_out :
    ¬ ∀ (z : Zone) (settingsModel : Option SettingsModel) (now : Int)
        (documents : List (String × Doc)) (item : TaskModel) (button : Button),
        build z settingsModel now documents = .task item button →
          ScreensAgree z now item button := by
  intro claim
  have agree := claim bangkok none nine [dayShift TaskStatus.start] (dayShiftModel TaskStatus.start)
    .shrink rfl
  have offered : buttonWidget bangkok nine (dayShiftModel TaskStatus.start) = some .clockOut := rfl
  exact absurd (agree.clockOut.mpr offered) (by decide)

/-- The configured hours before the planned finish have begun, both without their seconds. -/
def InWindow (z : Zone) (settingsModel : Option SettingsModel) (now finishDate : Int) : Prop :=
  z.minute finishDate - beforeClockOutHour settingsModel * hourMicros ≤ z.minute now

/-- The finish is further away than the configured hours, but not by more than as many hours again
and the part of another one that is rounded away. -/
def TooEarly (z : Zone) (settingsModel : Option SettingsModel) (now finishDate : Int) : Prop :=
  beforeClockOutHour settingsModel * hourMicros < z.minute finishDate - z.minute now ∧
    z.minute finishDate - z.minute now < (2 * beforeClockOutHour settingsModel + 1) * hourMicros

instance (z : Zone) (settingsModel : Option SettingsModel) (now finishDate : Int) :
    Decidable (TooEarly z settingsModel now finishDate) :=
  inferInstanceAs (Decidable (_ ∧ _))

/-- The rounded difference lets through what is in the window, and what is too early. -/
theorem nearFinish_iff_inWindow_or_tooEarly {z : Zone} {settingsModel : Option SettingsModel}
    {now finishDate : Int} (hours : 0 ≤ beforeClockOutHour settingsModel) :
    NearFinish z settingsModel now finishDate ↔
      InWindow z settingsModel now finishDate ∨ TooEarly z settingsModel now finishDate := by
  rw [NearFinish, if_pos hours, InWindow, TooEarly]
  have wider : beforeClockOutHour settingsModel * hourMicros <
      (2 * beforeClockOutHour settingsModel + 1) * hourMicros := by
    rw [hourMicros, minuteMicros]
    omega
  omega

/-- A task under way is offered its clock-out in the configured window, except that it is offered
too early as well. -/
theorem clockOut_in_window_iff {z : Zone} {settingsModel : Option SettingsModel} {now : Int}
    {documents : List (String × Doc)} {item : TaskModel} {button : Button} {finishDate : Int}
    (hours : 0 ≤ beforeClockOutHour settingsModel)
    (shown : build z settingsModel now documents = .task item button)
    (started : item.status = some TaskStatus.start) (finish : item.finishDate = some finishDate) :
    (button = .clockOut ↔ InWindow z settingsModel now finishDate) ↔
      ¬ TooEarly z settingsModel now finishDate := by
  obtain ⟨doc, -, hv⟩ := List.exists_of_findSome?_eq_some (build_eq_task_iff.mp shown)
  obtain ⟨startDate, f, dated, -, -, rfl⟩ := visit_eq_task hv
  cases dated.finishDate.symm.trans finish
  have offered : floatingActionButton z settingsModel now item finishDate = .clockOut ↔
      NearFinish z settingsModel now finishDate := by
    rw [floatingActionButton_of_start z settingsModel now started]
    by_cases near : NearFinish z settingsModel now finishDate
    · simp [near]
    · simp [near]
  have apart : TooEarly z settingsModel now finishDate →
      ¬ InWindow z settingsModel now finishDate := by
    rintro ⟨early, -⟩ window
    rw [InWindow] at window
    omega
  rw [offered, nearFinish_iff_inWindow_or_tooEarly hours]
  constructor
  · exact fun h early => apart early (h.mp (Or.inr early))
  · exact fun h => or_iff_left h

/-- At 16:30 the shift until 17:00 is in a window of one hour. -/
theorem clockOut_in_window_last_hour :
    (Button.clockOut = .clockOut ↔ InWindow bangkok (some { before_clock_out_hour := some 1 })
      (nine + 7 * hourMicros + hourMicros / 2) (nine + 8 * hourMicros)) ↔
        ¬ TooEarly bangkok (some { before_clock_out_hour := some 1 })
          (nine + 7 * hourMicros + hourMicros / 2) (nine + 8 * hourMicros) :=
  clockOut_in_window_iff (by decide)
    (show build bangkok _ _ [dayShift TaskStatus.start] =
      .task (dayShiftModel TaskStatus.start) .clockOut from rfl) rfl rfl

/-- With two hours configured, the shift until 17:00 can be clocked out at 12:01. -/
theorem clockOut_offered_five_hours_early :
    ¬ ∀ (z : Zone) (settingsModel : Option SettingsModel) (now : Int)
        (documents : List (String × Doc)) (item : TaskModel) (button : Button) (finishDate : Int),
        0 ≤ beforeClockOutHour settingsModel →
          build z settingsModel now documents = .task item button →
            item.status = some TaskStatus.start → item.finishDate = some finishDate →
              (button = .clockOut ↔ InWindow z settingsModel now finishDate) := by
  intro claim
  have window := claim bangkok (some { before_clock_out_hour := some 2 })
    (nine + 3 * hourMicros + minuteMicros) [dayShift TaskStatus.start]
    (dayShiftModel TaskStatus.start) .clockOut (nine + 8 * hourMicros) (by decide) rfl rfl rfl
  have open_now := window.mp rfl
  rw [InWindow] at open_now
  exact absurd open_now (by decide)

/-- The start times the query asks for. -/
def startsBetween (dateNow tomorrow : Int) : Value → Bool
  | .timestamp t => dateNow < t ∧ t < tomorrow
  | _ => false

/-- The conditions of `getTodayTaskSnapshotByDriverId`. -/
def queried (z : Zone) (now : Int) (driverId : String) (d : Doc) : Bool :=
  d "employee_id" = .str driverId ∧ d "is_disabled" = .bool false ∧
    (d "status" = .str TaskStatus.start ∨ d "status" = .str TaskStatus.confirm) ∧
    startsBetween (z.midnight (z.day now - 1)) (z.midnight (z.day now + 1)) (d "start_time")

/-- The start time that a document is ordered by. -/
def startTime (d : Doc) : Int :=
  match d "start_time" with
  | .timestamp t => t
  | _ => 0

/-- `orderBy('start_time')`; documents with one start time are ordered by their id. -/
def startsBefore (a b : String × Doc) : Prop :=
  startTime a.2 < startTime b.2 ∨ startTime a.2 = startTime b.2 ∧ a.1 ≤ b.1

instance : DecidableRel startsBefore := fun a b =>
  inferInstanceAs (Decidable (startTime a.2 < startTime b.2 ∨
    startTime a.2 = startTime b.2 ∧ a.1 ≤ b.1))

/-- The snapshot of `TasksService.getTodayTaskSnapshotByDriverId`. -/
def getTodayTaskSnapshotByDriverId (z : Zone) (now : Int) (tasks : Collection)
    (driverId : String) : List (String × Doc) :=
  if driverId = "" then []
  else (tasks.entries.filter fun e => queried z now driverId e.2).insertionSort startsBefore

/-- The documents the listener of `initState` keeps. -/
def documents (z : Zone) (now : Int) (tasks : Collection) (driverId : String) :
    List (String × Doc) :=
  (getTodayTaskSnapshotByDriverId z now tasks driverId).filter fun e =>
    e.2 "status" ≠ .str TaskStatus.delete

/-- An enabled task of the employee that is under way and finishes today. -/
structure Running (z : Zone) (now : Int) (driverId : String) (d : Doc) : Prop where
  employee : d "employee_id" = .str driverId
  enabled : d "is_disabled" ≠ .bool true
  started : d "status" = .str TaskStatus.start
  finishesToday : ∃ finishDate, d "finish_time" = .timestamp finishDate ∧
    z.day finishDate = z.day now

/-- The page shows a task that is under way and finishes today. -/
def ShowsRunning (z : Zone) (now : Int) (page : Page) : Prop :=
  ∃ item button finishDate, page = .task item button ∧ item.status = some TaskStatus.start ∧
    item.finishDate = some finishDate ∧ z.day finishDate = z.day now

/-- A document the loop goes past: it has proper planned times, and it is of the deleted type or
neither starts today nor is under way and finishes today. -/
def PassedOver (z : Zone) (now : Int) (doc : String × Doc) : Prop :=
  ∃ item startDate finishDate, Dated doc item startDate finishDate ∧
    (item.type = some StatusType.delete ∨ ¬ OfToday z now item startDate finishDate)

/-- Some task that is under way and finishes today gets through: it has a proper start time later
than the start of yesterday, is marked as enabled and is not of the deleted type, and every task
of the window that starts before it is one the loop goes past. -/
def GetsThrough (z : Zone) (now : Int) (tasks : Collection) (driverId : String) : Prop :=
  driverId ≠ "" ∧ ∃ e ∈ tasks.entries, ∃ item startDate finishDate,
    Dated e item startDate finishDate ∧ queried z now driverId e.2 = true ∧
    item.status = some TaskStatus.start ∧ z.day finishDate = z.day now ∧
    item.type ≠ some StatusType.delete ∧
    ∀ x ∈ tasks.entries, x ≠ e → queried z now driverId x.2 = true → startsBefore x e →
      PassedOver z now x

instance : Std.Total startsBefore where
  total a b := by
    rcases Int.lt_trichotomy (startTime a.2) (startTime b.2) with h | h | h
    · exact Or.inl (Or.inl h)
    · rcases le_total a.1 b.1 with hid | hid
      · exact Or.inl (Or.inr ⟨h, hid⟩)
      · exact Or.inr (Or.inr ⟨h.symm, hid⟩)
    · exact Or.inr (Or.inl h)

instance : IsTrans (String × Doc) startsBefore where
  trans a b c hab hbc := by
    rcases hab with hab | ⟨hab, hid⟩
    · rcases hbc with hbc | ⟨hbc, -⟩
      · exact Or.inl (by omega)
      · exact Or.inl (by omega)
    · rcases hbc with hbc | ⟨hbc, hid'⟩
      · exact Or.inl (by omega)
      · exact Or.inr ⟨by omega, le_trans hid hid'⟩

section Query

variable {z : Zone} {now : Int} {tasks : Collection} {driverId : String}

theorem queried_status {d : Doc} (h : queried z now driverId d = true) :
    d "status" = .str TaskStatus.start ∨ d "status" = .str TaskStatus.confirm :=
  (of_decide_eq_true h).2.2.1

/-- Which tasks reach the page. -/
theorem mem_documents {e : String × Doc} :
    e ∈ documents z now tasks driverId ↔
      driverId ≠ "" ∧ e ∈ tasks.entries ∧ queried z now driverId e.2 = true := by
  unfold documents getTodayTaskSnapshotByDriverId
  by_cases hid : driverId = ""
  · simp [hid]
  · rw [if_neg hid, List.mem_filter, List.mem_insertionSort, List.mem_filter]
    constructor
    · exact fun h => ⟨hid, h.1⟩
    · rintro ⟨-, he, hq⟩
      refine ⟨⟨he, hq⟩, decide_eq_true ?_⟩
      rcases queried_status hq with hs | hs
      · rw [hs]
        decide
      · rw [hs]
        decide

theorem documents_sorted : (documents z now tasks driverId).Pairwise startsBefore := by
  unfold documents getTodayTaskSnapshotByDriverId
  split
  · exact List.Pairwise.nil
  · exact (List.pairwise_insertionSort startsBefore _).filter _

theorem documents_nodup : (documents z now tasks driverId).Nodup := by
  have entries : tasks.entries.Nodup := List.Nodup.of_map _ tasks.unique
  unfold documents getTodayTaskSnapshotByDriverId
  split
  · exact List.nodup_nil
  · exact ((List.perm_insertionSort _ _).nodup_iff.mpr (entries.filter _)).filter _

/-- The order tells two tasks of the collection apart, since their ids differ. -/
theorem startsBefore_antisymm {a b : String × Doc} (ha : a ∈ tasks.entries)
    (hb : b ∈ tasks.entries) (hab : startsBefore a b) (hba : startsBefore b a) : a = b := by
  apply List.inj_on_of_nodup_map tasks.unique ha hb
  rcases hab with hab | ⟨hstart, hab⟩
  · rcases hba with hba | ⟨hba, -⟩
    · omega
    · omega
  · rcases hba with hba | ⟨-, hba⟩
    · omega
    · exact le_antisymm hab hba

/-- A task the query returns is not a skipped one. -/
theorem skipped_iff {doc : String × Doc} {item : TaskModel} {startDate finishDate : Int}
    (dated : Dated doc item startDate finishDate) (h : queried z now driverId doc.2 = true) :
    Skipped item ↔ item.type = some StatusType.delete := by
  refine ⟨fun hs => hs.resolve_right fun hskip => ?_, Or.inl⟩
  have hstatus := (fromDocumentSnapshot_eq_some dated.decodes).status
  rw [hskip] at hstatus
  rcases queried_status h with hs | hs
  · exact absurd (hs.symm.trans hstatus) (by decide)
  · exact absurd (hs.symm.trans hstatus) (by decide)

theorem visit_eq_none_iff {settingsModel : Option SettingsModel} {doc : String × Doc}
    (h : queried z now driverId doc.2 = true) :
    visit z settingsModel now doc = none ↔ PassedOver z now doc := by
  constructor
  · intro hv
    rcases visit_cases z settingsModel now doc with ⟨item, startDate, finishDate, dated⟩ | hfails
    · refine ⟨item, startDate, finishDate, dated, ?_⟩
      rw [visit_of_dated dated] at hv
      by_cases today : OfToday z now item startDate finishDate
      · by_cases skipped : Skipped item
        · exact Or.inl ((skipped_iff dated h).mp skipped)
        · rw [if_pos ⟨today, skipped⟩] at hv
          cases hv
      · exact Or.inr today
    · cases hv.symm.trans hfails
  · rintro ⟨item, startDate, finishDate, dated, hpassed⟩
    rw [visit_of_dated dated, if_neg]
    rintro ⟨today, shown⟩
    rcases hpassed with hdelete | other
    · exact shown (Or.inl hdelete)
    · exact other today

/-- The page shows a task under way exactly when one gets through the query and the loop. -/
theorem showsRunning_iff (settingsModel : Option SettingsModel) :
    ShowsRunning z now (build z settingsModel now (documents z now tasks driverId)) ↔
      GetsThrough z now tasks driverId := by
  have first : ∀ item button,
      build z settingsModel now (documents z now tasks driverId) = .task item button ↔
        ∃ e ∈ documents z now tasks driverId, visit z settingsModel now e =
          some (.task item button) ∧ ∀ x ∈ documents z now tasks driverId, x ≠ e →
            startsBefore x e → visit z settingsModel now x = none := by
    intro item button
    rw [build_eq_task_iff]
    exact findSome?_sorted_eq_some_iff documents_sorted
      (fun a ha b hb => startsBefore_antisymm (mem_documents.mp ha).2.1 (mem_documents.mp hb).2.1)
      documents_nodup
  constructor
  · rintro ⟨item, button, finishDate, hpage, started, hfinish, today⟩
    obtain ⟨e, he, hv, hbelow⟩ := (first item button).mp hpage
    obtain ⟨hid, hmem, hq⟩ := mem_documents.mp he
    obtain ⟨startDate, f, dated, -, shown, -⟩ := visit_eq_task hv
    cases dated.finishDate.symm.trans hfinish
    refine ⟨hid, e, hmem, item, startDate, finishDate, dated, hq, started, today,
      fun hdelete => shown (Or.inl hdelete), fun x hx hne hxq hle => ?_⟩
    exact (visit_eq_none_iff hxq).mp (hbelow x (mem_documents.mpr ⟨hid, hx, hxq⟩) hne hle)
  · rintro ⟨hid, e, hmem, item, startDate, finishDate, dated, hq, started, today, hkeep, hbelow⟩
    refine ⟨item, floatingActionButton z settingsModel now item finishDate, finishDate,
      (first _ _).mpr ⟨e, mem_documents.mpr ⟨hid, hmem, hq⟩, ?_, fun x hx hne hle => ?_⟩, started,
      dated.finishDate, today⟩
    · rw [visit_of_dated dated, if_pos]
      exact ⟨Or.inl ⟨today, started⟩, fun skipped => hkeep ((skipped_iff dated hq).mp skipped)⟩
    · obtain ⟨-, hx, hxq⟩ := mem_documents.mp hx
      exact (visit_eq_none_iff hxq).mpr (hbelow x hx hne hxq hle)

end Query

/-- A running task is shown iff one of them gets through; the settings play no part. -/
theorem running_shown_iff (z : Zone) (settingsModel : Option SettingsModel) (now : Int)
    (tasks : Collection) (driverId : String) :
    ((∃ e ∈ tasks.entries, Running z now driverId e.2) →
        ShowsRunning z now (build z settingsModel now (documents z now tasks driverId))) ↔
      ((∃ e ∈ tasks.entries, Running z now driverId e.2) → GetsThrough z now tasks driverId) := by
  rw [showsRunning_iff]

/-- A shift under way from 08:30 to 17:00, next to one from 08:00 that was never begun. -/
def missedShift : Collection :=
  ⟨[("t1", plannedTask TaskStatus.start (nine - hourMicros / 2) (nine + 8 * hourMicros)),
    ("t2", plannedTask TaskStatus.confirm (nine - hourMicros) (nine + 8 * hourMicros))], by decide⟩

/-- The shift that was missed is shown in place of the one under way. -/
theorem missed_shift_hides_running_task :
    ¬ ∀ (z : Zone) (settingsModel : Option SettingsModel) (now : Int) (tasks : Collection)
        (driverId : String), (∃ e ∈ tasks.entries, Running z now driverId e.2) →
          ShowsRunning z now (build z settingsModel now (documents z now tasks driverId)) := by
  intro claim
  have running : Running bangkok nine "e1"
      (plannedTask TaskStatus.start (nine - hourMicros / 2) (nine + 8 * hourMicros)) :=
    ⟨rfl, by decide, rfl, nine + 8 * hourMicros, rfl, by decide⟩
  obtain ⟨item, button, finishDate, hpage, started, -⟩ :=
    claim bangkok none nine missedShift "e1" ⟨_, List.mem_cons_self, running⟩
  have shown : build bangkok none nine (documents bangkok nine missedShift "e1") =
      .task (plannedModel "t2" TaskStatus.confirm (nine - hourMicros) (nine + 8 * hourMicros))
        .clockIn := rfl
  cases shown.symm.trans hpage
  exact absurd started (by decide)

end ClockingScreens
