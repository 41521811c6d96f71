import AsmWt.CivilDate
import AsmWt.DeletedTask
import AsmWt.Grouping

/-!
# The days of the calendar

The calendar shows three months before and after the day of today, and asks the
controller for the tasks of each day. Every call gives `eventList` a new list,
fills it in a loop over the tasks and returns it.
-/

namespace TaskCalendar

open Firestore TasksModel WallClock ClockingScreens DeletedTask Grouping

/-- `kFirstDay` and `kLastDay`, the months of `kToday` moved by so many. -/
def monthsFrom (z : Zone) (kToday months : Int) : Int :=
  z.midnight (dayOf
    ⟨(z.date kToday).year, (z.date kToday).month + months, (z.date kToday).day⟩)

def kFirstDay (z : Zone) (kToday : Int) : Int := monthsFrom z kToday (-3)
def kLastDay (z : Zone) (kToday : Int) : Int := monthsFrom z kToday 3

/-- `Duration.inDays`. -/
def inDays (duration : Int) : Int := duration.tdiv dayMicros

/-- The days from the first one to the last one. -/
def daysInRange (z : Zone) (first last : Int) : List CivilDate :=
  (List.range (inDays (last - first) + 1).toNat).map fun index : Nat =>
    dateOf (dayOf ⟨(z.date first).year, (z.date first).month, (z.date first).day + index⟩)

/-- Whether both days are there and agree in year, month and day. -/
def isSameDay (a b : Option CivilDate) : Bool := a.isSome && a = b

/-- All lists that `eventList` has referred to, the one it refers to, and what else the controller
holds is not read. -/
structure State where
  lists : List (List TaskModel) := []
  eventList : Nat := 0

/-- One round of the loop. -/
def visit (z : Zone) (day : Option CivilDate) (s : State) (task : TaskModel) : State :=
  match task.startDate with
  | none => s
  | some startDate =>
    let onlyDate := z.midnight (dayOf (z.date startDate))
    if isSameDay day (some (z.date onlyDate)) then
      { s with lists := s.lists.modify s.eventList fun events => events ++ [task] }
    else s

/-- The state after the call, and the list it returns. -/
def findSelectedTime (z : Zone) (s : State) (day : Option CivilDate) (taskModels : List TaskModel) :
    State × Nat :=
  let s := taskModels.foldl (visit z day) ⟨s.lists ++ [[]], s.lists.length⟩
  (s, s.eventList)

/-- The `eventLoader` of the calendar for one day after the other. -/
def loadEvents (z : Zone) (taskModels : List TaskModel) :
    State → List CivilDate → State × List Nat
  | s, [] => (s, [])
  | s, day :: days =>
    let (s, l) := findSelectedTime z s (some day) taskModels
    let (s, ls) := loadEvents z taskModels s days
    (s, l :: ls)

/-- What the returned lists hold when all of them have been returned. -/
def events (z : Zone) (taskModels : List TaskModel) (s : State) (days : List CivilDate) :
    List (List TaskModel) :=
  let (s, ls) := loadEvents z taskModels s days
  ls.map fun l => s.lists[l]?.getD []

/-- The day a task starts on. -/
def startDay (z : Zone) (task : TaskModel) : Option CivilDate := task.startDate.map z.date

section Lists

variable {z : Zone} {taskModels : List TaskModel} {s : State}

theorem modify_length (lists : List (List TaskModel)) (events : List TaskModel)
    (f : List TaskModel → List TaskModel) :
    (lists ++ [events]).modify lists.length f = lists ++ [f events] := by
  induction lists with
  | nil => rfl
  | cons l lists ih => exact congrArg (l :: ·) ih

theorem foldl_visit (lists : List (List TaskModel)) (day : Option CivilDate)
    (events : List TaskModel) :
    taskModels.foldl (visit z day) ⟨lists ++ [events], lists.length⟩ =
      ⟨lists ++ [events ++ taskModels.filter fun task => isSameDay day (startDay z task)],
        lists.length⟩ := by
  induction taskModels generalizing events with
  | nil => simp
  | cons task taskModels ih =>
    have round : visit z day ⟨lists ++ [events], lists.length⟩ task =
        ⟨lists ++ [if isSameDay day (startDay z task) then events ++ [task] else events],
          lists.length⟩ := by
      cases hs : task.startDate with
      | none =>
        have nowhere : isSameDay day none = false := by
          cases day with
          | none => rfl
          | some day => rfl
        simp [visit, startDay, hs, nowhere]
      | some startDate =>
        simp only [visit, startDay, hs, Option.map_some, Zone.date_midnight_date]
        split
        · rw [modify_length]
        · rfl
    rw [List.foldl_cons, round, ih, List.filter_cons]
    split
    · simp
    · rfl

theorem findSelectedTime_eq (z : Zone) (s : State) (day : CivilDate)
    (taskModels : List TaskModel) :
    findSelectedTime z s (some day) taskModels =
      (⟨s.lists ++ [group (startDay z) taskModels day], s.lists.length⟩, s.lists.length) := by
  have same (task : TaskModel) :
      isSameDay (some day) (startDay z task) = decide (startDay z task = some day) := by
    simp [isSameDay, eq_comm]
  rw [findSelectedTime, foldl_visit, List.nil_append, group]
  simp only [same]

/-- The lists of the days come after the lists there were, and none of them changes again. -/
theorem loadEvents_eq (z : Zone) (taskModels : List TaskModel) (s : State)
    (days : List CivilDate) :
    (loadEvents z taskModels s days).1.lists =
        s.lists ++ days.map (group (startDay z) taskModels) ∧
      (loadEvents z taskModels s days).2 = List.range' s.lists.length days.length := by
  induction days generalizing s with
  | nil => simp [loadEvents]
  | cons day days ih =>
    rw [loadEvents, findSelectedTime_eq]
    obtain ⟨lists, refs⟩ := ih ⟨s.lists ++ [group (startDay z) taskModels day], s.lists.length⟩
    constructor
    · simp [lists]
    · simp [refs, List.range'_succ]

theorem events_eq (z : Zone) (taskModels : List TaskModel) (s : State) (days : List CivilDate) :
    events z taskModels s days = days.map (group (startDay z) taskModels) := by
  obtain ⟨lists, refs⟩ := loadEvents_eq z taskModels s days
  simp only [events, lists, refs]
  refine List.ext_getElem (by simp) fun i _ hi => ?_
  simp only [List.length_map] at hi
  simp [hi]

end Lists

section Days

variable {first last : Int}

theorem dayOf_add_days (d : CivilDate) (n : Int) :
    dayOf ⟨d.year, d.month, d.day + n⟩ = dayOf d + n := by
  simp only [dayOf]
  omega

/-- In a zone that keeps its offset the days are counted without gaps. -/
theorem daysInRange_midnight (offset first last : Int) :
    daysInRange (Zone.fixed offset) ((Zone.fixed offset).midnight first)
        ((Zone.fixed offset).midnight last) =
      (List.range (last - first + 1).toNat).map fun index : Nat => dateOf (first + index) := by
  have length : (Zone.fixed offset).midnight last - (Zone.fixed offset).midnight first =
      (last - first) * dayMicros := by
    simp only [Zone.midnight, Zone.fixed]
    rw [Int.sub_mul]
    omega
  have count : inDays ((last - first) * dayMicros) = last - first :=
    Int.mul_tdiv_cancel _ (by decide)
  rw [daysInRange, length, count, Zone.date, Zone.day_midnight]
  simp only [dayOf_add_days, dayOf_dateOf]

theorem nodup_days (first last : Int) :
    ((List.range (last - first + 1).toNat).map fun index : Nat =>
      dateOf (first + index)).Nodup := by
  refine List.Nodup.map (fun i j h => ?_) List.nodup_range
  have := dateOf_inj.mp h
  omega

theorem mem_days {day : Int} (hfirst : first ≤ day) (hlast : day ≤ last) :
    dateOf day ∈ (List.range (last - first + 1).toNat).map fun index : Nat =>
      dateOf (first + index) := by
  refine List.mem_map.mpr ⟨(day - first).toNat, List.mem_range.mpr (by omega), ?_⟩
  rw [Int.toNat_of_nonneg (by omega)]
  congr 1
  omega

/-- The calendar begins and ends more than two months away from today. -/
theorem calendar_range (z : Zone) (kToday : Int) :
    ∃ first last, kFirstDay z kToday = z.midnight first ∧ kLastDay z kToday = z.midnight last ∧
      first + 89 ≤ z.day kToday ∧ z.day kToday + 89 ≤ last := by
  obtain ⟨before, after⟩ := dayOf_months (z.date kToday)
  have today : dayOf (z.date kToday) = z.day kToday := dayOf_dateOf _
  exact ⟨_, _, rfl, rfl, today ▸ before, today ▸ after⟩

/-- The start times that `getTasksSnapshotByUserId` asks for, with the two times it takes for
now. -/
def Delivered (startNow endNow : Int) (taskModels : List TaskModel) : Prop :=
  ∀ task ∈ taskModels, ∀ startDate, task.startDate = some startDate →
    startNow - 15 * dayMicros ≤ startDate ∧ startDate ≤ endNow + 5 * dayMicros

/-- What is delivered starts at most 15 days before and 5 days after today. -/
theorem day_delivered (offset : Int) {kToday startNow endNow startDate : Int}
    (startToday : (Zone.fixed offset).day startNow = (Zone.fixed offset).day kToday)
    (endToday : (Zone.fixed offset).day endNow = (Zone.fixed offset).day kToday)
    (early : startNow - 15 * dayMicros ≤ startDate) (late : startDate ≤ endNow + 5 * dayMicros) :
    (Zone.fixed offset).day kToday - 15 ≤ (Zone.fixed offset).day startDate ∧
      (Zone.fixed offset).day startDate ≤ (Zone.fixed offset).day kToday + 5 := by
  simp only [Zone.day, Zone.fixed, dayMicros, hourMicros, minuteMicros] at *
  omega

/-- The lists of the days from the first one to the last one partition the tasks that are delivered
today. -/
theorem findSelectedTime_partitions (offset : Int) (s : State) {kToday startNow endNow : Int}
    {taskModels : List TaskModel}
    (startToday : (Zone.fixed offset).day startNow = (Zone.fixed offset).day kToday)
    (endToday : (Zone.fixed offset).day endNow = (Zone.fixed offset).day kToday)
    (delivered : Delivered startNow endNow taskModels) :
    Partitions (startDay (Zone.fixed offset)) taskModels
      (daysInRange (Zone.fixed offset) (kFirstDay (Zone.fixed offset) kToday)
        (kLastDay (Zone.fixed offset) kToday))
      (events (Zone.fixed offset) taskModels s
        (daysInRange (Zone.fixed offset) (kFirstDay (Zone.fixed offset) kToday)
          (kLastDay (Zone.fixed offset) kToday))) := by
  obtain ⟨first, last, hfirst, hlast, before, after⟩ :=
    calendar_range (Zone.fixed offset) kToday
  rw [hfirst, hlast, daysInRange_midnight, events_eq]
  refine partitions_group (nodup_days first last) fun task ht day hday => ?_
  obtain ⟨startDate, hs, rfl⟩ := Option.map_eq_some_iff.mp hday
  obtain ⟨early, late⟩ := delivered task ht startDate hs
  have range := day_delivered offset startToday endToday early late
  exact mem_days (by omega) (by omega)

/-- A day shift of today and a task without a start date. -/
theorem findSelectedTime_partitions_today :
    Partitions (startDay bangkok) [dayShiftModel TaskStatus.start, {}]
      (daysInRange bangkok (kFirstDay bangkok nine) (kLastDay bangkok nine))
      (events bangkok [dayShiftModel TaskStatus.start, {}] {}
        (daysInRange bangkok (kFirstDay bangkok nine) (kLastDay bangkok nine))) := by
  have delivered : Delivered nine nine [dayShiftModel TaskStatus.start, {}] := by
    simp only [Delivered, List.forall_mem_cons]
    refine ⟨?_, ?_, ?_⟩
    · rintro startDate ⟨⟩
      decide
    · rintro startDate ⟨⟩
    · rintro task ⟨⟩
  exact findSelectedTime_partitions (7 * hourMicros) {} rfl rfl delivered

/-- The snapshot of the calendar delivers such tasks. -/
theorem delivered_snapshot {now : Int} {tasks : Collection} {userId : String}
    {shown : List TaskModel}
    (hshown : taskModels (getTasksSnapshotByUserId now tasks userId) = some shown) :
    Delivered now now shown := by
  intro task ht startDate hs
  obtain ⟨decoded, hdecoded, hshown⟩ := Option.bind_eq_some_iff.mp hshown
  cases hshown
  obtain ⟨doc, hdoc, hm⟩ := (mem_of_mapM_eq_some hdecoded task).mp (List.mem_filter.mp ht).1
  have queried : ofCalendar now userId doc.2 = true := by
    rw [getTasksSnapshotByUserId] at hdoc
    split at hdoc
    · cases hdoc
    · have := (List.mem_filter.mp ((List.mem_insertionSort _).mp hdoc)).2
      exact ((Bool.and_eq_true _ _).mp this).1
  have within := (of_decide_eq_true queried).2
  rw [(fromDocumentSnapshot_eq_some hm).startDate, hs] at within
  exact of_decide_eq_true within

end Days

end TaskCalendar
