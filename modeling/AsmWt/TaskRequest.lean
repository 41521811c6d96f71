import AsmWt.CivilDate
import AsmWt.DeletedTask
import AsmWt.Interleaving

/-!
# Requesting a task

The form of the calendar takes a day and a time for the start and for the
finish, with the time of the server as their default. The check compares both
without their seconds; what is stored has them.
-/

namespace TaskRequest

open Firestore TasksModel WallClock ClockingScreens Interleaving


/-- A `DateTime`, which is one of UTC or of the zone of the device. -/
structure DateTime where
  micros : Int
  isUtc : Bool := false
  deriving DecidableEq

/-- The year, month and day it shows. -/
def DateTime.date (z : Zone) (t : DateTime) : CivilDate :=
  if t.isUtc then dateOf (t.micros / dayMicros) else z.date t.micros

/-- A picked time; the default for the finish may be hour 24. -/
structure Time where
  hour : Int
  minute : Int
  second : Int := 0
  hour_range : 0 ≤ hour ∧ hour ≤ 24
  minute_range : 0 ≤ minute ∧ minute ≤ 59
  second_range : 0 ≤ second ∧ second ≤ 59

/-- `DateTime(year, month, day, hour, minute, second)`. -/
def dateTime (z : Zone) (d : CivilDate) (hour minute second : Int) : Int :=
  z.instant (dayOf d * dayMicros + hour * hourMicros + minute * minuteMicros +
    second * secondMicros)

example : dateTime bangkok ⟨2023, 12, 31⟩ 24 30 0 = dateTime bangkok ⟨2024, 1, 1⟩ 0 30 0 := by
  decide

/-- The fields of `TaskCalendarController` that a request depends on, and what was stored. -/
structure State where
  dateNow : DateTime
  selectedDay : Option DateTime := none
  selectedStartDay : DateTime
  selectedFinishDay : DateTime
  startTimePicker : Option Time := none
  finishTimePicker : Option Time := none
  created : List Payload := []

/-- What else a request consists of: the texts and the choice of the form, the stored session, and
the reference to the employee unless building it throws. -/
structure Form where
  command : String
  taskSelectionType : Int
  userId : Option String
  username : Option String
  employeeModelRefData : Option String

/-- The server time is awaited by the page and by every change of the connectivity; `none` is an
exception. The pickers hand back what was picked. A request may fail its validators, and Firestore
may refuse it. -/
inductive Event where
  | loadTimeServer (serverTime : Option Int)
  | selectDate (isStartDay : Bool) (picked : Option DateTime)
  | onTimePicked (isStart : Bool) (newTime : Time)
  | onDaySelected (selectedDay focusedDay : DateTime)
  | onPageChanged (focusedDay : DateTime)
  | onCreatedBtnPressed (form : Form) (validates added : Bool)

/-- The hour of the clock on the wall, and the minute. -/
def hourOf (z : Zone) (t : Int) : Int := z.wall t % dayMicros / hourMicros
def minuteOf (z : Zone) (t : Int) : Int := z.wall t % hourMicros / minuteMicros

theorem hourOf_range (z : Zone) (t : Int) : 0 ≤ hourOf z t ∧ hourOf z t ≤ 23 := by
  simp only [hourOf, dayMicros, hourMicros, minuteMicros]
  omega

theorem minuteOf_range (z : Zone) (t : Int) : 0 ≤ minuteOf z t ∧ minuteOf z t ≤ 59 := by
  simp only [minuteOf, hourMicros, minuteMicros]
  omega

def State.loadTimeServer (z : Zone) (s : State) : Option Int → State
  | some serverTime =>
    { s with
      dateNow := { micros := serverTime }
      selectedStartDay := { micros := serverTime }
      selectedFinishDay := { micros := serverTime }
      selectedDay := some { micros := serverTime }
      startTimePicker := some
        { hour := hourOf z serverTime
          minute := minuteOf z serverTime
          hour_range := by
            have := hourOf_range z serverTime
            omega
          minute_range := minuteOf_range z serverTime
          second_range := by decide }
      finishTimePicker := some
        { hour := hourOf z serverTime + 1
          minute := minuteOf z serverTime
          hour_range := by
            have := hourOf_range z serverTime
            omega
          minute_range := minuteOf_range z serverTime
          second_range := by decide } }
  | none =>
    { s with
      selectedStartDay := s.dateNow
      selectedFinishDay := s.dateNow
      selectedDay := some s.dateNow }

def State.selectDate (s : State) (isStartDay : Bool) : Option DateTime → State
  | none => s
  | some picked =>
    if picked ≠ s.selectedFinishDay ∨ picked ≠ s.selectedStartDay then
      if isStartDay then { s with selectedStartDay := picked }
      else { s with selectedFinishDay := picked }
    else s

/-- The task of a request from `startDate` to `finishDate`. -/
def requestedTask (s : State) (form : Form) (startDate finishDate : Int) : TaskModel where
  name := some "Task Requirement"
  controllerId := form.userId
  controllerName := form.username
  desc := some form.command
  createDate := some s.dateNow.micros
  status := some TaskStatus.confirm
  userId := form.userId
  employeeModelRefData := form.employeeModelRefData
  isDisable := some false
  type := some TaskStatus.request
  taskGroup := some (if form.taskSelectionType = 0 then StatusType.scheduled else StatusType.ot)
  startDate := some startDate
  finishDate := some finishDate

/-- What `onCreatedBtnPressed` hands to `createUserTaskNote`, if it comes to that; a time that was
never set is an exception. The guard of a missing connection compares a list with a value and never
holds. -/
def State.request (z : Zone) (s : State) (form : Form) : Option Payload := do
  let startTimePicker ← s.startTimePicker
  let finishTimePicker ← s.finishTimePicker
  let startDay := s.selectedStartDay.date z
  let finishDay := s.selectedFinishDay.date z
  let startDate := dateTime z startDay startTimePicker.hour startTimePicker.minute 0
  let finishDate := dateTime z finishDay finishTimePicker.hour finishTimePicker.minute 0
  if startDate < finishDate then
    some (toJson (requestedTask s form
      (dateTime z startDay startTimePicker.hour startTimePicker.minute startTimePicker.second)
      (dateTime z finishDay finishTimePicker.hour finishTimePicker.minute finishTimePicker.second))
      (some true))
  else none

def step (z : Zone) (s : State) : Event → Option State
  | .loadTimeServer serverTime => some (s.loadTimeServer z serverTime)
  | .selectDate isStartDay picked => some (s.selectDate isStartDay picked)
  | .onTimePicked isStart newTime =>
    some (if isStart then { s with startTimePicker := some newTime }
      else { s with finishTimePicker := some newTime })
  | .onDaySelected selectedDay focusedDay =>
    some { s with selectedDay := some selectedDay, dateNow := focusedDay }
  | .onPageChanged focusedDay => some { s with dateNow := focusedDay }
  | .onCreatedBtnPressed form validates added =>
    match if validates then s.request z form else none with
    | none => some s
    | some data => some (if added then { s with created := data :: s.created } else s)

/-- The controller as it is built, with the days it starts from. -/
def initial (dateNow selectedStartDay selectedFinishDay : DateTime) : State :=
  { dateNow, selectedStartDay, selectedFinishDay }

/-- What is stored starts and finishes at times `length` apart. -/
def Lasts (data : Payload) (length : Int) : Prop :=
  ∃ startDate, data.lookup "start_time" = some (.timestamp startDate) ∧
    data.lookup "finish_time" = some (.timestamp (startDate + length))

def EndsAfterStart (data : Payload) : Prop := ∃ length, 0 < length ∧ Lasts data length

/-- The user picks neither a day nor a time. -/
def Event.leavesDefaults : Event → Bool
  | .selectDate _ (some _) | .onTimePicked _ _ => false
  | .loadTimeServer _ | .selectDate _ none | .onDaySelected _ _ | .onPageChanged _
  | .onCreatedBtnPressed _ _ _ => true

/-- Once the server time is there, the defaults pass the check and last an hour, whatever else
happens before the press. -/
def AcceptsDefaults (z : Zone) (s : State) : Prop :=
  ∀ serverTime es, (∀ e ∈ es, e.leavesDefaults = true) → EveryState (step z)
    (fun t => ∀ form, ∃ data, t.request z form = some data ∧ Lasts data hourMicros)
    (s.loadTimeServer z (some serverTime)) es

section Request

variable {z : Zone} {s t : State} {form : Form} {data : Payload}

theorem startDate_mem_toJson (m : TaskModel) (isCreateNew : Option Bool) :
    ("start_time", Codec.timestamp.encode m.startDate) ∈ toJson m isCreateNew := by
  simp [toJson]

theorem finishDate_mem_toJson (m : TaskModel) (isCreateNew : Option Bool) :
    ("finish_time", Codec.timestamp.encode m.finishDate) ∈ toJson m isCreateNew := by
  simp [toJson]

theorem lasts_toJson (s : State) (form : Form) (startDate finishDate : Int) :
    Lasts (toJson (requestedTask s form startDate finishDate) (some true))
      (finishDate - startDate) := by
  have entry {k : String} {w : Value}
      (h : (k, w) ∈ toJson (requestedTask s form startDate finishDate) (some true)) :
      (toJson (requestedTask s form startDate finishDate) (some true)).lookup k = some w :=
    (KeyedRecord.lookup_eq_some_iff (keys_toJson_nodup _ _)).mpr h
  refine ⟨startDate, entry (startDate_mem_toJson _ _), ?_⟩
  rw [show startDate + (finishDate - startDate) = finishDate by omega]
  exact entry (finishDate_mem_toJson _ _)

/-- The length of a request at these times, with this second of each. -/
def lengthOf (z : Zone) (s : State) (a b : Time) (second second' : Int) : Int :=
  dateTime z (s.selectedFinishDay.date z) b.hour b.minute second' -
    dateTime z (s.selectedStartDay.date z) a.hour a.minute second

/-- The times of a request, and the check it has passed. -/
theorem request_eq_some (h : s.request z form = some data) :
    ∃ a b, s.startTimePicker = some a ∧ s.finishTimePicker = some b ∧
      0 < lengthOf z s a b 0 0 ∧ Lasts data (lengthOf z s a b a.second b.second) := by
  obtain ⟨a, ha, h⟩ := Option.bind_eq_some_iff.mp h
  obtain ⟨b, hb, h⟩ := Option.bind_eq_some_iff.mp h
  obtain ⟨check, h⟩ := Option.ite_none_right_eq_some.mp h
  cases h
  exact ⟨a, b, ha, hb, Int.sub_pos.mpr check, lasts_toJson _ _ _ _⟩

theorem request_of_check {a b : Time} (ha : s.startTimePicker = some a)
    (hb : s.finishTimePicker = some b) (check : 0 < lengthOf z s a b 0 0) (form : Form) :
    ∃ data, s.request z form = some data ∧ Lasts data (lengthOf z s a b a.second b.second) := by
  refine ⟨_, ?_, lasts_toJson s form _ _⟩
  rw [State.request, ha, hb]
  exact if_pos (Int.sub_pos.mp check)

/-- The check is off by whole minutes, and the seconds of the start are less than one. -/
theorem lengthOf_pos {offset : Int} {a b : Time}
    (check : 0 < lengthOf (Zone.fixed offset) s a b 0 0) :
    0 < lengthOf (Zone.fixed offset) s a b a.second b.second := by
  have := a.second_range
  have := b.second_range
  simp only [lengthOf, dateTime, Zone.fixed, dayMicros, hourMicros, minuteMicros, secondMicros]
    at check ⊢
  omega

theorem endsAfterStart_of_request {offset : Int}
    (h : s.request (Zone.fixed offset) form = some data) : EndsAfterStart data := by
  obtain ⟨a, b, -, -, check, lasts⟩ := request_eq_some h
  exact ⟨_, lengthOf_pos check, lasts⟩

/-- The days are the same, and the times an hour apart. -/
structure AtDefaults (z : Zone) (s : State) : Prop where
  sameDay : s.selectedStartDay.date z = s.selectedFinishDay.date z
  pickers : ∃ a b, s.startTimePicker = some a ∧ s.finishTimePicker = some b ∧
    b.hour = a.hour + 1 ∧ b.minute = a.minute ∧ a.second = 0 ∧ b.second = 0

theorem AtDefaults.request {offset : Int} (h : AtDefaults (Zone.fixed offset) s) (form : Form) :
    ∃ data, s.request (Zone.fixed offset) form = some data ∧ Lasts data hourMicros := by
  obtain ⟨a, b, ha, hb, hour, minute, second, second'⟩ := h.pickers
  have length : lengthOf (Zone.fixed offset) s a b 0 0 = hourMicros := by
    rw [lengthOf, h.sameDay, hour, minute]
    simp only [dateTime, Zone.fixed, hourMicros, minuteMicros]
    omega
  have check : 0 < lengthOf (Zone.fixed offset) s a b 0 0 := by
    rw [length]
    decide
  have made := request_of_check ha hb check form
  rwa [second, second', length] at made

theorem atDefaults_loadTimeServer (z : Zone) (s : State) (serverTime : Int) :
    AtDefaults z (s.loadTimeServer z (some serverTime)) where
  sameDay := rfl
  pickers := ⟨_, _, rfl, rfl, rfl, rfl, rfl, rfl⟩

theorem AtDefaults.step {e : Event} (h : AtDefaults z s) (untouched : e.leavesDefaults = true)
    (hstep : step z s e = some t) : AtDefaults z t := by
  cases e with
  | loadTimeServer serverTime =>
    cases hstep
    cases serverTime with
    | none => exact ⟨rfl, h.pickers⟩
    | some serverTime => exact atDefaults_loadTimeServer z s serverTime
  | selectDate isStartDay picked =>
    cases picked with
    | none =>
      cases hstep
      exact h
    | some picked => cases untouched
  | onTimePicked => cases untouched
  | onDaySelected =>
    cases hstep
    exact ⟨h.sameDay, h.pickers⟩
  | onPageChanged =>
    cases hstep
    exact ⟨h.sameDay, h.pickers⟩
  | onCreatedBtnPressed form validates added =>
    rw [TaskRequest.step] at hstep
    split at hstep
    · cases hstep
      exact h
    · cases hstep
      split
      · exact ⟨h.sameDay, h.pickers⟩
      · exact h

theorem acceptsDefaults (offset : Int) (s : State) : AcceptsDefaults (Zone.fixed offset) s := by
  intro serverTime es untouched
  have defaults := everyState_of_everyStep (fun _ _ _ h hc ht => AtDefaults.step h hc ht)
    (atDefaults_loadTimeServer (Zone.fixed offset) s serverTime) (everyStep_of_forall untouched _)
  exact defaults.mono fun _ h form => h.request form

/-- Only a press that comes to a request stores anything. -/
theorem created_of_step {e : Event} (hstep : step z s e = some t) :
    t.created = s.created ∨
      ∃ form data, s.request z form = some data ∧ t.created = data :: s.created := by
  cases e with
  | loadTimeServer serverTime =>
    cases hstep
    cases serverTime with
    | none => exact Or.inl rfl
    | some serverTime => exact Or.inl rfl
  | selectDate isStartDay picked =>
    cases hstep
    cases picked with
    | none => exact Or.inl rfl
    | some picked =>
      refine Or.inl ?_
      rw [State.selectDate]
      split
      · split
        · rfl
        · rfl
      · rfl
  | onTimePicked isStart newTime =>
    cases hstep
    refine Or.inl ?_
    split
    · rfl
    · rfl
  | onDaySelected =>
    cases hstep
    exact Or.inl rfl
  | onPageChanged =>
    cases hstep
    exact Or.inl rfl
  | onCreatedBtnPressed form validates added =>
    rw [step] at hstep
    split at hstep
    · cases hstep
      exact Or.inl rfl
    · case h_2 data made =>
      cases hstep
      obtain ⟨-, requested⟩ := Option.ite_none_right_eq_some.mp made
      split
      · exact Or.inr ⟨form, data, requested, rfl⟩
      · exact Or.inl rfl

theorem step_endsAfterStart {offset : Int} {e : Event}
    (h : ∀ data ∈ s.created, EndsAfterStart data)
    (hstep : step (Zone.fixed offset) s e = some t) : ∀ data ∈ t.created, EndsAfterStart data := by
  rcases created_of_step hstep with same | ⟨form, data, requested, more⟩
  · rw [same]
    exact h
  · rw [more]
    exact List.forall_mem_cons.mpr ⟨endsAfterStart_of_request requested, h⟩

/-- Every task that is stored in any run ends after it starts, and in every state of it the defaults
are good for a task of an hour. -/
theorem requested_task_ends_after_start (offset : Int)
    (dateNow selectedStartDay selectedFinishDay : DateTime) (es : List Event) :
    EveryState (step (Zone.fixed offset))
      (fun s => (∀ data ∈ s.created, EndsAfterStart data) ∧ AcceptsDefaults (Zone.fixed offset) s)
      (initial dateNow selectedStartDay selectedFinishDay) es := by
  have fresh : ∀ data ∈ (initial dateNow selectedStartDay selectedFinishDay).created,
      EndsAfterStart data := fun _ hdata => nomatch hdata
  have stored : EveryState (step (Zone.fixed offset))
      (fun s => ∀ data ∈ s.created, EndsAfterStart data)
      (initial dateNow selectedStartDay selectedFinishDay) es :=
    everyState_of_inv (fun _ _ _ h ht => step_endsAfterStart h ht) fresh es
  exact stored.mono fun s h => ⟨h, acceptsDefaults offset s⟩

end Request

end TaskRequest
