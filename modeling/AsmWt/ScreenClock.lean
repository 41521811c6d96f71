import AsmWt.Interleaving
import AsmWt.TodayTask

/-!
# The clock behind the page of today

`TodayTaskView.build` compares the tasks with the `now` of the controller. That
is the time at which the controller was built, or the one of the last answer of
the time server, which is only asked when the connectivity changes. The window
of the query is that of the time at which the page was created.
-/

namespace ScreenClock

open Interleaving Firestore TasksModel WallClock ClockingScreens TodayTask

/-- The page of today. Its documents are those of a snapshot of the query it was created with. -/
structure TodayTaskView (z : Zone) where
  createdAt : Int
  userId : String
  documents : List (String × Doc) := []
  fetched : documents = [] ∨
    ∃ tasks, documents = ClockingScreens.documents z createdAt tasks userId

/-- `loading` counts the calls of `loadTimeServer` that are under way. -/
structure State (z : Zone) where
  controller : Option (Controller z) := none
  view : Option (TodayTaskView z) := none
  loading : Nat := 0

/-- The times are what the clock of the device shows, but for `loadTimeServer`, which ends with
that time only after an exception, else with the answer of the server. -/
inductive Event where
  | main
  | construct (time : Int)
  | openTodayTask (time : Int) (organizationId : Option String) (userId : String)
  | dispose
  | snapshot (tasks : Collection)
  | setSettings (res : Option SettingsModel)
  | onConnectivityChanged
  | loadTimeServer (now : Int)
  | build (time : Int)

variable {z : Zone}

def step (s : State z) : Event → Option (State z)
  | .main => some {}
  | .construct time => some { s with controller := some (s.controller.getD (.construct z time)) }
  | .openTodayTask time organizationId userId =>
    let c := s.controller.getD (.construct z time)
    some { s with
      controller := some (c.openTodayTask organizationId)
      view := some { createdAt := time, userId, fetched := Or.inl rfl } }
  | .dispose => some { s with view := none }
  | .snapshot tasks => do
    let v ← s.view
    some { s with view := some { v with
      documents := ClockingScreens.documents z v.createdAt tasks v.userId
      fetched := Or.inr ⟨tasks, rfl⟩ } }
  | .setSettings res => do
    let c ← s.controller
    some { s with controller := some (c.setSettings res) }
  -- the list of results never equals `ConnectivityResult.none`
  | .onConnectivityChanged => do
    let _ ← s.controller
    some { s with loading := s.loading + 1 }
  | .loadTimeServer now => do
    let c ← s.controller
    if s.loading = 0 then none
    else some { s with controller := some (c.loadTimeServer now), loading := s.loading - 1 }
  | .build _ => do
    let _ ← s.controller
    let _ ← s.view
    some s

/-- A task that is shown is one of today at the time, and it has the clock-out button iff the rule
of the page gives it one at the time. -/
def TrueAt (z : Zone) (settingsModel : Option SettingsModel) (time : Int) (item : TaskModel)
    (button : Button) : Prop :=
  ∃ startDate finishDate, item.startDate = some startDate ∧ item.finishDate = some finishDate ∧
    OfToday z time item startDate finishDate ∧
    (button = .clockOut ↔
      floatingActionButton z settingsModel time item finishDate = .clockOut)

/-- What is built is true at the time of the build. -/
def FollowsClock (s : State z) (e : Event) : Prop :=
  ∀ time, e = .build time → ∀ c v, s.controller = some c → s.view = some v → ∀ item button,
    ClockingScreens.build z c.settingsModel c.now v.documents = .task item button →
      TrueAt z c.settingsModel time item button

/-- A document with its planned times which the loop goes past. -/
def LeftOut (z : Zone) (now : Int) (doc : String × Doc) : Prop :=
  ∃ item startDate finishDate, Dated doc item startDate finishDate ∧
    (OfToday z now item startDate finishDate → Skipped item)

/-- The first task of today at the time of the controller. -/
structure First (z : Zone) (now : Int) (documents : List (String × Doc)) (item : TaskModel)
    (startDate finishDate : Int) : Prop where
  dated : ∃ before doc after, documents = before ++ doc :: after ∧
    (∀ x ∈ before, LeftOut z now x) ∧ Dated doc item startDate finishDate
  today : OfToday z now item startDate finishDate
  shown : ¬ Skipped item

/-- The first task of today at the time of the controller is still one at the time of the build,
and if it is under way, its finish is as near at one time as at the other. -/
def ClockHolds (s : State z) (e : Event) : Prop :=
  ∀ time, e = .build time → ∀ c v, s.controller = some c → s.view = some v →
    ∀ item startDate finishDate, First z c.now v.documents item startDate finishDate →
      OfToday z time item startDate finishDate ∧
      (item.status = some TaskStatus.start →
        (NearFinish z c.settingsModel c.now finishDate ↔
          NearFinish z c.settingsModel time finishDate))

theorem visit_eq_none_iff_leftOut {settingsModel : Option SettingsModel} {now : Int}
    {doc : String × Doc} : visit z settingsModel now doc = none ↔ LeftOut z now doc := by
  constructor
  · intro hv
    rcases visit_cases z settingsModel now doc with ⟨item, startDate, finishDate, dated⟩ | hfails
    · refine ⟨item, startDate, finishDate, dated, fun today => ?_⟩
      rw [visit_of_dated dated] at hv
      by_contra shown
      rw [if_pos ⟨today, shown⟩] at hv
      cases hv
    · cases hv.symm.trans hfails
  · rintro ⟨item, startDate, finishDate, dated, hleft⟩
    rw [visit_of_dated dated, if_neg fun h => h.2 (hleft h.1)]

/-- What is shown is the first task of today. -/
theorem build_eq_task_iff_first {settingsModel : Option SettingsModel} {now : Int}
    {documents : List (String × Doc)} {item : TaskModel} {button : Button} :
    ClockingScreens.build z settingsModel now documents = .task item button ↔
      ∃ startDate finishDate, First z now documents item startDate finishDate ∧
        button = floatingActionButton z settingsModel now item finishDate := by
  rw [build_eq_task_iff, List.findSome?_eq_some_iff]
  constructor
  · rintro ⟨before, doc, after, hsplit, hv, hbefore⟩
    obtain ⟨startDate, finishDate, dated, today, shown, hbutton⟩ := visit_eq_task hv
    refine ⟨startDate, finishDate, ⟨⟨before, doc, after, hsplit, ?_, dated⟩, today, shown⟩, hbutton⟩
    exact fun x hx => visit_eq_none_iff_leftOut.mp (hbefore x hx)
  · rintro ⟨startDate, finishDate, ⟨⟨before, doc, after, hsplit, hleft, dated⟩, today, shown⟩, rfl⟩
    refine ⟨before, doc, after, hsplit, ?_, fun x hx => visit_eq_none_iff_leftOut.mpr (hleft x hx)⟩
    rw [visit_of_dated dated, if_pos ⟨today, shown⟩]

theorem floatingActionButton_eq_clockOut_iff {settingsModel : Option SettingsModel} {now : Int}
    {item : TaskModel} {finishDate : Int} :
    floatingActionButton z settingsModel now item finishDate = .clockOut ↔
      item.status = some TaskStatus.start ∧ NearFinish z settingsModel now finishDate := by
  by_cases started : item.status = some TaskStatus.start
  · rw [floatingActionButton_of_start z settingsModel now started]
    by_cases near : NearFinish z settingsModel now finishDate
    · rw [if_pos near]
      exact iff_of_true rfl ⟨started, near⟩
    · rw [if_neg near]
      refine iff_of_false ?_ fun h => near h.2
      intro h
      cases h
  · refine iff_of_false ?_ fun h => started h.1
    rw [floatingActionButton]
    split
    · intro h
      cases h
    · rw [if_neg fun h => started h.1]
      intro h
      cases h

/-- A task shown for one time is true at another. -/
theorem trueAt_iff {settingsModel : Option SettingsModel} {now time : Int} {item : TaskModel}
    {startDate finishDate : Int} (hstart : item.startDate = some startDate)
    (hfinish : item.finishDate = some finishDate) :
    TrueAt z settingsModel time item (floatingActionButton z settingsModel now item finishDate) ↔
      OfToday z time item startDate finishDate ∧
      (item.status = some TaskStatus.start →
        (NearFinish z settingsModel now finishDate ↔
          NearFinish z settingsModel time finishDate)) := by
  simp only [TrueAt, hstart, hfinish, Option.some.injEq, exists_and_left, exists_eq_left',
    floatingActionButton_eq_clockOut_iff, and_congr_right_iff]

theorem First.dates {now : Int} {documents : List (String × Doc)} {item : TaskModel}
    {startDate finishDate : Int} (h : First z now documents item startDate finishDate) :
    item.startDate = some startDate ∧ item.finishDate = some finishDate := by
  obtain ⟨before, doc, after, -, -, dated⟩ := h.dated
  exact ⟨dated.startDate, dated.finishDate⟩

theorem followsClock_iff (s : State z) (e : Event) : FollowsClock s e ↔ ClockHolds s e := by
  constructor
  · intro h time he c v hc hv item startDate finishDate first
    obtain ⟨hstart, hfinish⟩ := first.dates
    have built := h time he c v hc hv item _
      (build_eq_task_iff_first.mpr ⟨startDate, finishDate, first, rfl⟩)
    exact (trueAt_iff hstart hfinish).mp built
  · intro h time he c v hc hv item button hbuild
    obtain ⟨startDate, finishDate, first, rfl⟩ := build_eq_task_iff_first.mp hbuild
    obtain ⟨hstart, hfinish⟩ := first.dates
    exact (trueAt_iff hstart hfinish).mpr (h time he c v hc hv item startDate finishDate first)

/-- Half an hour before the end of the shift. -/
def halfPastFour : Int := nine + 7 * hourMicros + hourMicros / 2

/-- The shift of the worker, under way. -/
def startedShift : Collection := ⟨[dayShift TaskStatus.start], by decide⟩

/-- The page is opened in the morning, and in the afternoon it still has no clock-out button. -/
theorem no_clock_out_in_the_afternoon :
    ¬ ∀ (z : Zone) (es : List Event), EveryStep step FollowsClock ({} : State z) es := by
  intro claim
  have run := claim bangkok [.openTodayTask nine (some "org1") "e1", .snapshot startedShift,
    .build halfPastFour]
  obtain ⟨startDate, finishDate, -, hfinish, -, offered⟩ :=
    (((run _ rfl).2 _ rfl).2 _ rfl).1 halfPastFour rfl _ _ rfl rfl
      (dayShiftModel TaskStatus.start) .shrink rfl
  have planned : finishDate = nine + 8 * hourMicros := (Option.some.inj hfinish).symm
  rw [planned] at offered
  exact absurd (offered.mpr (by decide)) (by decide)

/-- Builds happen in the minute the controller knows. -/
def Fresh (s : State z) (e : Event) : Prop :=
  ∀ time, e = .build time → ∀ c, s.controller = some c →
    z.day c.now = z.day time ∧ z.minute c.now = z.minute time

theorem Fresh.clockHolds {s : State z} {e : Event} (h : Fresh s e) : ClockHolds s e := by
  intro time he c v hc hv item startDate finishDate first
  obtain ⟨hday, hminute⟩ := h time he c hc
  have today := first.today
  rw [OfToday, hday] at today
  refine ⟨today, fun _ => ?_⟩
  rw [NearFinish, NearFinish, hminute]

theorem followsClock_of_fresh {s : State z} {es : List Event} (h : EveryStep step Fresh s es) :
    EveryStep step FollowsClock s es :=
  h.mono fun s e hfresh => (followsClock_iff s e).mpr hfresh.clockHolds

/-- The last time that a process has read, after one more event: the one at which the controller
is built, and from then on the answers of `loadTimeServer`. -/
def lastRead : Option Int → Event → Option Int
  | _, .main => none
  | read, .construct time | read, .openTodayTask time _ _ => some (read.getD time)
  | read, .loadTimeServer now => read.map fun _ => now
  | read, .dispose | read, .snapshot _ | read, .setSettings _ | read, .onConnectivityChanged
  | read, .build _ => read

/-- The page is only built in the day and the minute of the time that was read last. -/
def InTime (z : Zone) : Option Int → List Event → Prop
  | _, [] => True
  | read, e :: es =>
    (∀ time now, e = .build time → read = some now →
      z.day now = z.day time ∧ z.minute now = z.minute time) ∧ InTime z (lastRead read e) es

/-- The clock of the controller is the last time that was read. -/
theorem lastRead_step {s t : State z} {e : Event} (hstep : step s e = some t) :
    t.controller.map (·.now) = lastRead (s.controller.map (·.now)) e := by
  cases e with
  | main =>
    cases hstep
    rfl
  | construct time =>
    cases hstep
    cases s.controller with
    | none | some c => rfl
  | openTodayTask time organizationId userId =>
    cases hstep
    cases s.controller with
    | none | some c => rfl
  | dispose =>
    cases hstep
    rfl
  | snapshot tasks =>
    obtain ⟨v, -, hstep⟩ := Option.bind_eq_some_iff.mp hstep
    cases hstep
    rfl
  | setSettings res =>
    obtain ⟨c, hc, hstep⟩ := Option.bind_eq_some_iff.mp hstep
    cases hstep
    rw [hc]
    rfl
  | onConnectivityChanged =>
    obtain ⟨c, -, hstep⟩ := Option.bind_eq_some_iff.mp hstep
    cases hstep
    rfl
  | loadTimeServer now =>
    obtain ⟨c, hc, hstep⟩ := Option.bind_eq_some_iff.mp hstep
    obtain ⟨-, hstep⟩ := Option.ite_none_left_eq_some.mp hstep
    cases hstep
    rw [hc]
    rfl
  | build time =>
    obtain ⟨c, -, hstep⟩ := Option.bind_eq_some_iff.mp hstep
    obtain ⟨v, -, hstep⟩ := Option.bind_eq_some_iff.mp hstep
    cases hstep
    rfl

theorem fresh_of_inTime {s : State z} {es : List Event}
    (h : InTime z (s.controller.map (·.now)) es) : EveryStep step Fresh s es := by
  induction es generalizing s with
  | nil => trivial
  | cons e es ih =>
    intro t ht
    refine ⟨fun time he c hc => ?_, ih ?_⟩
    · exact h.1 time c.now he (by rw [hc]; rfl)
    · rw [lastRead_step ht]
      exact h.2

/-- In every run in which the page is built no later than in the minute of the time that was read
last, it follows the clock. -/
theorem followsClock_of_inTime {es : List Event} (h : InTime z none es) :
    EveryStep step FollowsClock ({} : State z) es :=
  followsClock_of_fresh (fresh_of_inTime h)

/-- The page is built in the morning, and after an answer of the time server again when the shift
comes to its end. -/
theorem followsClock_of_inTime_shift :
    EveryStep step FollowsClock ({} : State bangkok)
      [.openTodayTask nine (some "org1") "e1", .snapshot startedShift, .build nine,
        .onConnectivityChanged, .loadTimeServer halfPastFour, .build (halfPastFour + 1000000)] := by
  apply followsClock_of_inTime
  refine ⟨nofun, nofun, ?_, nofun, nofun, ?_, trivial⟩
  · rintro _ _ ⟨⟩ ⟨⟩
    exact ⟨rfl, rfl⟩
  · rintro _ _ ⟨⟩ ⟨⟩
    exact ⟨by decide, by decide⟩

/-- The controller stands at a time, and no answer of the time server is awaited. -/
def StandsAt (now : Int) (s : State z) : Prop :=
  s.loading = 0 ∧ ∃ c, s.controller = some c ∧ c.now = now

theorem standsAt_step {s t : State z} {e : Event} {now : Int} (h : StandsAt now s)
    (hmain : e ≠ .main) (hconnectivity : e ≠ .onConnectivityChanged) (hstep : step s e = some t) :
    StandsAt now t := by
  obtain ⟨hload, c, hc, hnow⟩ := h
  cases e with
  | main => exact absurd rfl hmain
  | construct time =>
    cases hstep
    refine ⟨hload, c, ?_, hnow⟩
    rw [hc]
    rfl
  | openTodayTask time organizationId userId =>
    cases hstep
    refine ⟨hload, _, rfl, ?_⟩
    rw [hc]
    exact hnow
  | dispose =>
    cases hstep
    exact ⟨hload, c, hc, hnow⟩
  | snapshot tasks =>
    obtain ⟨v, -, ht⟩ := Option.bind_eq_some_iff.mp hstep
    cases ht
    exact ⟨hload, c, hc, hnow⟩
  | setSettings res =>
    obtain ⟨c', hc', ht⟩ := Option.bind_eq_some_iff.mp hstep
    cases ht
    cases hc.symm.trans hc'
    exact ⟨hload, _, rfl, hnow⟩
  | onConnectivityChanged => exact absurd rfl hconnectivity
  | loadTimeServer time =>
    obtain ⟨c', -, ht⟩ := Option.bind_eq_some_iff.mp hstep
    rw [if_pos hload] at ht
    cases ht
  | build time =>
    obtain ⟨c', -, hstep⟩ := Option.bind_eq_some_iff.mp hstep
    obtain ⟨v, -, ht⟩ := Option.bind_eq_some_iff.mp hstep
    cases ht
    exact ⟨hload, c, hc, hnow⟩

/-- Until the connectivity changes the controller stands still, over every run of the process. -/
theorem standsAt_run {s t : State z} {es : List Event} {now : Int} (h : StandsAt now s)
    (hes : ∀ e ∈ es, e ≠ .main ∧ e ≠ .onConnectivityChanged) (hrun : run step s es = some t) :
    StandsAt now t := by
  induction es generalizing s with
  | nil =>
    cases hrun
    exact h
  | cons e es ih =>
    obtain ⟨hhead, htail⟩ := List.forall_mem_cons.mp hes
    obtain ⟨u, hu, hrun⟩ := Option.bind_eq_some_iff.mp hrun
    exact ih (standsAt_step h hhead.1 hhead.2 hu) htail hrun

end ScreenClock
