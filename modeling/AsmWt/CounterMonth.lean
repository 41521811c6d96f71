import AsmWt.Interleaving
import AsmWt.PendingCalls
import AsmWt.TodayTask

/-!
# The month and the year a clocking is counted in

A clocking takes its time from the time server. The document it is counted in
was named when the page of today was opened, by the clock of the controller, and
the month is the one in which the report service was built.
-/

namespace CounterMonth

open Interleaving PendingCalls ClockProcess WallClock StatusReport TodayTask

/-- What `clockInProcess` and `clockOutProcess` wait for: the time server with the planned time of
the task, the counter of an event off that time, the update of the task, and the counter of the
completed tasks. `organizationId` is the organization of the worker. -/
inductive Call where
  | ntpNow (kind : ClockEvent) (organizationId : String) (planned : Option Int)
  | increase (kind : ClockEvent) (organizationId : String) (serverTimeNow : Int)
  | updateTaskStatusByTaskId (kind : ClockEvent) (organizationId : String) (serverTimeNow : Int)
  | increaseCompletedTaskByDocID
  deriving DecidableEq

/-- The reply of the time server, or whether another call succeeded. -/
inductive Reply where
  | time (serverTimeNow : Int)
  | result (ok : Bool)
  deriving DecidableEq

/-- `organizationId` is the stored preference. -/
structure State (z : Zone) where
  organizationId : Option String := none
  controller : Option (Controller z) := none
  calls : List Call := []

/-- `main` is a start of the app and `openTodayTask` the first frame of the page of today, which
builds the controller if nothing has before. `stored` tells whether the report takes the counter
call that follows a reply. -/
inductive Event where
  | main
  | storeSession (organizationId : String)
  | clearSession
  | construct (time : Int)
  | openTodayTask (time : Int)
  | loadTimeServer (time : Int)
  | clock (kind : ClockEvent) (planned : Option Int)
  | resume (call : Nat) (reply : Reply) (stored : Bool)

/-- The call that follows a reply, if one does. -/
def next : Call → Reply → Option Call
  -- without a planned time the null check throws
  | .ntpNow kind o planned, .time s => planned.map fun planned =>
    if offTime kind planned s then .increase kind o s
    else .updateTaskStatusByTaskId kind o s
  -- the counters catch every exception
  | .increase kind o s, .result _ => some (.updateTaskStatusByTaskId kind o s)
  | .updateTaskStatusByTaskId kind _ _, .result ok =>
    if kind = .clockOut ∧ ok = true then some .increaseCompletedTaskByDocID else none
  | .ntpNow _ _ _, .result _ | .increase _ _ _, .time _
  | .updateTaskStatusByTaskId _ _ _, .time _ | .increaseCompletedTaskByDocID, _ => none

variable {z : Zone}

/-- Both pages take the geofencing service from the controller, where the page of today left it. -/
def step (s : State z) : Event → Option (State z)
  | .main => some { s with controller := none, calls := [] }
  | .storeSession organizationId => some { s with organizationId := some organizationId }
  | .clearSession => some { s with organizationId := some "" }
  | .construct time => some { s with controller := some (s.controller.getD (.construct z time)) }
  | .openTodayTask time =>
    let c := s.controller.getD (.construct z time)
    some { s with controller := some (c.openTodayTask s.organizationId) }
  | .loadTimeServer time => do
    let c ← s.controller
    some { s with controller := some (c.loadTimeServer time) }
  | .clock kind planned => do
    let c ← s.controller
    let o ← s.organizationId
    if c.opened.isSome then some { s with calls := .ntpNow kind o planned :: s.calls } else none
  | .resume call reply _ => do
    let (c, rest) ← takeOut s.calls call
    some { s with calls := (next c reply).toList ++ rest }

/-- A counter call, for a clocking of a worker of an organization at a time of the server. -/
structure Increment where
  counter : Counter
  organizationId : String
  serverTimeNow : Int
  deriving DecidableEq

/-- What is counted after a reply. -/
def counts : Call → Reply → Option Increment
  | .ntpNow kind o planned, .time s =>
    (planned.bind (offTimeCounter kind · s)).map (⟨·, o, s⟩)
  | .updateTaskStatusByTaskId kind o s, .result ok =>
    if kind = .clockOut ∧ ok = true then some ⟨.completed, o, s⟩ else none
  | .ntpNow _ _ _, .result _ | .updateTaskStatusByTaskId _ _ _, .time _
  | .increase _ _ _, _ | .increaseCompletedTaskByDocID, _ => none

/-- The increment an event causes, if the report takes it. -/
def caused (s : State z) : Event → Option Increment
  | .resume call reply stored => do
    let (c, _) ← takeOut s.calls call
    if stored then counts c reply else none
  | _ => none

namespace Increment

/-- The document and the field path of the organization, the year and the month of a clocking. -/
def place (z : Zone) (i : Increment) : String × String :=
  (reportDocId (some i.organizationId) (z.year i.serverTimeNow),
    getMonthAbbreviation (z.month i.serverTimeNow) ++ "." ++ i.counter.field)

end Increment

/-- An increment is made in the year and the month of its clocking. -/
def CountsInMonth (s : State z) (e : Event) : Prop :=
  ∀ i, caused s e = some i → ∀ c, s.controller = some c → c.counted i.counter = some (i.place z)

/-- Two instants of one month of one year. -/
def SameMonth (z : Zone) (t t' : Int) : Prop := z.year t = z.year t' ∧ z.month t = z.month t'

/-- The time server answers in the month in which the controller of the process was built, and a
clocking is pressed and counted under the organization that the page of today was opened with. -/
def Within (s : State z) : Event → Prop
  | .loadTimeServer time | .resume _ (.time time) _ =>
    ∀ c ∈ s.controller, SameMonth z c.dateNow time
  | .clock _ _ => ∀ c ∈ s.controller, ∀ opened ∈ c.opened, opened.1 = s.organizationId
  | .openTodayTask _ =>
    s.calls ≠ [] → ∀ c ∈ s.controller, ∀ opened ∈ c.opened, opened.1 = s.organizationId
  | .main | .storeSession _ | .clearSession | .construct _ | .resume _ (.result _) _ => True

/-- The clock of the controller and the opening of the page lie in the month of the controller. -/
structure ControllerWithin (c : Controller z) : Prop where
  now : SameMonth z c.dateNow c.now
  opened : ∀ o t, c.opened = some (o, t) → SameMonth z c.dateNow t

/-- The page of today is open for the worker of the organization. -/
def OpenFor (c : Controller z) (o : String) : Prop := ∃ t, c.opened = some (some o, t)

/-- A call for a clocking in the month of the controller, by a worker of the organization that the
page was opened with. -/
def CallWithin (c : Controller z) : Call → Prop
  | .ntpNow _ o _ => OpenFor c o
  | .increase _ o serverTimeNow | .updateTaskStatusByTaskId _ o serverTimeNow =>
    OpenFor c o ∧ SameMonth z c.dateNow serverTimeNow
  | .increaseCompletedTaskByDocID => True

/-- What such a run keeps. -/
structure Settled (s : State z) : Prop where
  controller : ∀ c, s.controller = some c → ControllerWithin c
  calls : ∀ d ∈ s.calls, ∃ c, s.controller = some c ∧ CallWithin c d

theorem counted_eq_place_iff (c : Controller z) (i : Increment) :
    c.counted i.counter = some (i.place z) ↔
      (∃ o t, c.opened = some (o, t) ∧
        reportDocId o (z.year t) = reportDocId (some i.organizationId) (z.year i.serverTimeNow)) ∧
      z.month c.dateNow = z.month i.serverTimeNow := by
  have month_iff : getMonthAbbreviation (z.month c.dateNow) ++ "." ++ i.counter.field =
        getMonthAbbreviation (z.month i.serverTimeNow) ++ "." ++ i.counter.field ↔
      z.month c.dateNow = z.month i.serverTimeNow := by
    rw [String.append_left_inj, String.append_left_inj]
    exact getMonthAbbreviation_inj (z.month_range _) (z.month_range _)
  rw [c.counted_eq, Increment.place, Option.map_eq_some_iff]
  constructor
  · rintro ⟨⟨o, t⟩, hopened, hplace⟩
    obtain ⟨hid, hkey⟩ := Prod.mk.inj hplace
    exact ⟨⟨o, t, hopened, hid⟩, month_iff.mp hkey⟩
  · rintro ⟨⟨o, t, hopened, hid⟩, hmonth⟩
    exact ⟨(o, t), hopened, Prod.ext hid (month_iff.mpr hmonth)⟩

/-- 09:00 in Bangkok on the last of January 2024, and on the next day. -/
def endOfJanuary : Int := 19753 * dayMicros + 2 * hourMicros
def startOfFebruary : Int := 19754 * dayMicros + 2 * hourMicros

/-- The app stays open over the end of a month, and the worker is late on the first day. -/
theorem late_start_counted_in_last_month :
    ¬ ∀ (z : Zone) (es : List Event), EveryStep step CountsInMonth ({} : State z) es := by
  intro claim
  have run := claim (.fixed (7 * hourMicros)) [.storeSession "org1", .openTodayTask endOfJanuary,
    .clock .clockIn (some (startOfFebruary - hourMicros)), .resume 0 (.time startOfFebruary) true]
  have counts := ((((run _ rfl).2 _ rfl).2 _ rfl).2 _ rfl).1 ⟨.lateStart, "org1", startOfFebruary⟩
    (by decide) _ rfl
  exact absurd counts (by decide)

section Within

variable {s t : State z} {c : Controller z}

theorem SameMonth.refl (t : Int) : SameMonth z t t := ⟨rfl, rfl⟩

theorem controllerWithin_construct (time : Int) :
    ControllerWithin (Controller.construct z time) where
  now := SameMonth.refl time
  opened := nofun

/-- The controller that is there, or the one that is built now. -/
theorem Settled.getD (h : Settled s) (time : Int) :
    ControllerWithin (s.controller.getD (.construct z time)) := by
  cases hc : s.controller with
  | none => exact controllerWithin_construct time
  | some c => exact h.controller c hc

/-- A call does not ask for more than when the controller was built and for whom it is open. -/
theorem CallWithin.congr {c' : Controller z} {d : Call} (h : CallWithin c d)
    (hdate : c'.dateNow = c.dateNow) (hopen : ∀ o, OpenFor c o → OpenFor c' o) :
    CallWithin c' d := by
  cases d with
  | ntpNow kind o planned => exact hopen o h
  | increase kind o time | updateTaskStatusByTaskId kind o time =>
    refine ⟨hopen o h.1, ?_⟩
    rw [hdate]
    exact h.2
  | increaseCompletedTaskByDocID => trivial

theorem CallWithin.next {d d' : Call} {reply : Reply} (h : CallWithin c d)
    (hreply : ∀ time, reply = .time time → SameMonth z c.dateNow time)
    (hnext : next d reply = some d') : CallWithin c d' := by
  cases d with
  | ntpNow kind o planned =>
    cases reply with
    | time time =>
      obtain ⟨planned, -, rfl⟩ := Option.map_eq_some_iff.mp hnext
      split
      · exact ⟨h, hreply time rfl⟩
      · exact ⟨h, hreply time rfl⟩
    | result ok => cases hnext
  | increase kind o time =>
    cases reply with
    | time time => cases hnext
    | result ok =>
      cases hnext
      exact h
  | updateTaskStatusByTaskId kind o time =>
    cases reply with
    | time time => cases hnext
    | result ok =>
      rw [CounterMonth.next] at hnext
      split at hnext <;> cases hnext
      trivial
  | increaseCompletedTaskByDocID => cases hnext

theorem CallWithin.counts {d : Call} {reply : Reply} {i : Increment} (h : CallWithin c d)
    (hreply : ∀ time, reply = .time time → SameMonth z c.dateNow time)
    (hcounts : counts d reply = some i) :
    OpenFor c i.organizationId ∧ SameMonth z c.dateNow i.serverTimeNow := by
  cases d with
  | ntpNow kind o planned =>
    cases reply with
    | time time =>
      obtain ⟨counter, -, rfl⟩ := Option.map_eq_some_iff.mp hcounts
      exact ⟨h, hreply time rfl⟩
    | result ok => cases hcounts
  | increase kind o time => cases hcounts
  | updateTaskStatusByTaskId kind o time =>
    cases reply with
    | time time => cases hcounts
    | result ok =>
      rw [CounterMonth.counts] at hcounts
      split at hcounts <;> cases hcounts
      exact h
  | increaseCompletedTaskByDocID => cases hcounts

/-- What a reply tells of the time. -/
theorem Within.sameMonth {call : Nat} {reply : Reply} {stored : Bool}
    (h : Within s (.resume call reply stored)) (hc : s.controller = some c) (time : Int)
    (hreply : reply = .time time) : SameMonth z c.dateNow time := by
  cases hreply
  exact h c hc

theorem Settled.openTodayTask (h : Settled s) {time : Int}
    (hwithin : Within s (.openTodayTask time)) :
    Settled { s with
      controller :=
        some ((s.controller.getD (.construct z time)).openTodayTask s.organizationId) } where
  controller c hc := by
    cases hc
    have before := h.getD time
    refine ⟨before.now, fun o t ho => ?_⟩
    cases ho
    exact before.now
  calls d hd := by
    obtain ⟨c, hc, hcall⟩ := h.calls d hd
    refine ⟨_, rfl, ?_⟩
    rw [hc]
    refine hcall.congr rfl fun o ho => ?_
    obtain ⟨t, hopened⟩ := ho
    have own : some o = s.organizationId :=
      hwithin (List.ne_nil_of_mem hd) c hc (some o, t) hopened
    refine ⟨c.now, ?_⟩
    rw [own]
    rfl

theorem settled_step {e : Event} (h : Settled s) (hwithin : Within s e)
    (hstep : step s e = some t) : Settled t := by
  cases e with
  | main =>
    cases hstep
    exact ⟨nofun, nofun⟩
  | storeSession organizationId | clearSession =>
    cases hstep
    exact ⟨h.controller, h.calls⟩
  | construct time =>
    cases hstep
    refine ⟨fun c hc => ?_, fun d hd => ?_⟩
    · cases hc
      exact h.getD time
    · obtain ⟨c, hc, hcall⟩ := h.calls d hd
      refine ⟨c, ?_, hcall⟩
      rw [hc]
      rfl
  | openTodayTask time =>
    cases hstep
    exact h.openTodayTask hwithin
  | loadTimeServer time =>
    obtain ⟨c, hc, hstep⟩ := Option.bind_eq_some_iff.mp hstep
    cases hstep
    refine ⟨fun c' hc' => ?_, fun d hd => ?_⟩
    · cases hc'
      exact ⟨hwithin c hc, (h.controller c hc).opened⟩
    · obtain ⟨c', hc', hcall⟩ := h.calls d hd
      cases hc.symm.trans hc'
      exact ⟨_, rfl, hcall.congr rfl fun _ ho => ho⟩
  | clock kind planned =>
    obtain ⟨c, hc, hstep⟩ := Option.bind_eq_some_iff.mp hstep
    obtain ⟨o, ho, hstep⟩ := Option.bind_eq_some_iff.mp hstep
    obtain ⟨hopened, hstep⟩ := Option.ite_none_right_eq_some.mp hstep
    cases hstep
    refine ⟨h.controller, List.forall_mem_cons.mpr ⟨⟨c, hc, ?_⟩, h.calls⟩⟩
    obtain ⟨⟨o', t⟩, hopened⟩ := Option.isSome_iff_exists.mp hopened
    have own : o' = some o := (hwithin c hc _ hopened).trans ho
    exact ⟨t, own ▸ hopened⟩
  | resume call reply stored =>
    obtain ⟨⟨d, rest⟩, htake, hstep⟩ := Option.bind_eq_some_iff.mp hstep
    cases hstep
    refine ⟨h.controller, fun d' hd' => ?_⟩
    rcases List.mem_append.mp hd' with hnew | hold
    · obtain ⟨c, hc, hcall⟩ := h.calls d (mem_takeOut htake)
      exact ⟨c, hc, hcall.next (hwithin.sameMonth hc) (Option.mem_toList.mp hnew)⟩
    · exact h.calls d' (mem_of_mem_rest htake hold)

theorem Settled.countsInMonth {e : Event} (h : Settled s) (hwithin : Within s e) :
    CountsInMonth s e := by
  intro i hi c hc
  cases e with
  | resume call reply stored =>
    obtain ⟨⟨d, rest⟩, htake, hd⟩ := Option.bind_eq_some_iff.mp hi
    obtain ⟨-, hd⟩ := Option.ite_none_right_eq_some.mp hd
    obtain ⟨c', hc', hcall⟩ := h.calls d (mem_takeOut htake)
    cases hc.symm.trans hc'
    obtain ⟨⟨t, hopened⟩, hyear, hmonth⟩ := hcall.counts (hwithin.sameMonth hc) hd
    have year : z.year t = z.year i.serverTimeNow :=
      ((h.controller c hc).opened _ t hopened).1.symm.trans hyear
    refine (counted_eq_place_iff c i).mpr ⟨⟨_, t, hopened, ?_⟩, hmonth⟩
    rw [year]
  | _ => cases hi

/-- The three clocks agree in every run whose processes each stay in a month of their own, and
whose clockings stay with the organization of the page of today. -/
theorem countsInMonth_of_within {es : List Event}
    (h : EveryStep step Within ({} : State z) es) :
    EveryStep step CountsInMonth ({} : State z) es :=
  everyStep_of_everyStep (fun _ _ _ hs hwithin hstep => settled_step hs hwithin hstep)
    (fun _ _ _ hs hwithin _ => hs.countsInMonth hwithin) ⟨nofun, nofun⟩ h

instance (t t' : Int) : Decidable (SameMonth z t t') := inferInstanceAs (Decidable (_ ∧ _))

instance (s : State z) : ∀ e, Decidable (Within s e)
  | .loadTimeServer time | .resume _ (.time time) _ =>
    inferInstanceAs (Decidable (∀ c ∈ s.controller, SameMonth z c.dateNow time))
  | .clock _ _ => inferInstanceAs
    (Decidable (∀ c ∈ s.controller, ∀ opened ∈ c.opened, opened.1 = s.organizationId))
  | .openTodayTask _ => inferInstanceAs (Decidable
    (s.calls ≠ [] → ∀ c ∈ s.controller, ∀ opened ∈ c.opened, opened.1 = s.organizationId))
  | .main | .storeSession _ | .clearSession | .construct _ | .resume _ (.result _) _ =>
    isTrue trivial

/-- A late clock-in on the last of January; the app is started again on the next day, and the
worker is late again. -/
def lateTwice : List Event :=
  [.storeSession "org1", .openTodayTask endOfJanuary,
    .clock .clockIn (some (endOfJanuary - hourMicros)), .resume 0 (.time endOfJanuary) true,
    .resume 0 (.result true) true, .resume 0 (.result true) true, .main,
    .openTodayTask startOfFebruary, .clock .clockIn (some (startOfFebruary - hourMicros)),
    .resume 0 (.time startOfFebruary) true]

theorem countsInMonth_of_within_lateTwice :
    EveryStep step CountsInMonth ({} : State (.fixed (7 * hourMicros))) lateTwice :=
  countsInMonth_of_within (by decide +kernel)

end Within

end CounterMonth
