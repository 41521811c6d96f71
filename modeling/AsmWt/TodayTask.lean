import AsmWt.ClockProcess
import AsmWt.ClockingScreens
import AsmWt.StatusReport

/-!
# The controller of the page of today

`TodayTaskController` is built once in a process and used by the page of today
and by the detail page. Its clock is read when it is built and after events of
the connectivity, its report service keeps the time of its construction, and the
id of the report document is set when the page of today is opened.
-/

namespace TodayTask

open ClockProcess WallClock ClockingScreens StatusReport

/-- The counter of a clocking that is late for its task or ahead of its end. -/
def offTimeCounter (kind : ClockEvent) (planned serverTimeNow : Int) : Option Counter :=
  if offTime kind planned serverTimeNow then
    match kind with
    | .clockIn => some .lateStart
    | .clockOut => some .earlyFinish
  else none

/-- `"${prefs.getString("organizationId")}-${con.now.year}"`. -/
def reportDocId (organizationId : Option String) (year : Int) : String :=
  organizationId.getD "null" ++ "-" ++ toString year

/-- The fields of `TodayTaskController`; `dateNow` is the one of its report service. `opened` is
what the page of today found when it was opened last: the stored organization and `now`. That page
also provides the geofencing service. -/
structure Controller (z : Zone) where
  now : Int
  dateNow : Int
  settingsModel : Option SettingsModel := none
  opened : Option (Option String × Int) := none
  taskStatusReportDocId : Option String := none
  named : taskStatusReportDocId = opened.map fun o => reportDocId o.1 (z.year o.2)

namespace Controller
variable {z : Zone}

/-- Building the controller at the time of the device. -/
def construct (z : Zone) (time : Int) : Controller z :=
  { now := time, dateNow := time, named := rfl }

/-- `loadTimeServer` with the answer, or with the time of the device after an exception. -/
def loadTimeServer (c : Controller z) (serverTime : Int) : Controller z :=
  { c with now := serverTime }

/-- `_TodayTaskViewState.initState`. -/
def openTodayTask (c : Controller z) (organizationId : Option String) : Controller z :=
  { c with
    opened := some (organizationId, c.now)
    taskStatusReportDocId := some (reportDocId organizationId (z.year c.now))
    named := rfl }

/-- The reply `loadSettingDb` waits for. -/
def setSettings (c : Controller z) (res : Option SettingsModel) : Controller z :=
  { c with settingsModel := res }

def taskStatusReportService (c : Controller z) : TaskStatusReportService :=
  ⟨z.month c.dateNow, z.month_range c.dateNow⟩

/-- The document and the field path of a counter call; `none` where the service refuses it. -/
def counted (c : Controller z) (counter : Counter) : Option (String × String) :=
  c.taskStatusReportDocId.bind fun id =>
    if id = "" then none
    else some (id, getMonthAbbreviation c.taskStatusReportService.month ++ "." ++ counter.field)

/-- A counter call that is accepted increments exactly that path of that document. -/
theorem increase_of_counted {c : Controller z} {counter : Counter} {id key : String}
    (h : c.counted counter = some (id, key)) (reports : Reports) :
    (counter.increase c.taskStatusReportService c.taskStatusReportDocId true reports).2 =
      (updateData reports id [(key, increment 1)]).getD reports := by
  obtain ⟨id', hid, h⟩ := Option.bind_eq_some_iff.mp h
  split at h
  · cases h
  · case isFalse hne =>
    cases h
    obtain ⟨failed, increase⟩ := counter.increase_eq
    simp only [increase, increaseTaskByDocID, hid, if_neg hne, if_true]
    cases updateData reports id _ with
    | none => rfl
    | some after => rfl

end Controller

theorem dash_not_mem_year (year : Nat) : '-' ∉ (toString (year : Int)).toList := by
  intro h
  have digit : ('-').isDigit = true :=
    Nat.isDigit_of_mem_toDigits (by decide) (by decide) (Nat.toList_repr ▸ h)
  exact absurd digit (by decide)

theorem toString_year_inj {y y' : Nat} (h : toString (y : Int) = toString (y' : Int)) : y = y' := by
  have digits : Nat.toDigits 10 y = Nat.toDigits 10 y' := by
    rw [← Nat.toList_repr, ← Nat.toList_repr]
    exact congrArg String.toList h
  rw [← Nat.ofDigitChars_ten_toDigits (n := y), digits, Nat.ofDigitChars_ten_toDigits]

/-- The last dash of a list splits it in one way only. -/
theorem append_dash_inj {front front' back back' : List Char} (hback : '-' ∉ back)
    (hback' : '-' ∉ back') (h : front ++ '-' :: back = front' ++ '-' :: back') :
    front = front' ∧ back = back' := by
  have flush {xs ys zs : List Char} (hxs : '-' ∉ xs) (hxy : '-' :: xs = zs ++ '-' :: ys) :
      zs = [] := by
    cases zs with
    | nil => rfl
    | cons c zs =>
      refine absurd ?_ hxs
      rw [(List.cons.inj hxy).2]
      exact List.mem_append_right _ List.mem_cons_self
  rcases List.append_eq_append_iff.mp h with ⟨zs, rfl, hxy⟩ | ⟨zs, rfl, hxy⟩
  · cases flush hback hxy
    exact ⟨(List.append_nil _).symm, (List.cons.inj hxy).2⟩
  · cases flush hback' hxy
    exact ⟨List.append_nil _, (List.cons.inj hxy).2.symm⟩

/-- The name of a report of a year from 0 on gives away its organization and its year. -/
theorem reportDocId_inj {o o' : Option String} {y y' : Nat} :
    reportDocId o y = reportDocId o' y' ↔ o.getD "null" = o'.getD "null" ∧ y = y' := by
  constructor
  · intro h
    have hlist := congrArg String.toList h
    rw [reportDocId, reportDocId, String.append_assoc, String.append_assoc] at hlist
    simp only [String.toList_append] at hlist
    obtain ⟨ho, hy⟩ := append_dash_inj (dash_not_mem_year y) (dash_not_mem_year y') hlist
    exact ⟨String.toList_injective ho, toString_year_inj (String.toList_injective hy)⟩
  · rintro ⟨ho, rfl⟩
    rw [reportDocId, reportDocId, ho]

theorem reportDocId_ne_empty (organizationId : Option String) (year : Int) :
    reportDocId organizationId year ≠ "" := by
  intro h
  have := congrArg String.length h
  simp [reportDocId, String.length_append] at this

/-- Where a counter call goes, by the last opening of the page and the construction. -/
theorem Controller.counted_eq {z : Zone} (c : Controller z) (counter : Counter) :
    c.counted counter = c.opened.map fun o => (reportDocId o.1 (z.year o.2),
      getMonthAbbreviation (z.month c.dateNow) ++ "." ++ counter.field) := by
  rw [counted, c.named]
  cases c.opened with
  | none => rfl
  | some o => exact if_neg (reportDocId_ne_empty o.1 (z.year o.2))

end TodayTask
