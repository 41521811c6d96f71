import AsmWt.Employees
import AsmWt.RequestedTask
import AsmWt.TaskLifecycle

/-!
# The details of a task

The widget with the details of a task reads three dates without a null check and
capitalizes two texts, which an empty text does not survive. What the pages write
back, however late, leaves a task that could be shown one that can be shown.
-/

namespace TaskDetail

open KeyedRecord Firestore TasksModel UserProfile ClockProcess Interleaving PendingCalls
open Employees (EmployeeModel)

/-- The two case mappings of a text, and the pattern `E, dd/MM/yyyy HH:mm:ss` of an instant in
milliseconds. -/
structure Texts where
  toUpperCase : String → String
  toLowerCase : String → String
  format : Int → String

/-- `capitalize`; `none` is the error of `this[0]` in an empty text. A character of two code units
is not raised, as `this[0]` is its first unit. -/
def capitalize (texts : Texts) (s : String) : Option String :=
  match s.toList with
  | [] => none
  | c :: cs =>
    let first := String.singleton c
    some ((if c.toNat < 0x10000 then texts.toUpperCase first else first) ++
      texts.toLowerCase (String.ofList cs))

/-- `?.capitalize()`. -/
def capitalizeNullable (texts : Texts) : Option String → Option (Option String)
  | none => some none
  | some s => (capitalize texts s).map some

/-- The rows: a text that is null leaves its row empty. -/
structure Details where
  name : Option String
  desc : Option String
  taskGroup : Option String
  location : Option String
  controllerName : Option String
  createDate : String
  startDate : String
  clockIn : String
  isLate : Bool
  finishDate : String
  clockOut : String
  isEarly : Bool

/-- `DateTime.fromMillisecondsSinceEpoch(t.millisecondsSinceEpoch)`, formatted. -/
def dateText (texts : Texts) (micros : Int) : String := texts.format (micros / 1000)

/-- `build` of the widget; `employeeModel` is what the reference of the task led to so far. -/
def build (texts : Texts) (m : TaskModel) (employeeModel : Option EmployeeModel)
    (languageCode : String) : Option Details := do
  let desc ← capitalizeNullable texts m.desc
  let controllerName ← capitalizeNullable texts m.controllerName
  let createDate ← m.createDate
  let startDate ← m.startDate
  let finishDate ← m.finishDate
  return {
    name := m.name
    desc
    taskGroup := m.taskGroup.map texts.toUpperCase
    location := employeeModel.bind fun e => if languageCode = "en" then e.site_en else e.site_th
    controllerName
    createDate := dateText texts createDate
    startDate := dateText texts startDate
    clockIn := (m.driverStartAt.map (dateText texts)).getD "NONE"
    isLate := m.clockInStatus = some ClockStatus.late
    finishDate := dateText texts finishDate
    clockOut := (m.driverFinishAt.map (dateText texts)).getD "NONE"
    isEarly := m.clockOutStatus = some ClockStatus.early }

/-- The details are shown in every language. -/
def Shown (m : TaskModel) : Prop :=
  ∀ texts employeeModel languageCode, (build texts m employeeModel languageCode).isSome

/-- The document is read as a task whose details are shown. -/
def Shows (taskId : String) (d : Doc) : Prop :=
  ∃ m, fromDocumentSnapshot taskId d = some m ∧ Shown m

theorem capitalizeNullable_isSome_iff {texts : Texts} {s : Option String} :
    (capitalizeNullable texts s).isSome ↔ s ≠ some "" := by
  cases s with
  | none => simp [capitalizeNullable]
  | some s =>
    rw [capitalizeNullable, Option.isSome_map, capitalize, ne_eq, Option.some.injEq,
      ← String.toList_inj]
    cases s.toList <;> simp

theorem shown_iff {m : TaskModel} :
    Shown m ↔ m.desc ≠ some "" ∧ m.controllerName ≠ some "" ∧ m.createDate.isSome ∧
      m.startDate.isSome ∧ m.finishDate.isSome := by
  have built (texts : Texts) (employeeModel : Option EmployeeModel) (languageCode : String) :
      (build texts m employeeModel languageCode).isSome ↔
        (capitalizeNullable texts m.desc).isSome ∧
          (capitalizeNullable texts m.controllerName).isSome ∧ m.createDate.isSome ∧
            m.startDate.isSome ∧ m.finishDate.isSome := by
    rw [build]
    cases capitalizeNullable texts m.desc <;> cases capitalizeNullable texts m.controllerName <;>
      cases m.createDate <;> cases m.startDate <;> cases m.finishDate <;> simp
  simp only [Shown, built, capitalizeNullable_isSome_iff]
  exact ⟨fun h => h ⟨id, id, fun _ => ""⟩ none "", fun h _ _ _ => h⟩

section Document

variable {taskId : String} {d : Doc} {m n : TaskModel}

/-- What is read after `n` was written over the task `m`. -/
def rewritten (m n : TaskModel) : TaskModel :=
  { n with
    taskId := m.taskId
    locationName := some "Suvarnabhumi Airport"
    createDate := m.createDate
    employeeModelRefData := n.employeeModelRefData.or m.employeeModelRefData
    clockInAreaEn := none
    clockInAreaTh := none
    clockOutAreaEn := none
    clockOutAreaTh := none }

/-- Beside the task a clock write stamps the profile only. -/
theorem not_mem_modelData {k : String} (hjson : k ∉ keys (toJson n (some false)))
    (hprofile : k ∉ profileKeys) (kind : ClockEvent) (userModel : Option UserModel) :
    k ∉ keys (modelData kind n userModel) := by
  cases kind with
  | clockIn =>
    rw [modelData, clockInData, keys_append, keys_profileFields, List.mem_append, not_or]
    exact ⟨hjson, hprofile⟩
  | clockOut => exact hjson

theorem createdAt_not_mem (n : TaskModel) : "created_at" ∉ keys (toJson n (some false)) := by
  simp only [toJson, keys_append, List.mem_append, not_or]
  refine ⟨⟨⟨⟨⟨⟨⟨⟨by simp [keys], RequestedTask.optional_not_mem (by decide) _⟩,
    RequestedTask.optional_not_mem (by decide) _⟩, RequestedTask.optional_not_mem (by decide) _⟩,
    RequestedTask.optional_not_mem (by decide) _⟩, by simp [keys]⟩, ?_⟩, by simp [keys]⟩,
    RequestedTask.optional_not_mem (by decide) _⟩
  simp [keys, Firestore.optional]

/-- A clock write leaves of the document the time it was created and at most its reference. -/
theorem decodes_modelData (h : Decodes taskId d m) (kind : ClockEvent) (n : TaskModel)
    (userModel : Option UserModel) :
    Decodes taskId (update d (modelData kind n userModel)) (rewritten m n) := by
  have sent {k : String} {w : Value} (hmem : (k, w) ∈ toJson n (some false)) :
      update d (modelData kind n userModel) k = w := update_modelData hmem userModel d
  constructor
  case taskId => exact h.taskId
  case createDate =>
    have unsent := not_mem_modelData (createdAt_not_mem n) (by decide) kind userModel
    exact (update_of_not_mem unsent).trans h.createDate
  case employeeModelRefData =>
    change _ = Codec.reference.encode (n.employeeModelRefData.or m.employeeModelRefData)
    cases hr : n.employeeModelRefData with
    | none =>
      have json := RequestedTask.employeeRef_not_mem hr (some false)
      have unsent := not_mem_modelData json (by decide) kind userModel
      exact (update_of_not_mem unsent).trans h.employeeModelRefData
    | some path =>
      apply sent (w := .reference path)
      simp [toJson, hr, Firestore.optional]
  case clockInAreaEn => rfl
  case clockInAreaTh => rfl
  case clockOutAreaEn => rfl
  case clockOutAreaTh => rfl
  all_goals exact sent (by simp [toJson, rewritten])

/-- A write that has of a task's fields the status at most. -/
theorem decodes_status (h : Decodes taskId d m) {p : Payload} {status : String}
    (hstatus : update d p "status" = .str status)
    (hkeys : ∀ k ∈ jsonKeys, k ≠ "status" → k ∉ keys p) :
    Decodes taskId (update d p) { m with status := some status } := by
  have same {k : String} {w : Value} (hw : d k = w) (hk : k ∈ jsonKeys) (hne : k ≠ "status") :
      update d p k = w := (update_of_not_mem (hkeys k hk hne)).trans hw
  constructor
  case taskId => exact h.taskId
  case status => exact hstatus
  case clockInAreaEn => exact h.clockInAreaEn
  case clockInAreaTh => exact h.clockInAreaTh
  case clockOutAreaEn => exact h.clockOutAreaEn
  case clockOutAreaTh => exact h.clockOutAreaTh
  case location => exact same h.location (by decide) (by decide)
  case clockInLocation => exact same h.clockInLocation (by decide) (by decide)
  case clockOutLocation => exact same h.clockOutLocation (by decide) (by decide)
  case userId => exact same h.userId (by decide) (by decide)
  case name => exact same h.name (by decide) (by decide)
  case desc => exact same h.desc (by decide) (by decide)
  case driverStartAt => exact same h.driverStartAt (by decide) (by decide)
  case driverFinishAt => exact same h.driverFinishAt (by decide) (by decide)
  case startDate => exact same h.startDate (by decide) (by decide)
  case finishDate => exact same h.finishDate (by decide) (by decide)
  case controllerId => exact same h.controllerId (by decide) (by decide)
  case controllerName => exact same h.controllerName (by decide) (by decide)
  case isDisable => exact same h.isDisable (by decide) (by decide)
  case clockInStatus => exact same h.clockInStatus (by decide) (by decide)
  case clockOutStatus => exact same h.clockOutStatus (by decide) (by decide)
  case clockOutCommand => exact same h.clockOutCommand (by decide) (by decide)
  case clockInCommand => exact same h.clockInCommand (by decide) (by decide)
  case type => exact same h.type (by decide) (by decide)
  case taskGroup => exact same h.taskGroup (by decide) (by decide)
  case locationName => exact same h.locationName (by decide) (by decide)
  case employeeModelRefData => exact same h.employeeModelRefData (by decide) (by decide)
  case skipReason => exact same h.skipReason (by decide) (by decide)
  case createDate => exact same h.createDate (by decide) (by decide)

theorem shows_of_decodes (h : Decodes taskId d m) (hm : Shown m) : Shows taskId d :=
  ⟨m, fromDocumentSnapshot_of_decodes h, hm⟩

theorem shown_rewritten (hm : Shown m) (hn : Shown n) : Shown (rewritten m n) := by
  obtain ⟨-, -, created, -⟩ := shown_iff.mp hm
  obtain ⟨desc, name, -, start, finish⟩ := shown_iff.mp hn
  exact shown_iff.mpr ⟨desc, name, created, start, finish⟩

/-- An operation does not touch what the details need. -/
theorem shown_clockModel {kind : ClockEvent} {c : Confirmation} (hm : Shown m)
    (h : clockModel kind m c = some n) : Shown n := by
  have needs := shown_iff.mp hm
  apply shown_iff.mpr
  cases kind with
  | clockIn =>
    obtain ⟨startDate, -, rfl⟩ := clockInProcess_eq_some h
    exact needs
  | clockOut =>
    obtain ⟨finishDate, -, rfl⟩ := clockOutProcess_eq_some h
    exact needs

theorem shows_acceptData (h : Shows taskId d) (userModel : Option UserModel) :
    Shows taskId (update d (acceptData userModel)) := by
  obtain ⟨m, hm, hshown⟩ := h
  refine shows_of_decodes (decodes_status (fromDocumentSnapshot_eq_some hm)
    (status_update_acceptData userModel d) ?_) (shown_iff.mpr (shown_iff.mp hshown))
  change ∀ k ∈ jsonKeys, k ≠ "status" → k ∉ "status" :: profileKeys
  decide

theorem shows_controllerSets (h : Shows taskId d) (status : String) :
    Shows taskId (update d [("status", .str status)]) := by
  obtain ⟨m, hm, hshown⟩ := h
  have hstatus : update d [("status", .str status)] "status" = .str status := rfl
  refine shows_of_decodes (decodes_status (fromDocumentSnapshot_eq_some hm) hstatus ?_)
    (shown_iff.mpr (shown_iff.mp hshown))
  rintro k - hne hmem
  exact hne (List.mem_singleton.mp hmem)

theorem shows_clockData (h : Shows taskId d) (hn : Shown n) {kind : ClockEvent}
    {c : Confirmation} {data : Payload} (hdata : clockData kind n c = some data) :
    Shows taskId (update d data) := by
  obtain ⟨m, hm, hshown⟩ := h
  obtain ⟨n', hn', rfl⟩ := Option.map_eq_some_iff.mp hdata
  exact shows_of_decodes (decodes_modelData (fromDocumentSnapshot_eq_some hm) kind n' c.userModel)
    (shown_rewritten hshown (shown_clockModel hn hn'))

end Document

section Run

open TaskLifecycle

variable {taskId : String} {s t : State}

/-- The task and the models of all pages are shown. -/
structure AllShown (taskId : String) (s : State) : Prop where
  doc : ∀ d, s.doc = some d → Shows taskId d
  pages : ∀ m ∈ s.pages, Shown m

structure Inv (taskId : String) (s : State) : Prop extends AllShown taskId s where
  calls : ∀ w, .clock w ∈ s.calls → Shown w.model

theorem land_shows {c : Call} (hc : ∀ w, c = .clock w → Shown w.model)
    (h : ∀ d, s.doc = some d → Shows taskId d) (d : Doc) (hd : land s.doc c = some d) :
    Shows taskId d := by
  cases c with
  | accept userModel =>
    obtain ⟨before, hbefore, rfl⟩ := Option.map_eq_some_iff.mp hd
    exact shows_acceptData (h before hbefore) userModel
  | clock w =>
    obtain ⟨before, hbefore, rfl⟩ := Option.map_eq_some_iff.mp hd
    exact shows_clockData (h before hbefore) (hc w rfl) w.data_eq
  | delete => cases hd

theorem step_inv {e : Event} (h : Inv taskId s) (hstep : step taskId s e = some t) :
    Inv taskId t := by
  cases e with
  | read =>
    obtain ⟨d, hd, hstep⟩ := Option.bind_eq_some_iff.mp hstep
    obtain ⟨m, hm, hstep⟩ := Option.bind_eq_some_iff.mp hstep
    cases hstep
    refine ⟨⟨h.doc, fun m' hm' => ?_⟩, h.calls⟩
    rcases List.mem_append.mp hm' with hm' | hm'
    · exact h.pages m' hm'
    · obtain ⟨n, hn, hshown⟩ := h.doc d hd
      cases hm.symm.trans hn
      rw [List.mem_singleton.mp hm']
      exact hshown
  | onAcceptPressed page userModel =>
    obtain ⟨m, -, hstep⟩ := Option.bind_eq_some_iff.mp hstep
    obtain ⟨-, hstep⟩ := Option.ite_none_right_eq_some.mp hstep
    cases hstep
    exact ⟨⟨h.doc, h.pages⟩, fun w hw => h.calls w (List.mem_of_ne_of_mem (by nofun) hw)⟩
  | onClockPressed page kind =>
    obtain ⟨m, -, hstep⟩ := Option.bind_eq_some_iff.mp hstep
    obtain ⟨-, hstep⟩ := Option.ite_none_right_eq_some.mp hstep
    cases hstep
    exact ⟨⟨h.doc, h.pages⟩, h.calls⟩
  | clockProcess sheet c =>
    obtain ⟨⟨page, kind⟩, -, hstep⟩ := Option.bind_eq_some_iff.mp hstep
    obtain ⟨m, hm, hstep⟩ := Option.bind_eq_some_iff.mp hstep
    obtain ⟨m', hm', hstep⟩ := Option.bind_eq_some_iff.mp hstep
    obtain ⟨w, hw, hstep⟩ := Option.bind_eq_some_iff.mp hstep
    cases hstep
    have shown : Shown m := h.pages m (List.mem_of_getElem? hm)
    refine ⟨⟨h.doc, fun n hn => ?_⟩, fun w' hw' => ?_⟩
    · rcases List.mem_or_eq_of_mem_set hn with hn | rfl
      · exact h.pages n hn
      · exact shown_clockModel shown hm'
    · rcases List.mem_cons.mp hw' with hw' | hw'
      · cases hw'
        rw [clockWrite] at hw
        split at hw
        · cases hw
        · cases hw
          exact shown
      · exact h.calls w' hw'
  | deleteTaskNotedById page =>
    obtain ⟨m, -, hstep⟩ := Option.bind_eq_some_iff.mp hstep
    obtain ⟨-, hstep⟩ := Option.ite_none_right_eq_some.mp hstep
    cases hstep
    exact ⟨⟨h.doc, h.pages⟩, fun w hw => h.calls w (List.mem_of_ne_of_mem (by nofun) hw)⟩
  | reply call ok =>
    obtain ⟨⟨c, rest⟩, htake, hstep⟩ := Option.bind_eq_some_iff.mp hstep
    cases hstep
    refine ⟨⟨fun d hd => ?_, h.pages⟩, fun w hw => h.calls w (mem_of_mem_rest htake hw)⟩
    cases ok with
    | false => exact h.doc d hd
    | true =>
      refine land_shows (fun w hw => h.calls w ?_) h.doc d hd
      rw [← hw]
      exact mem_takeOut htake
  | controllerSets status =>
    obtain ⟨-, hstep⟩ := Option.ite_none_right_eq_some.mp hstep
    cases hstep
    refine ⟨⟨fun d hd => ?_, h.pages⟩, h.calls⟩
    obtain ⟨before, hbefore, rfl⟩ := Option.map_eq_some_iff.mp hd
    exact shows_controllerSets (h.doc before hbefore) status

end Run

/-- A request that nothing else has written to is shown exactly if it has a text and was made under
a name: a session whose employee has none stores the empty name. -/
theorem requested_shown_iff (z : WallClock.Zone) (controller : TaskRequest.State)
    (tasks : Collection) (es : List RequestedTask.Event) :
    EveryState (RequestedTask.step z)
      (fun s => ∀ r ∈ s.requests, ∃ d, s.tasks.get? r.taskId = some d ∧
        (Shows r.taskId d ↔ r.form.command ≠ "" ∧ r.form.username ≠ some ""))
      { controller, tasks } es := by
  refine (RequestedTask.always_stored z controller tasks es).mono fun s h r hr => ?_
  refine ⟨_, h r hr, ?_⟩
  have decodes : Decodes r.taskId (RequestedTask.stored r.time (r.data z)) (r.task z) :=
    RequestedTask.decodes_data
  have needs : Shown (r.task z) ↔ r.form.command ≠ "" ∧ r.form.username ≠ some "" := by
    rw [shown_iff]
    simp [RequestedTask.Request.task, TaskRequest.requestedTask]
  rw [← needs]
  constructor
  · rintro ⟨m, hm, hshown⟩
    cases (fromDocumentSnapshot_of_decodes decodes).symm.trans hm
    exact hshown
  · exact shows_of_decodes decodes

end TaskDetail
