import AsmWt.Interleaving
import AsmWt.PendingCalls
import AsmWt.ClockProcess

/-!
# The location evidence of a clock operation

The position goes into the task object of the page when the confirm button of
the sheet has its reply. The area names are collected in two lists of one
`GeoFencingService`, which every press and every check replaces and every reply
extends. The process lets the task object refer to the lists of the moment, and
their contents are only read when the write is put together.
-/

namespace LocationEvidence

open KeyedRecord Firestore TasksModel UserProfile ClockProcess Interleaving PendingCalls

/-- The names of an area, as strings or as they come in a reply. -/
structure AreaModel (Str : Type) where
  name_en : Option Str := none
  name_th : Option Str := none
  deriving DecidableEq

inductive Language where
  | en
  | th
  deriving DecidableEq

/-- `areaModel.name_en ?? ''` or `areaModel.name_th ?? ''` of each area. -/
def areaNames (areas : List (AreaModel String)) : Language → List String
  | .en => areas.map fun area => area.name_en.getD ""
  | .th => areas.map fun area => area.name_th.getD ""

/-- A press of the confirm button of a sheet, on the task object of the sheet. -/
structure Press where
  kind : ClockEvent
  object : Nat
  command : Option String
  deriving DecidableEq

/-- A press with the position the device reported and the areas the server returned for it. -/
structure Operation where
  press : Press
  position : Option GeoPoint
  areas : List (AreaModel String)
  deriving DecidableEq

def Operation.kind (op : Operation) : ClockEvent := op.press.kind

/-- A task object: the model without its area names, the lists that `clockInAreaEn` and
`clockInAreaTh`, or their clock-out twins, refer to, and the operation that set the location. -/
structure TaskObject where
  taskModel : TaskModel
  area : ClockEvent → Option Nat := fun _ => none
  locatedBy : ClockEvent → Option Operation := fun _ => none

/-- The assignments of `onClockInConfirmPressed` or `onClockOutConfirmPressed`. -/
def TaskObject.confirm (o : TaskObject) (op : Operation) : TaskObject :=
  { o with
    taskModel := confirmModel op.kind o.taskModel op.position op.press.command
    locatedBy := Function.update o.locatedBy op.kind (some op) }

/-- The assignments of `clockInProcess` or `clockOutProcess`: the model it fills in, and the lists
of the moment. -/
def TaskObject.process (o : TaskObject) (kind : ClockEvent) (m : TaskModel) (lists : Option Nat) :
    TaskObject :=
  { o with taskModel := m, area := Function.update o.area kind lists }

/-- What is awaited: the list of geofences and the position before a sheet is shown, then for a
confirm press the position, the check, the time server and the counter. -/
inductive Call where
  | getGeofencingArea (kind : ClockEvent) (object : Nat)
  | determinePosition (kind : ClockEvent) (object : Nat)
  | confirmPosition (press : Press)
  | confirmInGeofencingArea (press : Press) (position : Option GeoPoint)
  | ntpNow (op : Operation)
  | counter (op : Operation)
  deriving DecidableEq

/-- A map handed to `updateTaskStatusByTaskId`. -/
structure Write where
  op : Operation
  taskId : Option String
  data : Payload

/-- The task objects of the pages; all pairs of lists the service has had, the current one last,
each as the operations whose replies were added to it (no pair yet stands for the null lists of the
start); the sheets and the dialogs that are shown; and what was written. -/
structure State where
  objects : List TaskObject := []
  lists : List (List Operation) := []
  userModel : Option UserModel := none
  sheets : List (ClockEvent × Nat) := []
  dialogs : List Operation := []
  calls : List Call := []
  writes : List Write := []

/-- `inside` is any list of areas but the text `[]`, `malformed` a list whose decoding fails after
the given areas, `failed` an exception or the reply of a server that is not well. -/
inductive Reply where
  | ok
  | failed
  | position (position : Option GeoPoint)
  | inside (areas : List (AreaModel String))
  | outside
  | malformed (areas : List (AreaModel String))
  | time (serverTimeNow : Int)

/-- A sheet or a dialog may be popped at any time, by the user or by a process that has finished. -/
inductive Event where
  | build (taskModel : TaskModel)
  | getUserDataByUserId (userModel : Option UserModel)
  | onClockPressed (kind : ClockEvent) (object : Nat)
  | onClockConfirmPressed (sheet : Nat) (command : Option String)
  | onDialogConfirmed (dialog : Nat)
  | popSheet (sheet : Nat)
  | popDialog (dialog : Nat)
  | resume (call : Nat) (r : Reply)

namespace State

def await (s : State) (c : Call) : State := { s with calls := c :: s.calls }

/-- Both lists of the service are replaced by new ones. -/
def resetLists (s : State) : State := { s with lists := s.lists ++ [[]] }

/-- The lists the service refers to. -/
def current (s : State) : Option Nat :=
  match s.lists.length with
  | 0 => none
  | n + 1 => some n

/-- The names of a reply are added to the lists that are current when it arrives. -/
def receive (s : State) (op : Operation) : State :=
  { s with lists := s.lists.modify (s.lists.length - 1) fun received => received ++ [op] }

/-- All areas whose names the lists hold. -/
def received (s : State) (lists : Option Nat) : Option (List (AreaModel String)) :=
  lists.bind fun i => (s.lists[i]?).map fun ops => ops.flatMap Operation.areas

def confirm (s : State) (op : Operation) : State :=
  { s with objects := s.objects.modify op.press.object fun o => o.confirm op }

/-- The model as `toJson` finds it. -/
def deref (s : State) (o : TaskObject) : TaskModel :=
  let names (kind : ClockEvent) (l : Language) : Option (List String) :=
    (s.received (o.area kind)).map fun areas => areaNames areas l
  { o.taskModel with
    clockInAreaEn := names .clockIn .en
    clockInAreaTh := names .clockIn .th
    clockOutAreaEn := names .clockOut .en
    clockOutAreaTh := names .clockOut .th }

def write (s : State) (op : Operation) : State :=
  match s.objects[op.press.object]? with
  | none => s
  | some o =>
    let data := modelData op.kind (s.deref o) s.userModel
    { s with writes := ⟨op, o.taskModel.taskId, data⟩ :: s.writes }

/-- `clockInProcess` or `clockOutProcess` once the server time is there. -/
def process (s : State) (op : Operation) (serverTimeNow : Int) : State :=
  match s.objects[op.press.object]? with
  | none => s
  | some o =>
    match processModel op.kind o.taskModel serverTimeNow none none with
    -- the null check of the planned time fails
    | none => s
    | some m =>
      let t := { s with objects :=
        s.objects.modify op.press.object fun o => o.process op.kind m s.current }
      if callsCounter op.kind m then t.await (.counter op) else t.write op

end State

/-- What follows a call once it is no longer in flight. -/
def resume (s : State) : Call → Reply → Option State
  | .getGeofencingArea kind object, .ok => some (s.await (.determinePosition kind object))
  | .getGeofencingArea _ _, .failed => some s
  | .determinePosition kind object, .position _ =>
    some { s.resetLists with sheets := (kind, object) :: s.sheets }
  | .determinePosition _ _, .failed => some s
  | .confirmPosition press, .position position =>
    some (s.resetLists.await (.confirmInGeofencingArea press position))
  | .confirmPosition _, .failed => some s
  | .confirmInGeofencingArea press position, .inside areas =>
    let op : Operation := ⟨press, position, areas⟩
    some (((s.receive op).confirm op).await (.ntpNow op))
  | .confirmInGeofencingArea press position, .outside =>
    let op : Operation := ⟨press, position, []⟩
    some { s.confirm op with dialogs := op :: s.dialogs }
  | .confirmInGeofencingArea press position, .malformed areas =>
    some (s.receive ⟨press, position, areas⟩)
  | .confirmInGeofencingArea _ _, .failed => some s
  | .ntpNow op, .time serverTimeNow => some (s.process op serverTimeNow)
  | .ntpNow _, .failed => some s
  -- the counters report a failure as a value nobody looks at
  | .counter op, .ok | .counter op, .failed => some (s.write op)
  | _, _ => none

def step (s : State) : Event → Option State
  | .build taskModel => some { s with objects := s.objects ++ [{ taskModel := taskModel }] }
  | .getUserDataByUserId userModel => some { s with userModel := userModel }
  | .onClockPressed kind object =>
    if object < s.objects.length then some (s.await (.getGeofencingArea kind object)) else none
  | .onClockConfirmPressed sheet command =>
    (s.sheets[sheet]?).map fun x => s.await (.confirmPosition ⟨x.1, x.2, command⟩)
  | .onDialogConfirmed dialog => (s.dialogs[dialog]?).map fun op => s.await (.ntpNow op)
  | .popSheet sheet => some { s with sheets := s.sheets.eraseIdx sheet }
  | .popDialog dialog => some { s with dialogs := s.dialogs.eraseIdx dialog }
  | .resume call r => do
    let (c, rest) ← takeOut s.calls call
    resume { s with calls := rest } c r

def locationKey : ClockEvent → String
  | .clockIn => "clock_in_location"
  | .clockOut => "clock_out_location"

def areaKey : ClockEvent → Language → String
  | .clockIn, .en => "clock_in_area_en"
  | .clockIn, .th => "clock_in_area_th"
  | .clockOut, .en => "clock_out_area_en"
  | .clockOut, .th => "clock_out_area_th"

/-- Whatever the task held: after the write its location is the position that was reported, and its
areas are those that were returned. -/
def Evidence (w : Write) : Prop :=
  ∃ p, w.op.position = some p ∧ ∀ d,
    update d w.data (locationKey w.op.kind) = .geoPoint p ∧
    ∀ l, update d w.data (areaKey w.op.kind l) = .strings (areaNames w.op.areas l)

def AllEvidence (s : State) : Prop := ∀ w ∈ s.writes, Evidence w

/-- The device reported a position, the last operation that set the location of the task object had
the same one, and the replies the lists have received have, one after the other, the names of the
operation's own reply. -/
def Backed (s : State) (op : Operation) (o : TaskObject) (lists : Option Nat) : Prop :=
  ∃ p ∈ op.position, (∀ setBy ∈ o.locatedBy op.kind, pointOf setBy.position = p) ∧
    ∃ areas ∈ s.received lists, ∀ l, areaNames areas l = areaNames op.areas l

/-- The planned time an operation is compared with. -/
def planned : ClockEvent → TaskModel → Option Int
  | .clockIn, m => m.startDate
  | .clockOut, m => m.finishDate

/-- An operation on time reads the current lists when the server time arrives; off time it reads
those its task object refers to when the counter has answered. -/
def CallBacked (s : State) : Call → Reply → Prop
  | .ntpNow op, .time serverTimeNow =>
    ∀ o ∈ s.objects[op.press.object]?, ∀ time ∈ planned op.kind o.taskModel,
      offTime op.kind time serverTimeNow = false → Backed s op o s.current
  | .counter op, _ => ∀ o ∈ s.objects[op.press.object]?, Backed s op o (o.area op.kind)
  | _, _ => True

def BackedWrites (s : State) : Event → Prop
  | .resume call r => ∀ c ∈ takeOut s.calls call, CallBacked s c.1 r
  | .build _ | .getUserDataByUserId _ | .onClockPressed _ _ | .onClockConfirmPressed _ _
  | .onDialogConfirmed _ | .popSheet _ | .popDialog _ => True

def location : ClockEvent → TaskModel → Option GeoPoint
  | .clockIn, m => m.clockInLocation
  | .clockOut, m => m.clockOutLocation

def areaOf : ClockEvent → Language → TaskModel → Option (List String)
  | .clockIn, .en, m => m.clockInAreaEn
  | .clockIn, .th, m => m.clockInAreaTh
  | .clockOut, .en, m => m.clockOutAreaEn
  | .clockOut, .th, m => m.clockOutAreaTh

@[simp] theorem location_deref (s : State) (o : TaskObject) (kind : ClockEvent) :
    location kind (s.deref o) = location kind o.taskModel := by
  cases kind <;> rfl

@[simp] theorem areaOf_deref (s : State) (o : TaskObject) (kind : ClockEvent) (l : Language) :
    areaOf kind l (s.deref o) = (s.received (o.area kind)).map fun areas => areaNames areas l := by
  cases kind <;> cases l <;> rfl

theorem location_confirmModel (kind : ClockEvent) (m : TaskModel) (position : Option GeoPoint)
    (command : Option String) :
    location kind (confirmModel kind m position command) = some (pointOf position) := by
  cases kind <;> rfl

/-- A confirm press of the other kind leaves the location alone. -/
theorem location_confirmModel_of_ne {kind other : ClockEvent} (h : kind ≠ other) (m : TaskModel)
    (position : Option GeoPoint) (command : Option String) :
    location kind (confirmModel other m position command) = location kind m := by
  cases kind with
  | clockIn =>
    cases other with
    | clockIn => exact absurd rfl h
    | clockOut => rfl
  | clockOut =>
    cases other with
    | clockIn => rfl
    | clockOut => exact absurd rfl h

/-- A process needs the planned time, stores no location, and calls its counter off time. -/
theorem processModel_eq_some {kind : ClockEvent} {m m' : TaskModel} {now : Int}
    (h : processModel kind m now none none = some m') :
    ∃ time, planned kind m = some time ∧ callsCounter kind m' = offTime kind time now ∧
      (∀ other, location other m' = location other m) ∧ m'.taskId = m.taskId := by
  cases kind with
  | clockIn =>
    obtain ⟨time, hs, rfl⟩ := clockInProcess_eq_some h
    refine ⟨time, hs, ?_, fun other => by cases other <;> rfl, rfl⟩
    simp only [callsCounter, offTime, Option.some.injEq, clockStatus_eq_late_iff]
  | clockOut =>
    obtain ⟨time, hs, rfl⟩ := clockOutProcess_eq_some h
    refine ⟨time, hs, ?_, fun other => by cases other <;> rfl, rfl⟩
    simp only [callsCounter, offTime, Option.some.injEq, clockStatus_eq_early_iff]

theorem processModel_eq_none {kind : ClockEvent} {m : TaskModel} {now : Int}
    (h : processModel kind m now none none = none) : planned kind m = none := by
  cases kind with
  | clockIn => exact Option.map_eq_none_iff.mp h
  | clockOut => exact Option.map_eq_none_iff.mp h

theorem update_location (kind : ClockEvent) (m : TaskModel) (userModel : Option UserModel)
    (d : Doc) :
    update d (modelData kind m userModel) (locationKey kind) =
      Codec.geoPoint.encode (location kind m) := by
  apply update_modelData
  cases kind <;> simp [toJson, locationKey, location]

/-- The area names are stored if there are any lists, and left alone otherwise. -/
theorem update_area (kind : ClockEvent) (l : Language) (m : TaskModel)
    (userModel : Option UserModel) (d : Doc) :
    update d (modelData kind m userModel) (areaKey kind l) =
      ((areaOf kind l m).map Value.strings).getD (d (areaKey kind l)) := by
  cases h : areaOf kind l m with
  | some names =>
    refine update_modelData ?_ userModel d
    cases kind <;> cases l <;> simp only [areaOf] at h <;> simp [toJson, areaKey, h, mem_optional]
  | none =>
    refine update_of_not_mem fun hmem => ?_
    cases kind <;> cases l <;> simp only [areaOf] at h <;>
      simp [modelData, clockInData, clockOutData, toJson, areaKey, h, mem_optional, keys,
        profileFields] at hmem

/-- The names that are stored are those of all replies the lists have received. -/
theorem update_area_deref (s : State) (o : TaskObject) (kind : ClockEvent) (l : Language)
    (userModel : Option UserModel) (d : Doc) :
    update d (modelData kind (s.deref o) userModel) (areaKey kind l) =
      ((s.received (o.area kind)).map fun areas => Value.strings (areaNames areas l)).getD
        (d (areaKey kind l)) := by
  rw [update_area, areaOf_deref, Option.map_map]
  rfl

/-- A write has its evidence exactly if its operation is backed when it is put together. -/
theorem evidence_iff_backed {s : State} {op setBy : Operation} {o : TaskObject}
    (taskId : Option String) (hset : o.locatedBy op.kind = some setBy)
    (hlocation : location op.kind o.taskModel = some (pointOf setBy.position)) :
    Evidence ⟨op, taskId, modelData op.kind (s.deref o) s.userModel⟩ ↔
      Backed s op o (o.area op.kind) := by
  have stored : ∀ d, update d (modelData op.kind (s.deref o) s.userModel) (locationKey op.kind) =
      .geoPoint (pointOf setBy.position) := by
    intro d
    rw [update_location, location_deref, hlocation]
    rfl
  constructor
  · rintro ⟨p, hp, hd⟩
    refine ⟨p, hp, ?_, ?_⟩
    · intro other hother
      cases hset.symm.trans hother
      have h := (hd fun _ => .null).1
      rw [stored] at h
      exact Value.geoPoint.inj h
    · cases hreceived : s.received (o.area op.kind) with
      | none =>
        -- without lists the field keeps what the task held
        have h := (hd fun _ => .null).2 .en
        rw [update_area_deref, hreceived] at h
        cases h
      | some areas =>
        refine ⟨areas, rfl, fun l => ?_⟩
        have h := (hd fun _ => .null).2 l
        rw [update_area_deref, hreceived] at h
        exact Value.strings.inj h
  · rintro ⟨p, hp, hsame, areas, hreceived, hnames⟩
    refine ⟨p, hp, fun d => ⟨?_, fun l => ?_⟩⟩
    · rw [stored, hsame setBy hset]
    · rw [update_area_deref, Option.mem_def.mp hreceived]
      exact congrArg Value.strings (hnames l)

/-- The object is there and some operation has set its location. -/
def Located (s : State) (i : Nat) (kind : ClockEvent) : Prop :=
  ∃ o, s.objects[i]? = some o ∧ (o.locatedBy kind).isSome = true

/-- What is known about a call: its object is there, and is located once its check was answered. -/
def Ready (s : State) : Call → Prop
  | .getGeofencingArea _ object | .determinePosition _ object => object < s.objects.length
  | .confirmPosition press | .confirmInGeofencingArea press _ => press.object < s.objects.length
  | .ntpNow op | .counter op => Located s op.press.object op.kind

/-- Each object has the location of the operation that set it last. -/
def SetBy (o : TaskObject) : Prop :=
  ∀ kind setBy, o.locatedBy kind = some setBy →
    location kind o.taskModel = some (pointOf setBy.position)

structure Inv (s : State) : Prop where
  objects : ∀ o ∈ s.objects, SetBy o
  sheets : ∀ x ∈ s.sheets, x.2 < s.objects.length
  dialogs : ∀ op ∈ s.dialogs, Located s op.press.object op.kind
  calls : ∀ c ∈ s.calls, Ready s c

/-- No object goes away or loses its location. -/
structure Grows (s t : State) : Prop where
  length : s.objects.length ≤ t.objects.length
  located : ∀ i kind, Located s i kind → Located t i kind

theorem Grows.of_eq {s t : State} (h : t.objects = s.objects) : Grows s t where
  length := Nat.le_of_eq (congrArg List.length h).symm
  located := by
    rintro i kind ⟨o, ho, hset⟩
    exact ⟨o, by rw [h]; exact ho, hset⟩

/-- One object changes and keeps who located it, if anyone did. -/
theorem Grows.of_modify {s t : State} {i : Nat} {f : TaskObject → TaskObject}
    (h : t.objects = s.objects.modify i f)
    (keeps : ∀ o kind, (o.locatedBy kind).isSome = true → ((f o).locatedBy kind).isSome = true) :
    Grows s t where
  length := Nat.le_of_eq (by rw [h, List.length_modify])
  located := by
    rintro j kind ⟨o, ho, hset⟩
    refine ⟨if i = j then f o else o, ?_, ?_⟩
    · rw [h, List.getElem?_modify, ho]
      rfl
    · split
      · exact keeps o kind hset
      · exact hset

theorem Grows.of_append {s t : State} {o : TaskObject} (h : t.objects = s.objects ++ [o]) :
    Grows s t where
  length := by
    rw [h, List.length_append]
    exact Nat.le_add_right _ _
  located := by
    rintro i kind ⟨q, hq, hset⟩
    refine ⟨q, ?_, hset⟩
    rw [h, List.getElem?_append_left (List.getElem?_eq_some_iff.mp hq).1]
    exact hq

theorem Ready.mono {s t : State} (h : Grows s t) {c : Call} (hc : Ready s c) : Ready t c := by
  cases c with
  | getGeofencingArea kind object => exact Nat.lt_of_lt_of_le hc h.length
  | determinePosition kind object => exact Nat.lt_of_lt_of_le hc h.length
  | confirmPosition press => exact Nat.lt_of_lt_of_le hc h.length
  | confirmInGeofencingArea press position => exact Nat.lt_of_lt_of_le hc h.length
  | ntpNow op => exact h.located _ _ hc
  | counter op => exact h.located _ _ hc

/-- The invariant concerns the objects, the sheets, the dialogs and the calls. -/
theorem Inv.grow {s t : State} (h : Inv s) (grows : Grows s t) (objects : ∀ o ∈ t.objects, SetBy o)
    (sheets : t.sheets ⊆ s.sheets) (dialogs : t.dialogs ⊆ s.dialogs) (calls : t.calls ⊆ s.calls) :
    Inv t where
  objects := objects
  sheets := fun x hx => Nat.lt_of_lt_of_le (h.sheets x (sheets hx)) grows.length
  dialogs := fun op hop => grows.located _ _ (h.dialogs op (dialogs hop))
  calls := fun c hc => (h.calls c (calls hc)).mono grows

theorem Inv.congr {s t : State} (h : Inv s) (objects : t.objects = s.objects)
    (sheets : t.sheets = s.sheets) (dialogs : t.dialogs = s.dialogs) (calls : t.calls = s.calls) :
    Inv t := by
  refine h.grow (Grows.of_eq objects) ?_ ?_ ?_ ?_
  · rw [objects]
    exact h.objects
  · exact sheets ▸ List.Subset.refl _
  · exact dialogs ▸ List.Subset.refl _
  · exact calls ▸ List.Subset.refl _

theorem Inv.await {s : State} (h : Inv s) {c : Call} (hc : Ready s c) : Inv (s.await c) := by
  have same : Grows s (s.await c) := Grows.of_eq rfl
  refine ⟨h.objects, h.sheets, fun op hop => same.located _ _ (h.dialogs op hop), fun d hd => ?_⟩
  rcases List.mem_cons.mp hd with rfl | hd
  · exact hc.mono same
  · exact (h.calls d hd).mono same

theorem Inv.rest {s : State} (h : Inv s) {i : Nat} {c : Call} {rest : List Call}
    (ht : takeOut s.calls i = some (c, rest)) : Inv { s with calls := rest } :=
  h.grow (Grows.of_eq rfl) h.objects (List.Subset.refl _) (List.Subset.refl _)
    fun _ hd => mem_of_mem_rest ht hd

theorem locatedBy_confirm_self (o : TaskObject) (op : Operation) :
    (o.confirm op).locatedBy op.kind = some op :=
  Function.update_self _ _ _

theorem locatedBy_confirm_of_ne {kind : ClockEvent} (o : TaskObject) {op : Operation}
    (h : kind ≠ op.kind) : (o.confirm op).locatedBy kind = o.locatedBy kind :=
  Function.update_of_ne h _ _

theorem isSome_locatedBy_confirm (op : Operation) (o : TaskObject) (kind : ClockEvent)
    (h : (o.locatedBy kind).isSome = true) : ((o.confirm op).locatedBy kind).isSome = true := by
  by_cases hkind : kind = op.kind
  · subst hkind
    rw [locatedBy_confirm_self]
    rfl
  · rw [locatedBy_confirm_of_ne o hkind]
    exact h

/-- The location an operation stores is its own. -/
theorem SetBy.confirm {o : TaskObject} (h : SetBy o) (op : Operation) : SetBy (o.confirm op) := by
  intro kind setBy hset
  by_cases hkind : kind = op.kind
  · subst hkind
    rw [locatedBy_confirm_self] at hset
    cases hset
    exact location_confirmModel _ _ _ _
  · rw [locatedBy_confirm_of_ne o hkind] at hset
    exact (location_confirmModel_of_ne hkind _ _ _).trans (h kind setBy hset)

/-- One object changes and stays located as it says. -/
theorem Inv.modify {s : State} (h : Inv s) {i : Nat} {f : TaskObject → TaskObject}
    (keeps : ∀ o kind, (o.locatedBy kind).isSome = true → ((f o).locatedBy kind).isSome = true)
    (hset : ∀ o, s.objects[i]? = some o → SetBy (f o)) :
    Inv { s with objects := s.objects.modify i f } := by
  refine h.grow (Grows.of_modify rfl keeps) (fun o ho => ?_) (List.Subset.refl _)
    (List.Subset.refl _) (List.Subset.refl _)
  obtain ⟨j, hj⟩ := List.mem_iff_getElem?.mp ho
  obtain ⟨q, hq, rfl⟩ := Option.map_eq_some_iff.mp
    ((List.getElem?_modify _ _ _ _).symm.trans hj)
  split
  · case isTrue hij =>
    subst hij
    exact hset q hq
  · exact h.objects q (List.mem_of_getElem? hq)

theorem located_confirm {s : State} {op : Operation} (h : op.press.object < s.objects.length) :
    Located (s.confirm op) op.press.object op.kind := by
  refine ⟨s.objects[op.press.object].confirm op, ?_, ?_⟩
  · simp [State.confirm, h]
  · rw [locatedBy_confirm_self]
    rfl

theorem Inv.confirm {s : State} (h : Inv s) (op : Operation) : Inv (s.confirm op) :=
  h.modify (isSome_locatedBy_confirm op) fun o ho =>
    (h.objects o (List.mem_of_getElem? ho)).confirm op

theorem Inv.write {s : State} (h : Inv s) (op : Operation) : Inv (s.write op) := by
  rw [State.write]
  split
  · exact h
  · exact h.congr rfl rfl rfl rfl

/-- A write that is added has to have its evidence. -/
theorem allEvidence_write_iff {s : State} (h : Inv s) (all : AllEvidence s) {op : Operation}
    {o : TaskObject} (ho : s.objects[op.press.object]? = some o)
    (located : (o.locatedBy op.kind).isSome = true) :
    AllEvidence (s.write op) ↔ Backed s op o (o.area op.kind) := by
  obtain ⟨setBy, hset⟩ := Option.isSome_iff_exists.mp located
  have hlocation := h.objects o (List.mem_of_getElem? ho) op.kind setBy hset
  have hwrites : (s.write op).writes =
      ⟨op, o.taskModel.taskId, modelData op.kind (s.deref o) s.userModel⟩ :: s.writes := by
    rw [State.write, ho]
  rw [← evidence_iff_backed o.taskModel.taskId hset hlocation, AllEvidence, hwrites]
  constructor
  · exact fun hall => hall _ List.mem_cons_self
  · intro hw w hmem
    rcases List.mem_cons.mp hmem with rfl | hmem
    · exact hw
    · exact all w hmem

theorem AllEvidence.congr {s t : State} (h : AllEvidence s) (hw : t.writes = s.writes) :
    AllEvidence t := by
  intro w hmem
  rw [hw] at hmem
  exact h w hmem

section Process

variable {s : State} {op : Operation} {o : TaskObject} {m : TaskModel} {now : Int}

/-- The state of a process between its assignments and what it awaits next. -/
def processed (s : State) (op : Operation) (m : TaskModel) : State :=
  { s with objects := s.objects.modify op.press.object fun o => o.process op.kind m s.current }

theorem Inv.processed (h : Inv s) (ho : s.objects[op.press.object]? = some o)
    (hm : processModel op.kind o.taskModel now none none = some m) : Inv (processed s op m) := by
  refine h.modify (fun _ _ hset => hset) fun q hq => ?_
  cases ho.symm.trans hq
  intro kind setBy hset
  obtain ⟨-, -, -, hlocation, -⟩ := processModel_eq_some hm
  exact (hlocation kind).trans (h.objects o (List.mem_of_getElem? ho) kind setBy hset)

theorem objects_processed (ho : s.objects[op.press.object]? = some o) :
    (processed s op m).objects[op.press.object]? = some (o.process op.kind m s.current) := by
  simp [LocationEvidence.processed, ho]

/-- The object refers to the lists of the moment, and nothing else that counts has changed. -/
theorem backed_processed_iff :
    Backed (processed s op m) op (o.process op.kind m s.current)
      ((o.process op.kind m s.current).area op.kind) ↔ Backed s op o s.current := by
  rw [show (o.process op.kind m s.current).area op.kind = s.current from Function.update_self _ _ _]
  rfl

/-- What a process does, once its model has been filled in. -/
theorem process_eq (ho : s.objects[op.press.object]? = some o)
    (hm : processModel op.kind o.taskModel now none none = some m) :
    s.process op now = if callsCounter op.kind m then (processed s op m).await (.counter op)
      else (processed s op m).write op := by
  simp only [State.process, ho, hm]
  rfl

theorem located_processed (ho : s.objects[op.press.object]? = some o)
    (located : (o.locatedBy op.kind).isSome = true) :
    Located (processed s op m) op.press.object op.kind :=
  ⟨_, objects_processed ho, located⟩

theorem Inv.process (h : Inv s) (located : Located s op.press.object op.kind) :
    Inv (s.process op now) := by
  obtain ⟨o, ho, hset⟩ := located
  cases hm : processModel op.kind o.taskModel now none none with
  | none =>
    simp only [State.process, ho, hm]
    exact h
  | some m =>
    rw [process_eq ho hm]
    split
    · exact (h.processed ho hm).await (located_processed ho hset)
    · exact (h.processed ho hm).write op

theorem allEvidence_process_iff (h : Inv s) (all : AllEvidence s)
    (located : Located s op.press.object op.kind) :
    AllEvidence (s.process op now) ↔ CallBacked s (.ntpNow op) (.time now) := by
  obtain ⟨o, ho, hset⟩ := located
  simp only [CallBacked, ho, Option.mem_def, Option.some.injEq, forall_eq']
  cases hm : processModel op.kind o.taskModel now none none with
  | none =>
    have hplanned := processModel_eq_none hm
    simp only [State.process, ho, hm, hplanned]
    exact ⟨fun _ time ht => (nomatch ht), fun _ => all⟩
  | some m =>
    obtain ⟨time, hplanned, hcounter, -⟩ := processModel_eq_some hm
    rw [process_eq ho hm, hcounter]
    simp only [hplanned, Option.some.injEq, forall_eq']
    cases hoff : offTime op.kind time now with
    | true =>
      refine ⟨fun _ hfalse => (nomatch hfalse), fun _ => ?_⟩
      exact all.congr rfl
    | false =>
      have hwrite := allEvidence_write_iff (h.processed ho hm) (all.congr rfl)
        (objects_processed ho) hset
      exact (hwrite.trans backed_processed_iff).trans ⟨fun hb _ => hb, fun hb => hb rfl⟩

end Process

section Resume

variable {s t : State} {c : Call} {r : Reply}

/-- What the replies of the calls make of a state. -/
inductive Resumed (s : State) : Call → Reply → State → Prop
  | unchanged (c : Call) (h : ∀ op, c ≠ .counter op) : Resumed s c .failed s
  | geofences (kind : ClockEvent) (object : Nat) :
    Resumed s (.getGeofencingArea kind object) .ok (s.await (.determinePosition kind object))
  | sheet (kind : ClockEvent) (object : Nat) (position : Option GeoPoint) :
    Resumed s (.determinePosition kind object) (.position position)
      { s.resetLists with sheets := (kind, object) :: s.sheets }
  | check (press : Press) (position : Option GeoPoint) :
    Resumed s (.confirmPosition press) (.position position)
      (s.resetLists.await (.confirmInGeofencingArea press position))
  | inside (op : Operation) :
    Resumed s (.confirmInGeofencingArea op.press op.position) (.inside op.areas)
      (((s.receive op).confirm op).await (.ntpNow op))
  | outside (press : Press) (position : Option GeoPoint) :
    Resumed s (.confirmInGeofencingArea press position) .outside
      { s.confirm ⟨press, position, []⟩ with dialogs := ⟨press, position, []⟩ :: s.dialogs }
  | malformed (op : Operation) :
    Resumed s (.confirmInGeofencingArea op.press op.position) (.malformed op.areas) (s.receive op)
  | time (op : Operation) (now : Int) : Resumed s (.ntpNow op) (.time now) (s.process op now)
  | counted (op : Operation) (r : Reply) : Resumed s (.counter op) r (s.write op)

theorem resume_cases (hr : resume s c r = some t) : Resumed s c r t := by
  cases c with
  | getGeofencingArea kind object =>
    cases r <;> cases hr
    · exact .geofences kind object
    · exact .unchanged _ (by simp)
  | determinePosition kind object =>
    cases r <;> cases hr
    · exact .unchanged _ (by simp)
    · exact .sheet kind object _
  | confirmPosition press =>
    cases r <;> cases hr
    · exact .unchanged _ (by simp)
    · exact .check press _
  | confirmInGeofencingArea press position =>
    cases r <;> cases hr
    · exact .unchanged _ (by simp)
    · exact .inside ⟨press, position, _⟩
    · exact .outside press position
    · exact .malformed ⟨press, position, _⟩
  | ntpNow op =>
    cases r <;> cases hr
    · exact .unchanged _ (by simp)
    · exact .time op _
  | counter op => cases r <;> cases hr <;> exact .counted op _

theorem Inv.receive (h : Inv s) (op : Operation) : Inv (s.receive op) :=
  h.congr rfl rfl rfl rfl

theorem resume_inv (h : Inv s) (ready : Ready s c) (hr : resume s c r = some t) : Inv t := by
  cases resume_cases hr with
  | unchanged => exact h
  | geofences kind object => exact h.await ready
  | sheet kind object position =>
    have same : Grows s { s.resetLists with sheets := (kind, object) :: s.sheets } :=
      Grows.of_eq rfl
    refine ⟨h.objects, fun x hx => ?_, fun op hop => same.located _ _ (h.dialogs op hop),
      fun c hc => (h.calls c hc).mono same⟩
    rcases List.mem_cons.mp hx with rfl | hx
    · exact ready
    · exact h.sheets x hx
  | check press position =>
    have hreset : Inv s.resetLists := h.congr rfl rfl rfl rfl
    exact hreset.await ready
  | inside op => exact ((h.receive op).confirm op).await (located_confirm ready)
  | outside press position =>
    have hc := h.confirm ⟨press, position, []⟩
    have same : Grows (s.confirm ⟨press, position, []⟩) { s.confirm ⟨press, position, []⟩ with
        dialogs := ⟨press, position, []⟩ :: s.dialogs } := Grows.of_eq rfl
    refine ⟨hc.objects, hc.sheets, fun op hop => ?_, fun c hmem => (hc.calls c hmem).mono same⟩
    apply same.located
    rcases List.mem_cons.mp hop with rfl | hop
    · exact located_confirm ready
    · exact hc.dialogs op hop
  | malformed op => exact h.receive op
  | time op now => exact h.process ready
  | counted op => exact h.write op

/-- Only the reply of the time server or of a counter adds a write. -/
theorem resume_evidence_iff (h : Inv s) (all : AllEvidence s) (ready : Ready s c)
    (hr : resume s c r = some t) : AllEvidence t ↔ CallBacked s c r := by
  have same : t.writes = s.writes → CallBacked s c r → (AllEvidence t ↔ CallBacked s c r) :=
    fun hw hc => ⟨fun _ => hc, fun _ => all.congr hw⟩
  cases resume_cases hr with
  | unchanged c hc =>
    have answered : CallBacked s c .failed := by
      cases c with
      | counter op => exact absurd rfl (hc op)
      | _ => trivial
    exact same rfl answered
  | geofences kind object => exact same rfl trivial
  | sheet kind object position => exact same rfl trivial
  | check press position => exact same rfl trivial
  | inside op => exact same rfl trivial
  | outside press position => exact same rfl trivial
  | malformed op => exact same rfl trivial
  | time op now => exact allEvidence_process_iff h all ready
  | counted op =>
    obtain ⟨o, ho, hset⟩ := ready
    rw [allEvidence_write_iff h all ho hset]
    simp only [CallBacked, ho, Option.mem_def, Option.some.injEq, forall_eq']

end Resume

/-- The call that a button brings into flight. -/
inductive Asks (s : State) : Event → Call → Prop
  | pressed (kind : ClockEvent) {object : Nat} (h : object < s.objects.length) :
    Asks s (.onClockPressed kind object) (.getGeofencingArea kind object)
  | confirmed {sheet : Nat} {x : ClockEvent × Nat} (command : Option String)
    (h : s.sheets[sheet]? = some x) :
    Asks s (.onClockConfirmPressed sheet command) (.confirmPosition ⟨x.1, x.2, command⟩)
  | dialog {dialog : Nat} {op : Operation} (h : s.dialogs[dialog]? = some op) :
    Asks s (.onDialogConfirmed dialog) (.ntpNow op)

/-- What a step can do. -/
inductive Stepped (s : State) : Event → State → Prop
  | build (taskModel : TaskModel) :
    Stepped s (.build taskModel) { s with objects := s.objects ++ [{ taskModel := taskModel }] }
  | getUserDataByUserId (userModel : Option UserModel) :
    Stepped s (.getUserDataByUserId userModel) { s with userModel := userModel }
  | asks {e : Event} {c : Call} (h : Asks s e c) : Stepped s e (s.await c)
  | popSheet (sheet : Nat) :
    Stepped s (.popSheet sheet) { s with sheets := s.sheets.eraseIdx sheet }
  | popDialog (dialog : Nat) :
    Stepped s (.popDialog dialog) { s with dialogs := s.dialogs.eraseIdx dialog }
  | resume {call : Nat} {r : Reply} {c : Call} {rest : List Call} {t : State}
    (ht : takeOut s.calls call = some (c, rest))
    (hr : resume { s with calls := rest } c r = some t) : Stepped s (.resume call r) t

theorem step_cases {s t : State} {e : Event} (hstep : step s e = some t) : Stepped s e t := by
  cases e with
  | build taskModel =>
    cases hstep
    exact .build taskModel
  | getUserDataByUserId userModel =>
    cases hstep
    exact .getUserDataByUserId userModel
  | onClockPressed kind object =>
    obtain ⟨hobject, hstep⟩ := Option.ite_none_right_eq_some.mp hstep
    cases hstep
    exact .asks (.pressed kind hobject)
  | onClockConfirmPressed sheet command =>
    obtain ⟨x, hx, rfl⟩ := Option.map_eq_some_iff.mp hstep
    exact .asks (.confirmed command hx)
  | onDialogConfirmed dialog =>
    obtain ⟨op, hop, rfl⟩ := Option.map_eq_some_iff.mp hstep
    exact .asks (.dialog hop)
  | popSheet sheet =>
    cases hstep
    exact .popSheet sheet
  | popDialog dialog =>
    cases hstep
    exact .popDialog dialog
  | resume call r =>
    obtain ⟨⟨c, rest⟩, ht, hstep⟩ := Option.bind_eq_some_iff.mp hstep
    exact .resume ht hstep

theorem step_inv {s t : State} {e : Event} (h : Inv s) (hstep : step s e = some t) : Inv t := by
  cases step_cases hstep with
  | build taskModel =>
    refine h.grow (Grows.of_append rfl) (fun o ho => ?_) (List.Subset.refl _) (List.Subset.refl _)
      (List.Subset.refl _)
    rcases List.mem_append.mp ho with ho | ho
    · exact h.objects o ho
    · cases List.mem_singleton.mp ho
      intro kind setBy hset
      cases hset
  | getUserDataByUserId userModel => exact h.congr rfl rfl rfl rfl
  | asks asked =>
    cases asked with
    | pressed kind hobject => exact h.await hobject
    | confirmed command hx => exact h.await (h.sheets _ (List.mem_of_getElem? hx))
    | dialog hop => exact h.await (h.dialogs _ (List.mem_of_getElem? hop))
  | popSheet sheet =>
    exact h.grow (Grows.of_eq rfl) h.objects (List.eraseIdx_subset ..) (List.Subset.refl _)
      (List.Subset.refl _)
  | popDialog dialog =>
    exact h.grow (Grows.of_eq rfl) h.objects (List.Subset.refl _) (List.eraseIdx_subset ..)
      (List.Subset.refl _)
  | resume ht hr =>
    exact resume_inv (h.rest ht) ((h.calls _ (mem_takeOut ht)).mono (Grows.of_eq rfl)) hr

theorem step_evidence_iff {s t : State} {e : Event} (h : Inv s) (all : AllEvidence s)
    (hstep : step s e = some t) : AllEvidence t ↔ BackedWrites s e := by
  have same : t.writes = s.writes → BackedWrites s e → (AllEvidence t ↔ BackedWrites s e) :=
    fun hw hc => ⟨fun _ => hc, fun _ => all.congr hw⟩
  cases step_cases hstep with
  | asks asked =>
    cases asked with
    | pressed => exact same rfl trivial
    | confirmed => exact same rfl trivial
    | dialog => exact same rfl trivial
  | @resume call r c rest _ ht hr =>
    have hready : Ready { s with calls := rest } c :=
      (h.calls c (mem_takeOut ht)).mono (Grows.of_eq rfl)
    rw [resume_evidence_iff (h.rest ht) (all.congr rfl) hready hr]
    constructor
    · intro hc x hx
      cases Option.some.inj (ht.symm.trans hx)
      cases c <;> exact hc
    · intro hall
      have hc := hall _ ht
      cases c <;> exact hc
  | _ => exact same rfl trivial

/-- Every write has its evidence exactly if every operation is backed when its write is put
together, in any interleaving of presses and replies. -/
theorem evidence_iff (es : List Event) :
    EveryState step AllEvidence {} es ↔ EveryStep step BackedWrites {} es := by
  have hinv : Inv {} := by
    refine ⟨?_, ?_, ?_, ?_⟩
    all_goals
      intro x hx
      cases hx
  have hall : AllEvidence {} := fun w hw => nomatch hw
  exact everyState_iff_everyStep_of_inv (fun _ _ _ _ h hstep => step_inv h hstep)
    (fun _ _ _ all h hstep => step_evidence_iff h all hstep) hall hinv es

/-- The write does not carry the English names of the areas that were returned. -/
def wrongAreas (w : Write) : Bool :=
  w.data.lookup (areaKey w.op.kind .en) ≠ some (.strings (areaNames w.op.areas .en))

theorem not_evidence_of_wrongAreas {w : Write} (h : wrongAreas w = true) : ¬ Evidence w := by
  rintro ⟨p, -, hd⟩
  have hen := (hd fun _ => .null).2 .en
  have hlookup : w.data.lookup (areaKey w.op.kind .en) =
      some (.strings (areaNames w.op.areas .en)) := by
    simp only [update] at hen
    cases hl : w.data.lookup (areaKey w.op.kind .en) with
    | none =>
      rw [hl] at hen
      cases hen
    | some v =>
      rw [hl] at hen
      exact congrArg some hen
  exact of_decide_eq_true h hlookup

/-- The confirm button of one sheet is pressed twice, and both checks return the one area the device
is in: the first write stores its name twice. -/
theorem second_confirm_doubles_areas :
    ¬ ∀ es : List Event, EveryState step AllEvidence {} es := by
  intro claim
  let here : Option GeoPoint := some ⟨13, 100⟩
  let terminal : AreaModel String := ⟨some "Terminal", none⟩
  refine not_everyState_of_run (fun t => t.writes.any fun w => wrongAreas w ∧
      w.data.lookup "clock_in_area_en" = some (.strings ["Terminal", "Terminal"])) ?_ ?_
    (claim [.build (plannedModel "t1" TaskStatus.confirm 100 200), .onClockPressed .clockIn 0,
      .resume 0 .ok, .resume 0 (.position here), .onClockConfirmPressed 0 none,
      .onClockConfirmPressed 0 none, .resume 0 (.position here), .resume 1 (.position here),
      .resume 0 (.inside [terminal]), .resume 1 (.inside [terminal]), .resume 0 (.time 90)])
  · intro t hbad hall
    obtain ⟨w, hw, hwrong⟩ := List.any_eq_true.mp hbad
    exact not_evidence_of_wrongAreas (of_decide_eq_true hwrong).1 (hall w hw)
  · decide

end LocationEvidence
