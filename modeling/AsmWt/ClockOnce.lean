import AsmWt.Interleaving
import AsmWt.PendingCalls
import AsmWt.ClockProcess

/-!
# Overlapping presses of the clock buttons

`TodayTaskView` decodes a delivered snapshot into a new model at every build
and offers one button for it. A press waits for the geofences, the position and
the time before its sheet opens; the sheet's confirm button waits for position
and area and then runs the process, at once inside a geofence and after one
more dialog outside. Every `await` is a call whose reply may come at any time.
Sheets and dialogs may be dismissed at any time, and a build may use any
version of the document that was ever stored.
-/

namespace ClockOnce

open KeyedRecord Firestore TasksModel UserProfile ClockProcess Interleaving PendingCalls

/-- Where a press, a confirmation or a process waits. -/
inductive Stage where
  | geofences
  | position
  | sheetTime
  | confirmPosition (command : String)
  | confirmArea (command : String) (position : Option GeoPoint)
  | processTime
  | processCounter
  | processUpdate (data : Payload)
  | processFeed

/-- A confirmation is under way from the confirm button to the reply to its task write. -/
def Stage.confirms : Stage → Bool
  | .geofences | .position | .sheetTime | .processFeed => false
  | .confirmPosition _ | .confirmArea _ _ | .processTime | .processCounter
  | .processUpdate _ => true

def Stage.feeds : Stage → Bool
  | .processFeed => true
  | _ => false

/-- A call in flight, for the `item`-th model that was built for a button of its kind. -/
structure Call where
  kind : ClockEvent
  item : Nat
  stage : Stage

structure Button where
  kind : ClockEvent
  item : Nat
  enabled : Bool

structure State where
  doc : Doc
  versions : List Doc
  items : ClockEvent → List TaskModel := fun _ => []
  button : Option Button := none
  onClockInOrClockOutPress : Bool := false
  sheets : List (ClockEvent × Nat) := []
  dialogs : List (ClockEvent × Nat) := []
  calls : List Call := []
  writes : ClockEvent → Nat := fun _ => 0
  feeds : ClockEvent → Nat := fun _ => 0

inductive Reply where
  | failed
  | ok
  | position (position : Option GeoPoint)
  | area (inside : Bool)
  | time (serverTimeNow : Int) (areaNameEn areaNameTh : Option (List String))
      (userModel : Option UserModel)
  | counter (userModel : Option UserModel)

inductive Event where
  | build (version : Nat)
  | onClockPressed
  | onClockConfirmPressed (sheet : Nat) (command : String)
  | onDialogConfirmPressed (dialog : Nat)
  | dismissSheet (sheet : Nat)
  | dismissDialog (dialog : Nat)
  | reply (call : Nat) (r : Reply)

namespace State

def await (s : State) (c : Call) : State := { s with calls := c :: s.calls }

/-- Replace a model; whoever holds it sees the new one. -/
def setItem (s : State) (kind : ClockEvent) (item : Nat) (m : TaskModel) : State :=
  { s with items := Function.update s.items kind ((s.items kind).set item m) }

/-- The write that takes effect, followed by its news feed. -/
def land (s : State) (kind : ClockEvent) (item : Nat) (data : Payload) : State :=
  { s with
    doc := update s.doc data
    versions := s.versions ++ [update s.doc data]
    writes := Function.update s.writes kind (s.writes kind + 1)
    calls := ⟨kind, item, .processFeed⟩ :: s.calls }

/-- The number of confirmations of a kind that are under way. -/
def confirming (s : State) (kind : ClockEvent) : Nat :=
  s.calls.countP fun c => c.kind = kind && c.stage.confirms

def feeding (s : State) (kind : ClockEvent) : Nat :=
  s.calls.countP fun c => c.kind = kind && c.stage.feeds

end State

/-- What a reply does once its call is no longer in flight. -/
def resume (s : State) (c : Call) (m : TaskModel) : Stage → Reply → Option State
  | .geofences, .ok => some (s.await { c with stage := .position })
  | .position, .position _ =>
    some (State.await { s with onClockInOrClockOutPress := false }
      { c with stage := .sheetTime })
  | .sheetTime, .ok => some { s with sheets := s.sheets ++ [(c.kind, c.item)] }
  | .confirmPosition command, .position position =>
    some (s.await { c with stage := .confirmArea command position })
  | .confirmArea command position, .area inside =>
    let s := s.setItem c.kind c.item (confirmModel c.kind m position (some command))
    if inside then some (s.await { c with stage := .processTime })
    else some { s with dialogs := s.dialogs ++ [(c.kind, c.item)] }
  | .processTime, .time now areaNameEn areaNameTh userModel =>
    match processModel c.kind m now areaNameEn areaNameTh with
    | none => some s
    | some m' =>
      let s := s.setItem c.kind c.item m'
      if callsCounter c.kind m' then some (s.await { c with stage := .processCounter })
      else some (s.await { c with stage := .processUpdate (modelData c.kind m' userModel) })
  -- the counter's result is not looked at
  | .processCounter, .counter userModel =>
    some (s.await { c with stage := .processUpdate (modelData c.kind m userModel) })
  | .processUpdate data, .ok => some (s.land c.kind c.item data)
  | .processFeed, .ok =>
    some { s with feeds := Function.update s.feeds c.kind (s.feeds c.kind + 1) }
  | _, .failed => some s
  | _, _ => none

def step (taskId : String) (s : State) : Event → Option State
  | .build version => do
    let d ← s.versions[version]?
    let m ← fromDocumentSnapshot taskId d
    let _ ← m.startDate
    let _ ← m.finishDate
    let kind : Option ClockEvent :=
      if m.status = some TaskStatus.confirm then some .clockIn
      else if m.status = some TaskStatus.start then some .clockOut
      else none
    match kind with
    | none => return { s with button := none }
    | some kind =>
      return { s with
        items := Function.update s.items kind (s.items kind ++ [m])
        button := some ⟨kind, (s.items kind).length, !s.onClockInOrClockOutPress⟩ }
  | .onClockPressed => do
    let b ← s.button
    if b.enabled then
      let busy := match b.kind with
        | .clockIn => s.onClockInOrClockOutPress
        | .clockOut => true
      return State.await { s with onClockInOrClockOutPress := busy } ⟨b.kind, b.item, .geofences⟩
    else none
  | .onClockConfirmPressed sheet command => do
    let (kind, item) ← s.sheets[sheet]?
    return s.await ⟨kind, item, .confirmPosition command⟩
  | .onDialogConfirmPressed dialog => do
    let (kind, item) ← s.dialogs[dialog]?
    return s.await ⟨kind, item, .processTime⟩
  | .dismissSheet sheet => some { s with sheets := s.sheets.eraseIdx sheet }
  | .dismissDialog dialog => some { s with dialogs := s.dialogs.eraseIdx dialog }
  | .reply call r => do
    let (c, rest) ← takeOut s.calls call
    let m ← (s.items c.kind)[c.item]?
    resume { s with calls := rest } c m c.stage r

/-- The fields an operation stores about when, how and where it happened. -/
def timeFields : ClockEvent → List String
  | .clockIn => ["employee_start_time", "clock_in_status", "clock_in_location"]
  | .clockOut => ["employee_finish_time", "clock_out_status", "clock_out_location"]

/-- The stored status says that the operation has been recorded. -/
def Past (kind : ClockEvent) (d : Doc) : Prop :=
  match kind with
  | .clockIn => d "status" = .str TaskStatus.start ∨ d "status" = .str TaskStatus.done
  | .clockOut => d "status" = .str TaskStatus.done

/-- At most one write of each kind took effect and at most one feed was created for it. -/
def AtMostOnce (s : State) : Prop := ∀ kind, s.writes kind ≤ 1 ∧ s.feeds kind ≤ 1

/-- What an operation has stored does not change any more. -/
def KeepsTimes (s t : State) : Prop :=
  ∀ kind, 0 < s.writes kind ∨ Past kind s.doc → ∀ f ∈ timeFields kind, t.doc f = s.doc f

/-- The task waits for an operation and no confirmation of it is under way. -/
def Free (s : State) (kind : ClockEvent) : Prop :=
  s.confirming kind = 0 ∧ s.doc "status" = .str (sourceStatus kind)

/-- A confirm button, of a sheet or of the dialog, is pressed only while its operation is
free. -/
def ConfirmedInTurn (s : State) : Event → Prop
  | .onClockConfirmPressed sheet _ => ∀ k ∈ s.sheets[sheet]?, Free s k.1
  | .onDialogConfirmPressed dialog => ∀ k ∈ s.dialogs[dialog]?, Free s k.1
  | _ => True

instance (s : State) (kind : ClockEvent) : Decidable (Free s kind) :=
  inferInstanceAs (Decidable (_ ∧ _))

instance (s : State) (e : Event) : Decidable (ConfirmedInTurn s e) :=
  match e with
  | .onClockConfirmPressed sheet _ =>
    inferInstanceAs (Decidable (∀ k ∈ s.sheets[sheet]?, Free s k.1))
  | .onDialogConfirmPressed dialog =>
    inferInstanceAs (Decidable (∀ k ∈ s.dialogs[dialog]?, Free s k.1))
  | .build _ | .onClockPressed | .dismissSheet _ | .dismissDialog _ | .reply _ _ => isTrue trivial

/-- A model shows the clock-in that is stored. -/
structure Shows (d : Doc) (m : TaskModel) : Prop where
  driverStartAt : d "employee_start_time" = Codec.timestamp.encode m.driverStartAt
  clockInStatus : d "clock_in_status" = Codec.string.encode m.clockInStatus
  clockInLocation : d "clock_in_location" = Codec.geoPoint.encode m.clockInLocation

/-- What a call in flight was prepared with. -/
def Call.Sound (s : State) (c : Call) : Prop :=
  match c.stage with
  | .processCounter =>
    ∃ m, (s.items c.kind)[c.item]? = some m ∧ m.status = some (targetStatus c.kind)
  | .processUpdate data =>
    ∃ m userModel, data = modelData c.kind m userModel ∧ m.status = some (targetStatus c.kind) ∧
      (c.kind = .clockOut → Shows s.doc m)
  | _ => True

structure Inv (s : State) : Prop where
  one : ∀ kind, s.confirming kind ≤ 1
  waiting : ∀ kind, 0 < s.confirming kind → s.doc "status" = .str (sourceStatus kind)
  once : ∀ kind, s.writes kind ≤ 1
  past : ∀ kind, 0 < s.writes kind → Past kind s.doc
  feeds : ∀ kind, s.feeds kind + s.feeding kind ≤ s.writes kind
  versions : ∀ v ∈ s.versions, v "status" = .str TaskStatus.start →
    Past .clockIn s.doc ∧ ∀ f ∈ timeFields .clockIn, v f = s.doc f
  items : ∀ m ∈ s.items .clockOut, Past .clockIn s.doc ∧ Shows s.doc m
  calls : ∀ c ∈ s.calls, c.Sound s

/-- What has to hold for a call to be in flight next to the others. -/
structure Awaited (s : State) (c : Call) : Prop where
  free : c.stage.confirms = true → Free s c.kind
  feed : c.stage.feeds = true → s.feeds c.kind + s.feeding c.kind < s.writes c.kind
  sound : c.Sound s

theorem confirming_await (s : State) (c : Call) (kind : ClockEvent) :
    (s.await c).confirming kind =
      s.confirming kind + if c.kind = kind ∧ c.stage.confirms = true then 1 else 0 := by
  simp [State.confirming, State.await, List.countP_cons]

theorem feeding_await (s : State) (c : Call) (kind : ClockEvent) :
    (s.await c).feeding kind =
      s.feeding kind + if c.kind = kind ∧ c.stage.feeds = true then 1 else 0 := by
  simp [State.feeding, State.await, List.countP_cons]

/-- The invariant does not speak about the screen. -/
theorem Inv.screen {s : State} (h : Inv s) (button : Option Button) (busy : Bool)
    (sheets dialogs : List (ClockEvent × Nat)) :
    Inv { s with
      button := button
      onClockInOrClockOutPress := busy
      sheets := sheets
      dialogs := dialogs } :=
  ⟨h.one, h.waiting, h.once, h.past, h.feeds, h.versions, h.items, h.calls⟩

theorem Inv.await {s : State} (h : Inv s) {c : Call} (a : Awaited s c) : Inv (s.await c) := by
  refine ⟨fun kind => ?_, fun kind hk => ?_, h.once, h.past, fun kind => ?_, h.versions, h.items,
    fun d hd => ?_⟩
  · rw [confirming_await]
    have := h.one kind
    split
    · case isTrue hc =>
      obtain ⟨rfl, hc⟩ := hc
      have := (a.free hc).1
      omega
    · omega
  · rw [confirming_await] at hk
    split at hk
    · case isTrue hc =>
      obtain ⟨rfl, hc⟩ := hc
      exact (a.free hc).2
    · exact h.waiting kind hk
  · rw [feeding_await]
    have hf : s.feeds kind + s.feeding kind ≤ s.writes kind := h.feeds kind
    change s.feeds kind + _ ≤ s.writes kind
    split
    · case isTrue hc =>
      obtain ⟨rfl, hc⟩ := hc
      have := a.feed hc
      omega
    · omega
  · rcases List.mem_cons.mp hd with rfl | hd
    · exact a.sound
    · exact h.calls d hd

/-- A call taken out of flight was rightly there. -/
theorem Inv.takeOut {s : State} (h : Inv s) {i : Nat} {c : Call} {rest : List Call}
    (ht : takeOut s.calls i = some (c, rest)) :
    Inv { s with calls := rest } ∧ Awaited { s with calls := rest } c := by
  have hconf : ∀ kind, s.confirming kind = State.confirming { s with calls := rest } kind +
      if c.kind = kind ∧ c.stage.confirms = true then 1 else 0 := by
    intro kind
    have := countP_takeOut (fun c => c.kind = kind && c.stage.confirms) ht
    simpa [State.confirming] using this
  have hfeed : ∀ kind, s.feeding kind = State.feeding { s with calls := rest } kind +
      if c.kind = kind ∧ c.stage.feeds = true then 1 else 0 := by
    intro kind
    have := countP_takeOut (fun c => c.kind = kind && c.stage.feeds) ht
    simpa [State.feeding] using this
  constructor
  · refine ⟨fun kind => ?_, fun kind hk => ?_, h.once, h.past, fun kind => ?_, h.versions,
      h.items, fun d hd => h.calls d (mem_of_mem_rest ht hd)⟩
    · have := h.one kind
      have := hconf kind
      omega
    · refine h.waiting kind ?_
      have := hconf kind
      omega
    · have hf := h.feeds kind
      have := hfeed kind
      change s.feeds kind + _ ≤ s.writes kind
      omega
  · refine ⟨fun hc => ?_, fun hf => ?_, h.calls c (mem_takeOut ht)⟩
    · have hk := hconf c.kind
      rw [if_pos ⟨rfl, hc⟩] at hk
      have := h.one c.kind
      exact ⟨by omega, h.waiting c.kind (by omega)⟩
    · have hk := hfeed c.kind
      rw [if_pos ⟨rfl, hf⟩] at hk
      have hle := h.feeds c.kind
      change s.feeds c.kind + _ < s.writes c.kind
      omega

theorem setItem_items (s : State) (kind : ClockEvent) (item : Nat) (m : TaskModel) :
    (s.setItem kind item m).items =
      Function.update s.items kind ((s.items kind).set item m) := rfl

theorem getElem?_setItem_self {s : State} {kind : ClockEvent} {item : Nat} {m m' : TaskModel}
    (hm : (s.items kind)[item]? = some m) :
    ((s.setItem kind item m').items kind)[item]? = some m' := by
  rw [setItem_items, Function.update_self]
  exact List.getElem?_set_self (List.getElem?_eq_some_iff.mp hm).1

theorem getElem?_setItem {s : State} {kind k : ClockEvent} {item i : Nat} {m m' n : TaskModel}
    (hm : (s.items kind)[item]? = some m) (hn : (s.items k)[i]? = some n) :
    ((s.setItem kind item m').items k)[i]? = some (if k = kind ∧ i = item then m' else n) := by
  rw [setItem_items]
  by_cases hk : k = kind
  · subst hk
    rw [Function.update_self]
    by_cases hi : i = item
    · subst hi
      have hlt := (List.getElem?_eq_some_iff.mp hn).1
      simp [hlt]
    · rw [List.getElem?_set_ne (Ne.symm hi), hn]
      simp [hi]
  · rw [Function.update_of_ne hk, hn]
    simp [hk]

/-- Filling in a model does not disturb the calls in flight, as long as a model that has its
operation's status keeps it. -/
theorem Call.Sound.setItem {s : State} {c : Call} (h : c.Sound s) {kind : ClockEvent}
    {item : Nat} {m m' : TaskModel} (hm : (s.items kind)[item]? = some m)
    (status : m.status = some (targetStatus kind) → m'.status = some (targetStatus kind)) :
    c.Sound (s.setItem kind item m') := by
  unfold Call.Sound at h ⊢
  split
  · case h_1 hstage =>
    rw [hstage] at h
    obtain ⟨n, hn, hs⟩ := h
    refine ⟨_, getElem?_setItem hm hn, ?_⟩
    split
    · case isTrue hk =>
      obtain ⟨hk, hi⟩ := hk
      rw [hk, hi] at hn
      cases hn.symm.trans hm
      rw [hk] at hs ⊢
      exact status hs
    · exact hs
  · case h_2 hstage =>
    rw [hstage] at h
    exact h
  · trivial

theorem Inv.setItem {s : State} (h : Inv s) {kind : ClockEvent} {item : Nat} {m m' : TaskModel}
    (hm : (s.items kind)[item]? = some m)
    (status : m.status = some (targetStatus kind) → m'.status = some (targetStatus kind))
    (shows : kind = .clockOut → Shows s.doc m → Shows s.doc m') :
    Inv (s.setItem kind item m') := by
  refine ⟨h.one, h.waiting, h.once, h.past, h.feeds, h.versions, fun n hn => ?_,
    fun c hc => (h.calls c hc).setItem hm status⟩
  by_cases hk : kind = .clockOut
  · subst hk
    have hn : n ∈ (s.items .clockOut).set item m' := by
      simpa [State.setItem] using hn
    rcases List.mem_or_eq_of_mem_set hn with hn | rfl
    · exact h.items n hn
    · obtain ⟨hp, hs⟩ := h.items m (List.mem_of_getElem? hm)
      exact ⟨hp, shows rfl hs⟩
  · have hn : n ∈ s.items .clockOut := by
      simpa [State.setItem, Function.update_of_ne (Ne.symm hk)] using hn
    exact h.items n hn

theorem Awaited.setItem {s : State} {c : Call} (a : Awaited s c) {kind : ClockEvent}
    {item : Nat} {m m' : TaskModel} (hm : (s.items kind)[item]? = some m)
    (status : m.status = some (targetStatus kind) → m'.status = some (targetStatus kind)) :
    Awaited (s.setItem kind item m') c :=
  ⟨a.free, a.feed, a.sound.setItem hm status⟩

theorem Shows.confirmModel {d : Doc} {m : TaskModel} (h : Shows d m) (position : Option GeoPoint)
    (command : Option String) : Shows d (confirmModel .clockOut m position command) :=
  ⟨h.driverStartAt, h.clockInStatus, h.clockInLocation⟩

theorem Shows.processModel {d : Doc} {m m' : TaskModel} (h : Shows d m) {now : Int}
    {en th : Option (List String)} (hp : processModel .clockOut m now en th = some m') :
    Shows d m' := by
  obtain ⟨finishDate, -, rfl⟩ := clockOutProcess_eq_some hp
  exact ⟨h.driverStartAt, h.clockInStatus, h.clockInLocation⟩

/-- Sending a model back leaves the clock-in it shows as it is stored. -/
theorem Shows.update {d : Doc} {m : TaskModel} (h : Shows d m) (kind : ClockEvent)
    (userModel : Option UserModel) :
    ∀ f ∈ timeFields .clockIn, update d (modelData kind m userModel) f = d f := by
  simp only [timeFields, List.mem_cons, List.not_mem_nil, or_false]
  rintro f (rfl | rfl | rfl)
  · rw [update_modelData (driverStartAt_mem_toJson m _), h.driverStartAt]
  · rw [update_modelData (clockInStatus_mem_toJson m _), h.clockInStatus]
  · rw [update_modelData (clockInLocation_mem_toJson m _), h.clockInLocation]

theorem Shows.of_same {d d' : Doc} {m : TaskModel} (h : Shows d m)
    (same : ∀ f ∈ timeFields .clockIn, d' f = d f) : Shows d' m := by
  refine ⟨?_, ?_, ?_⟩
  · rw [same _ (by decide), h.driverStartAt]
  · rw [same _ (by decide), h.clockInStatus]
  · rw [same _ (by decide), h.clockInLocation]

theorem confirmModel_status {kind : ClockEvent} {m : TaskModel} {position : Option GeoPoint}
    {command : Option String} : (confirmModel kind m position command).status = m.status := by
  cases kind <;> rfl

/-- While an operation is waited for it is not recorded yet. -/
theorem not_past_of_source {kind : ClockEvent} {d : Doc}
    (h : d "status" = .str (sourceStatus kind)) : ¬ Past kind d := by
  unfold Past
  cases kind with
  | clockIn => rw [h]; decide
  | clockOut => rw [h]; decide

theorem past_of_target {kind : ClockEvent} {d : Doc}
    (h : d "status" = .str (targetStatus kind)) : Past kind d := by
  cases kind with
  | clockIn => exact Or.inl h
  | clockOut => exact h

/-- A clock-out is recorded on top of a clock-in. -/
theorem Past.clockIn {kind : ClockEvent} {d : Doc} (h : Past kind d) : Past .clockIn d := by
  cases kind with
  | clockIn => exact h
  | clockOut => exact Or.inr h

theorem sourceStatus_injective {kind kind' : ClockEvent}
    (h : sourceStatus kind = sourceStatus kind') : kind = kind' := by
  cases kind <;> cases kind' <;> first | rfl | exact absurd h (by decide)

/-- What the write that is about to land does to the document. -/
structure Landing (s : State) (kind : ClockEvent) (data : Payload) : Prop where
  waiting : s.doc "status" = .str (sourceStatus kind)
  stored : update s.doc data "status" = .str (targetStatus kind)
  clockIn : kind = .clockOut → ∀ f ∈ timeFields .clockIn, update s.doc data f = s.doc f

theorem Awaited.landing {s : State} {kind : ClockEvent} {item : Nat} {data : Payload}
    (a : Awaited s ⟨kind, item, .processUpdate data⟩) : Landing s kind data := by
  obtain ⟨m, userModel, hdata, hs, hshows⟩ := a.sound
  have hdata : data = modelData kind m userModel := hdata
  subst hdata
  refine ⟨(a.free rfl).2, ?_, fun hk => ?_⟩
  · rw [update_modelData (status_mem_toJson m _), hs]
    rfl
  · exact (hshows hk).update kind userModel

/-- Nothing that is recorded changes when a write lands. -/
theorem Landing.keepsTimes {s : State} (h : Inv s) {kind : ClockEvent} {data : Payload}
    (l : Landing s kind data) (item : Nat) : KeepsTimes s (s.land kind item data) := by
  intro kind' hk f hf
  have hpast : Past kind' s.doc := by
    rcases hk with hw | hp
    · exact h.past kind' hw
    · exact hp
  cases kind with
  | clockIn => exact absurd hpast.clockIn (not_past_of_source l.waiting)
  | clockOut =>
    cases kind' with
    | clockIn => exact l.clockIn rfl f hf
    | clockOut => exact absurd hpast (not_past_of_source l.waiting)

theorem Inv.land {s : State} (h : Inv s) {kind : ClockEvent} {item : Nat} {data : Payload}
    (a : Awaited s ⟨kind, item, .processUpdate data⟩) : Inv (s.land kind item data) := by
  have l := a.landing
  have hnew : Past kind (update s.doc data) := past_of_target l.stored
  have hidle : ∀ kind', s.confirming kind' = 0 := by
    intro kind'
    by_contra hne
    have hw := h.waiting kind' (by omega)
    rw [l.waiting, Value.str.injEq] at hw
    have hk := sourceStatus_injective hw
    have hfree : s.confirming kind = 0 := (a.free rfl).1
    subst hk
    omega
  have hfirst : s.writes kind = 0 := by
    by_contra hne
    exact not_past_of_source l.waiting (h.past kind (by omega))
  have hcount : ∀ kind', (s.land kind item data).confirming kind' = s.confirming kind' := by
    intro kind'
    simp [State.confirming, State.land, Stage.confirms]
  have hwrites : ∀ kind', kind' ≠ kind → (s.land kind item data).writes kind' = s.writes kind' :=
    fun kind' hne => Function.update_of_ne hne _ _
  have hwrite : (s.land kind item data).writes kind = s.writes kind + 1 :=
    Function.update_self _ _ _
  -- only a clock-out can land on a document that shows a clock-in
  have hout : Past .clockIn s.doc → kind = .clockOut := by
    intro hp
    cases kind with
    | clockIn => exact absurd hp (not_past_of_source l.waiting)
    | clockOut => rfl
  refine ⟨fun kind' => ?_, fun kind' hk => ?_, fun kind' => ?_, fun kind' hk => ?_,
    fun kind' => ?_, fun v hv hs => ?_, fun m hm => ?_, fun c hc => ?_⟩
  · rw [hcount, hidle]
    omega
  · rw [hcount, hidle] at hk
    omega
  · by_cases hk : kind' = kind
    · rw [hk, hwrite]
      omega
    · rw [hwrites kind' hk]
      exact h.once kind'
  · by_cases hne : kind' = kind
    · rw [hne]
      exact hnew
    · rw [hwrites kind' hne] at hk
      have hk := hout (h.past kind' hk).clockIn
      subst hk
      cases kind' with
      | clockIn => exact hnew.clockIn
      | clockOut => exact absurd rfl hne
  · have hf := h.feeds kind'
    have hfeed : (s.land kind item data).feeding kind' =
        s.feeding kind' + if kind = kind' then 1 else 0 := by
      simp [State.feeding, State.land, List.countP_cons, Stage.feeds]
    change s.feeds kind' + _ ≤ _
    rw [hfeed]
    by_cases hk : kind = kind'
    · subst hk
      rw [hwrite, if_pos rfl]
      omega
    · rw [hwrites kind' (Ne.symm hk), if_neg hk]
      omega
  · rcases List.mem_append.mp hv with hv | hv
    · obtain ⟨hp, hsame⟩ := h.versions v hv hs
      have hk := hout hp
      refine ⟨hnew.clockIn, fun f hf => ?_⟩
      rw [hsame f hf]
      exact (l.clockIn hk f hf).symm
    · rw [List.mem_singleton.mp hv]
      exact ⟨hnew.clockIn, fun f _ => rfl⟩
  · obtain ⟨hp, hshows⟩ := h.items m hm
    exact ⟨hnew.clockIn, hshows.of_same (l.clockIn (hout hp))⟩
  · rcases List.mem_cons.mp hc with rfl | hc
    · trivial
    · have hnot : c.stage.confirms = false := by
        by_contra hcon
        have hpos : 0 < s.confirming c.kind :=
          List.countP_pos_iff.mpr ⟨c, hc, by simpa using hcon⟩
        have := hidle c.kind
        omega
      unfold Call.Sound
      split
      · case h_1 hstage => rw [hstage] at hnot; cases hnot
      · case h_2 hstage => rw [hstage] at hnot; cases hnot
      · trivial

/-- The stages that neither confirm nor create a feed need nothing to be in flight. -/
theorem awaited_of_idle (s : State) (c : Call) (hc : c.stage.confirms = false)
    (hf : c.stage.feeds = false) : Awaited s c := by
  refine ⟨fun h => ?_, fun h => ?_, ?_⟩
  · rw [hc] at h
    cases h
  · rw [hf] at h
    cases h
  · unfold Call.Sound
    split
    · case h_1 hstage => rw [hstage] at hc; cases hc
    · case h_2 hstage => rw [hstage] at hc; cases hc
    · trivial

/-- A confirmation that was rightly under way goes on to its next stage. -/
theorem Awaited.next {s : State} {c : Call} (a : Awaited s c) (hc : c.stage.confirms = true)
    (stage : Stage) (hf : stage.feeds = false)
    (hsound : Call.Sound s { c with stage := stage }) :
    Awaited s { c with stage := stage } := by
  refine ⟨fun _ => a.free hc, fun h => ?_, hsound⟩
  rw [show stage.feeds = false from hf] at h
  cases h

theorem Inv.createFeed {s : State} (h : Inv s) {kind : ClockEvent}
    (hf : s.feeds kind + s.feeding kind < s.writes kind) :
    Inv { s with feeds := Function.update s.feeds kind (s.feeds kind + 1) } := by
  refine ⟨h.one, h.waiting, h.once, h.past, fun kind' => ?_, h.versions, h.items, h.calls⟩
  change Function.update s.feeds kind (s.feeds kind + 1) kind' + s.feeding kind' ≤ s.writes kind'
  by_cases hk : kind' = kind
  · subst hk
    rw [Function.update_self]
    omega
  · rw [Function.update_of_ne hk]
    exact h.feeds kind'

/-- A model of a clock-out button shows the stored clock-in. -/
theorem Inv.shows {s : State} (h : Inv s) {kind : ClockEvent} {item : Nat} {m : TaskModel}
    (hm : (s.items kind)[item]? = some m) (hk : kind = .clockOut) : Shows s.doc m := by
  subst hk
  exact (h.items m (List.mem_of_getElem? hm)).2

/-- The reply of the geofencing service: position and remark go into the model. -/
theorem Inv.confirm {s : State} (h : Inv s) {kind : ClockEvent} {item : Nat} {m : TaskModel}
    (hm : (s.items kind)[item]? = some m) (position : Option GeoPoint) (command : Option String) :
    Inv (s.setItem kind item (confirmModel kind m position command)) := by
  refine h.setItem hm (fun hs => ?_) (fun hk hs => ?_)
  · rw [confirmModel_status]
    exact hs
  · subst hk
    exact hs.confirmModel position command

/-- The reply of the time server: the process fills in the model. -/
theorem Inv.process {s : State} (h : Inv s) {kind : ClockEvent} {item : Nat} {m m' : TaskModel}
    (hm : (s.items kind)[item]? = some m) {now : Int} {en th : Option (List String)}
    (hp : processModel kind m now en th = some m') : Inv (s.setItem kind item m') := by
  refine h.setItem hm (fun _ => processModel_status hp) (fun hk hs => ?_)
  subst hk
  exact hs.processModel hp

/-- Every reply keeps the invariant, and only the reply to a task write touches the document. -/
theorem resume_inv {s t : State} {c : Call} {m : TaskModel} {r : Reply} (h : Inv s)
    (a : Awaited s c) (hm : (s.items c.kind)[c.item]? = some m)
    (hr : resume s c m c.stage r = some t) :
    Inv t ∧ ((∃ data, c.stage = .processUpdate data ∧ t = s.land c.kind c.item data) ∨
      t.doc = s.doc) := by
  obtain ⟨kind, item, stage⟩ := c
  have hm : (s.items kind)[item]? = some m := hm
  have hr : resume s ⟨kind, item, stage⟩ m stage r = some t := hr
  cases r with
  | failed =>
    cases stage <;> (cases hr; exact ⟨h, Or.inr rfl⟩)
  | ok =>
    cases stage with
    | geofences =>
      cases hr
      exact ⟨h.await (awaited_of_idle _ _ rfl rfl), Or.inr rfl⟩
    | sheetTime =>
      cases hr
      exact ⟨h.screen _ _ _ _, Or.inr rfl⟩
    | processUpdate data =>
      cases hr
      exact ⟨h.land a, Or.inl ⟨data, rfl, rfl⟩⟩
    | processFeed =>
      cases hr
      exact ⟨h.createFeed (a.feed rfl), Or.inr rfl⟩
    | _ => cases hr
  | position position =>
    cases stage with
    | position =>
      cases hr
      exact ⟨(h.screen s.button false s.sheets s.dialogs).await (awaited_of_idle _ _ rfl rfl),
        Or.inr rfl⟩
    | confirmPosition command =>
      cases hr
      exact ⟨h.await (a.next rfl _ rfl trivial), Or.inr rfl⟩
    | _ => cases hr
  | area inside =>
    cases stage with
    | confirmArea command position =>
      have hi := h.confirm hm position (some command)
      have a' : Awaited (s.setItem kind item (confirmModel kind m position (some command))) _ :=
        a.setItem hm fun hs => confirmModel_status.trans hs
      cases inside with
      | true =>
        cases hr
        exact ⟨hi.await (a'.next rfl _ rfl trivial), Or.inr rfl⟩
      | false =>
        cases hr
        exact ⟨hi.screen _ _ _ _, Or.inr rfl⟩
    | _ => cases hr
  | time now en th userModel =>
    cases stage with
    | processTime =>
      cases hp : processModel kind m now en th with
      | none =>
        simp only [resume, hp] at hr
        cases hr
        exact ⟨h, Or.inr rfl⟩
      | some m' =>
        have hi := h.process hm hp
        have hs := processModel_status hp
        have a' : Awaited (s.setItem kind item m') ⟨kind, item, .processTime⟩ :=
          a.setItem hm fun _ => hs
        simp only [resume, hp] at hr
        split at hr
        · cases hr
          refine ⟨hi.await (a'.next rfl _ rfl ⟨m', ?_, hs⟩), Or.inr rfl⟩
          exact getElem?_setItem_self hm
        · cases hr
          refine ⟨hi.await (a'.next rfl _ rfl ⟨m', userModel, rfl, hs, fun hk => ?_⟩), Or.inr rfl⟩
          have hk : kind = .clockOut := hk
          have hshow := h.shows hm hk
          subst hk
          exact hshow.processModel hp
    | _ => cases hr
  | counter userModel =>
    cases stage with
    | processCounter =>
      obtain ⟨n, hn, hs⟩ := a.sound
      cases hm.symm.trans hn
      cases hr
      exact ⟨h.await (a.next rfl _ rfl ⟨m, userModel, rfl, hs, h.shows hm⟩), Or.inr rfl⟩
    | _ => cases hr

/-- A build decodes a version that shows the stored clock-in when its button clocks out. -/
theorem Inv.build {s : State} (h : Inv s) {taskId : String} {v : Doc} (hv : v ∈ s.versions)
    {m : TaskModel} (hm : fromDocumentSnapshot taskId v = some m) (kind : ClockEvent)
    (hs : m.status = some (sourceStatus kind)) (button : Option Button) :
    Inv { s with
      items := Function.update s.items kind (s.items kind ++ [m])
      button := button } := by
  refine ⟨h.one, h.waiting, h.once, h.past, h.feeds, h.versions, fun n hn => ?_, fun c hc => ?_⟩
  · by_cases hk : kind = .clockOut
    · subst hk
      have hn : n ∈ s.items .clockOut ++ [m] := by simpa using hn
      rcases List.mem_append.mp hn with hn | hn
      · exact h.items n hn
      · have d := fromDocumentSnapshot_eq_some hm
        have hstart : v "status" = .str TaskStatus.start := by rw [d.status, hs]; rfl
        obtain ⟨hp, hsame⟩ := h.versions v hv hstart
        have hshow : Shows v m := ⟨d.driverStartAt, d.clockInStatus, d.clockInLocation⟩
        rw [List.mem_singleton.mp hn]
        exact ⟨hp, hshow.of_same fun f hf => (hsame f hf).symm⟩
    · have hn : n ∈ s.items .clockOut := by
        simpa [Function.update_of_ne (Ne.symm hk)] using hn
      exact h.items n hn
  · have hsound := h.calls c hc
    unfold Call.Sound at hsound ⊢
    split
    · case h_1 hstage =>
      rw [hstage] at hsound
      obtain ⟨n, hn, hs⟩ := hsound
      refine ⟨n, ?_, hs⟩
      by_cases hk : c.kind = kind
      · rw [hk] at hn ⊢
        have hlt := (List.getElem?_eq_some_iff.mp hn).1
        simpa [List.getElem?_append_left hlt] using hn
      · simpa [Function.update_of_ne hk] using hn
    · case h_2 hstage =>
      rw [hstage] at hsound
      exact hsound
    · trivial

theorem step_inv {taskId : String} {s t : State} {e : Event} (h : Inv s)
    (hc : ConfirmedInTurn s e) (hstep : step taskId s e = some t) :
    Inv t ∧ KeepsTimes s t := by
  have same : t.doc = s.doc → KeepsTimes s t := fun hd _ _ f _ => by rw [hd]
  cases e with
  | build version =>
    obtain ⟨v, hv, hstep⟩ := Option.bind_eq_some_iff.mp hstep
    obtain ⟨m, hm, hstep⟩ := Option.bind_eq_some_iff.mp hstep
    obtain ⟨_, -, hstep⟩ := Option.bind_eq_some_iff.mp hstep
    obtain ⟨_, -, hstep⟩ := Option.bind_eq_some_iff.mp hstep
    have hv := List.mem_of_getElem? hv
    by_cases hconf : m.status = some TaskStatus.confirm
    · simp only [hconf, if_true] at hstep
      cases hstep
      exact ⟨h.build hv hm .clockIn hconf _, same rfl⟩
    · by_cases hstart : m.status = some TaskStatus.start
      · have hne : ¬ some TaskStatus.start = some TaskStatus.confirm := by decide
        simp only [hstart, if_neg hne, if_true] at hstep
        cases hstep
        exact ⟨h.build hv hm .clockOut hstart _, same rfl⟩
      · simp only [hconf, hstart, if_false] at hstep
        cases hstep
        exact ⟨h.screen _ _ _ _, same rfl⟩
  | onClockPressed =>
    obtain ⟨b, -, hstep⟩ := Option.bind_eq_some_iff.mp hstep
    split at hstep
    · cases hstep
      exact ⟨(h.screen s.button _ s.sheets s.dialogs).await (awaited_of_idle _ _ rfl rfl), same rfl⟩
    · cases hstep
  | onClockConfirmPressed sheet command =>
    obtain ⟨⟨kind, item⟩, hs, hstep⟩ := Option.bind_eq_some_iff.mp hstep
    cases hstep
    exact ⟨h.await ⟨fun _ => hc (kind, item) hs, fun hf => Bool.noConfusion hf, trivial⟩, same rfl⟩
  | onDialogConfirmPressed dialog =>
    obtain ⟨⟨kind, item⟩, hs, hstep⟩ := Option.bind_eq_some_iff.mp hstep
    cases hstep
    exact ⟨h.await ⟨fun _ => hc (kind, item) hs, fun hf => Bool.noConfusion hf, trivial⟩, same rfl⟩
  | dismissSheet sheet =>
    cases hstep
    exact ⟨h.screen _ _ _ _, same rfl⟩
  | dismissDialog dialog =>
    cases hstep
    exact ⟨h.screen _ _ _ _, same rfl⟩
  | reply call r =>
    obtain ⟨⟨c, rest⟩, ht, hstep⟩ := Option.bind_eq_some_iff.mp hstep
    obtain ⟨m, hm, hstep⟩ := Option.bind_eq_some_iff.mp hstep
    obtain ⟨h', a⟩ := h.takeOut ht
    obtain ⟨hi, hland⟩ := resume_inv h' a hm hstep
    refine ⟨hi, ?_⟩
    rcases hland with ⟨data, hstage, rfl⟩ | hd
    · have l : Landing { s with calls := rest } c.kind data := by
        obtain ⟨kind, item, stage⟩ := c
        have hstage : stage = .processUpdate data := hstage
        subst hstage
        exact a.landing
      exact l.keepsTimes h' c.item
    · exact same hd

/-- A task that has just been opened: nothing is under way yet. -/
def opened (doc : Doc) : State where
  doc := doc
  versions := [doc]

theorem opened_inv (doc : Doc) : Inv (opened doc) := by
  refine ⟨fun _ => Nat.zero_le 1, fun _ h => absurd h (Nat.lt_irrefl 0), fun _ => Nat.zero_le 1,
    fun _ h => absurd h (Nat.lt_irrefl 0), fun _ => Nat.le_refl 0, fun v hv hs => ?_,
    fun m hm => absurd hm List.not_mem_nil, fun c hc => absurd hc List.not_mem_nil⟩
  rw [List.mem_singleton.mp hv] at hs ⊢
  exact ⟨Or.inl hs, fun f _ => rfl⟩

theorem Inv.atMostOnce {s : State} (h : Inv s) : AtMostOnce s := by
  intro kind
  have := h.once kind
  have := h.feeds kind
  exact ⟨by omega, by omega⟩

/-- Whatever overlaps: when every confirmation is pressed in its turn, each operation takes
effect at most once, its feed is created at most once, and what it stored stays. -/
theorem clocked_once (taskId : String) (doc : Doc) {es : List Event}
    (inTurn : EveryStep (step taskId) ConfirmedInTurn (opened doc) es) :
    EveryState (step taskId) AtMostOnce (opened doc) es ∧
      EveryStep (step taskId) (Moves (step taskId) KeepsTimes) (opened doc) es := by
  constructor
  · have hinv := everyState_of_everyStep (fun _ _ _ h hc ht => (step_inv h hc ht).1)
      (opened_inv doc) inTurn
    exact hinv.mono fun _ h => h.atMostOnce
  · refine everyStep_of_everyStep (fun _ _ _ (h : Inv _) hc ht => (step_inv h hc ht).1)
      (fun s e t h hc ht => ?_) (opened_inv doc) inTurn
    exact (moves_iff ht).mpr (step_inv h hc ht).2

/-- From the clock-in button to its sheet. -/
def openSheet : List Event :=
  [.build 0, .onClockPressed, .reply 0 .ok, .reply 0 (.position none), .reply 0 .ok]

/-- One confirmation inside a geofence, up to the news feed. -/
theorem clocked_once_single :
    EveryState (step "t1") AtMostOnce (opened (plannedTask "confirm" 100 200))
        (openSheet ++ [.onClockConfirmPressed 0 "", .reply 0 (.position none),
          .reply 0 (.area true), .reply 0 (.time 90 none none none), .reply 0 .ok,
          .reply 0 .ok]) ∧
      EveryStep (step "t1") (Moves (step "t1") KeepsTimes)
        (opened (plannedTask "confirm" 100 200))
        (openSheet ++ [.onClockConfirmPressed 0 "", .reply 0 (.position none),
          .reply 0 (.area true), .reply 0 (.time 90 none none none), .reply 0 .ok,
          .reply 0 .ok]) :=
  clocked_once "t1" (plannedTask "confirm" 100 200) (by decide)

/-- The sheet's confirm button is pressed twice before the position arrives. -/
theorem double_press_clocks_in_twice :
    ¬ ∀ (taskId : String) (doc : Doc) (es : List Event),
        EveryState (step taskId) AtMostOnce (opened doc) es ∧
          EveryStep (step taskId) (Moves (step taskId) KeepsTimes) (opened doc) es := by
  intro claim
  refine not_everyState_of_run (fun t => t.writes .clockIn = 2) ?_ ?_
    (claim "t1" (plannedTask "confirm" 100 200)
      (openSheet ++ [.onClockConfirmPressed 0 "", .onClockConfirmPressed 0 "",
        .reply 1 (.position none), .reply 1 (.position none),
        .reply 1 (.area true), .reply 1 (.area true),
        .reply 1 (.time 90 none none none), .reply 1 (.time 95 none none none),
        .reply 1 .ok, .reply 1 .ok])).1
  · intro t hbad h
    have := (h .clockIn).1
    have := of_decide_eq_true hbad
    omega
  · decide

end ClockOnce
