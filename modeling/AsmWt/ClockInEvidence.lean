import AsmWt.LocationEvidence

/-!
# The clock-in evidence after a clock-out

A clock-out sends the whole task model of its page. What the page knows of the
clock-in was read from the stored task or filled in by the clock-in itself, and
the lists of area names it may refer to are never extended again once the
service has new ones.
-/

namespace ClockInEvidence

open KeyedRecord Firestore TasksModel UserProfile ClockProcess Interleaving PendingCalls
open LocationEvidence

/-- The fields a clock-in records for good. -/
def evidenceKeys : List String :=
  ["employee_start_time", "clock_in_status", "clock_in_location", "clock_in_command",
    "clock_in_area_en", "clock_in_area_th"] ++ profileKeys

def SameEvidence (doc stored : Doc) : Prop := ∀ k ∈ evidenceKeys, stored k = doc k

/-- The model holds the evidence of the task, the area names only if it holds any. -/
structure Shows (doc : Doc) (m : TaskModel) : Prop where
  driverStartAt : doc "employee_start_time" = Codec.timestamp.encode m.driverStartAt
  clockInStatus : doc "clock_in_status" = Codec.string.encode m.clockInStatus
  clockInLocation : doc "clock_in_location" = Codec.geoPoint.encode m.clockInLocation
  clockInCommand : doc "clock_in_command" = Codec.string.encode m.clockInCommand
  area : ∀ l names, areaOf .clockIn l m = some names → doc (areaKey .clockIn l) = .strings names

/-- The kind of the confirm press a call belongs to. -/
def kindOf : Call → Option ClockEvent
  | .getGeofencingArea _ _ | .determinePosition _ _ => none
  | .confirmPosition press | .confirmInGeofencingArea press _ => some press.kind
  | .ntpNow op | .counter op => some op.kind

/-- Only clock-outs are confirmed, and the pages of the task are built from a snapshot with the
evidence of the clock-in. -/
def ClocksOut (taskId : Option String) (doc : Doc) (s : State) : Event → Prop
  | .build m =>
    m.taskId = taskId → ∃ id stored, SameEvidence doc stored ∧
      fromDocumentSnapshot id stored = some m
  | .onClockConfirmPressed sheet _ => ∀ x ∈ s.sheets[sheet]?, x.1 = .clockOut
  | .onDialogConfirmed dialog => ∀ op ∈ s.dialogs[dialog]?, op.kind = .clockOut
  | .getUserDataByUserId _ | .onClockPressed _ _ | .popSheet _ | .popDialog _ | .resume _ _ => True

/-- The page of the clock-in, or one that is built after it. -/
def Follows (clockIn : Write) (objects : Nat) (object : Nat) : Prop :=
  object = clockIn.op.press.object ∨ objects ≤ object

/-- A write that follows the clock-in of its task is a clock-out that leaves the evidence as it
is. -/
def KeepsEvidence (clockIn : Write) (objects : Nat) (doc : Doc) (s : State) (e : Event) : Prop :=
  ∀ t w, step s e = some t → t.writes = w :: s.writes → w.taskId = clockIn.taskId →
    Follows clockIn objects w.op.press.object →
      w.op.kind = .clockOut ∧
        ∀ stored, SameEvidence doc stored → SameEvidence doc (update stored w.data)

section Model

variable {doc stored : Doc} {m : TaskModel}

theorem profileKeys_disjoint : ∀ k ∈ profileKeys, k ∉ jsonKeys := by decide

theorem areaKey_mem_evidenceKeys (l : Language) : areaKey .clockIn l ∈ evidenceKeys := by
  cases l <;> decide

/-- A model without lists does not send the field of the area names. -/
theorem areaKey_mem_toJson_iff {kind : ClockEvent} {l : Language} {w : Value} :
    (areaKey kind l, w) ∈ toJson m (some false) ↔ (areaOf kind l m).map Value.strings = some w := by
  cases kind <;> cases l <;> simp [toJson, areaKey, areaOf, mem_optional]

/-- Sending a model that shows the evidence keeps it. -/
theorem Shows.sameEvidence_update (h : Shows doc m) (same : SameEvidence doc stored) :
    SameEvidence doc (update stored (clockOutData m)) := by
  have sent : ∀ k, ∀ w, (k, w) ∈ toJson m (some false) → doc k = w →
      update stored (clockOutData m) k = doc k := by
    intro k w hw hk
    rw [hk]
    exact update_of_mem (keys_clockOutData_nodup m) hw
  have named : ∀ l, update stored (clockOutData m) (areaKey .clockIn l) =
      doc (areaKey .clockIn l) := by
    intro l
    cases hnames : areaOf .clockIn l m with
    | some names =>
      refine sent _ (.strings names) (areaKey_mem_toJson_iff.mpr ?_) (h.area l names hnames)
      rw [hnames]
      rfl
    | none =>
      rw [update_of_not_mem, same _ (areaKey_mem_evidenceKeys l)]
      intro hmem
      obtain ⟨⟨k, w⟩, hw, hk⟩ := List.mem_map.mp hmem
      cases hk
      have hsent := areaKey_mem_toJson_iff.mp hw
      rw [hnames] at hsent
      cases hsent
  intro k hk
  rcases List.mem_append.mp hk with hk | hk
  · simp only [List.mem_cons, List.not_mem_nil, or_false] at hk
    rcases hk with rfl | rfl | rfl | rfl | rfl | rfl
    · exact sent _ _ (driverStartAt_mem_toJson m _) h.driverStartAt
    · exact sent _ _ (clockInStatus_mem_toJson m _) h.clockInStatus
    · exact sent _ _ (clockInLocation_mem_toJson m _) h.clockInLocation
    · exact sent _ _ (by simp [toJson]) h.clockInCommand
    · exact named .en
    · exact named .th
  · rw [update_of_not_mem, same k (List.mem_append_right _ hk)]
    exact fun hmem => profileKeys_disjoint k hk ((keys_toJson_sublist m _).subset hmem)

/-- A model that was read from the task shows the evidence and has no area names. -/
theorem Shows.of_decodes {id : String} (same : SameEvidence doc stored)
    (h : fromDocumentSnapshot id stored = some m) : Shows doc m := by
  have decodes := fromDocumentSnapshot_eq_some h
  refine ⟨?_, ?_, ?_, ?_, ?_⟩
  · rw [← same _ (by decide)]
    exact decodes.driverStartAt
  · rw [← same _ (by decide)]
    exact decodes.clockInStatus
  · rw [← same _ (by decide)]
    exact decodes.clockInLocation
  · rw [← same _ (by decide)]
    exact decodes.clockInCommand
  · intro l names hnames
    cases l with
    | en => cases decodes.clockInAreaEn.symm.trans hnames
    | th => cases decodes.clockInAreaTh.symm.trans hnames

/-- The model of a clock-in shows what its write has stored. -/
theorem Shows.of_clockIn (m : TaskModel) (userModel : Option UserModel) (d : Doc) :
    Shows (update d (modelData .clockIn m userModel)) m where
  driverStartAt := update_modelData (driverStartAt_mem_toJson m _) userModel d
  clockInStatus := update_modelData (clockInStatus_mem_toJson m _) userModel d
  clockInLocation := update_modelData (clockInLocation_mem_toJson m _) userModel d
  clockInCommand := update_modelData (by simp [toJson]) userModel d
  area := by
    intro l names hnames
    rw [update_area, hnames]
    rfl

end Model

/-- What a clock-out does not touch in a task object. -/
structure SameClockIn (o o' : TaskObject) : Prop where
  taskId : o'.taskModel.taskId = o.taskModel.taskId
  driverStartAt : o'.taskModel.driverStartAt = o.taskModel.driverStartAt
  clockInStatus : o'.taskModel.clockInStatus = o.taskModel.clockInStatus
  clockInLocation : o'.taskModel.clockInLocation = o.taskModel.clockInLocation
  clockInCommand : o'.taskModel.clockInCommand = o.taskModel.clockInCommand
  area : o'.area .clockIn = o.area .clockIn

theorem SameClockIn.refl (o : TaskObject) : SameClockIn o o := ⟨rfl, rfl, rfl, rfl, rfl, rfl⟩

theorem SameClockIn.confirm (o : TaskObject) {op : Operation} (h : op.kind = .clockOut) :
    SameClockIn o (o.confirm op) := by
  have hm : (o.confirm op).taskModel =
      onClockOutConfirmPressed o.taskModel op.position op.press.command := by
    rw [TaskObject.confirm, h]
    rfl
  constructor
  case area => rfl
  all_goals
    rw [hm]
    rfl

theorem SameClockIn.process (o : TaskObject) {m : TaskModel} {now : Int} (lists : Option Nat)
    (h : processModel .clockOut o.taskModel now none none = some m) :
    SameClockIn o (o.process .clockOut m lists) := by
  obtain ⟨finishDate, -, rfl⟩ := clockOutProcess_eq_some h
  exact ⟨rfl, rfl, rfl, rfl, rfl, rfl⟩

section Step

variable {s t : State} {e : Event} {op : Operation}

@[simp] theorem objects_write : (s.write op).objects = s.objects := by
  rw [State.write]
  split <;> rfl

@[simp] theorem lists_write : (s.write op).lists = s.lists := by
  rw [State.write]
  split <;> rfl

@[simp] theorem calls_write : (s.write op).calls = s.calls := by
  rw [State.write]
  split <;> rfl

/-- A process ends at once, or fills in its object and goes on to its counter or its write. -/
theorem process_cases (s : State) (op : Operation) (now : Int) :
    s.process op now = s ∨ ∃ o m, s.objects[op.press.object]? = some o ∧
      processModel op.kind o.taskModel now none none = some m ∧
      (s.process op now = (processed s op m).await (.counter op) ∨
        s.process op now = (processed s op m).write op) := by
  cases ho : s.objects[op.press.object]? with
  | none => exact .inl (by simp only [State.process, ho])
  | some o =>
    cases hm : processModel op.kind o.taskModel now none none with
    | none => exact .inl (by simp only [State.process, ho, hm])
    | some m =>
      refine .inr ⟨o, m, rfl, hm, ?_⟩
      rw [process_eq ho hm]
      split
      · exact .inl rfl
      · exact .inr rfl

/-- Where a task object comes from in a step, `kinds` being those of the calls in flight. -/
inductive From (s : State) (e : Event) (kinds : ClockEvent → Prop) (j : Nat) (o' : TaskObject) :
    Prop
  | same (h : s.objects[j]? = some o')
  | built (m : TaskModel) (he : e = .build m) (ho : o' = { taskModel := m })
  | confirmed (o : TaskObject) (op : Operation) (h : s.objects[j]? = some o)
      (kind : kinds op.kind) (ho : o' = o.confirm op)
  | processed (o : TaskObject) (kind : ClockEvent) (m : TaskModel) (now : Int)
      (h : s.objects[j]? = some o) (hkind : kinds kind)
      (hm : processModel kind o.taskModel now none none = some m)
      (ho : o' = o.process kind m s.current)

/-- The kinds of the confirm presses in flight. -/
def InFlight (s : State) (kind : ClockEvent) : Prop := ∃ c ∈ s.calls, kindOf c = some kind

theorem From.of_confirm {kinds : ClockEvent → Prop} (op : Operation) (hkind : kinds op.kind)
    {j : Nat} {o' : TaskObject} (h : (s.confirm op).objects[j]? = some o') :
    From s e kinds j o' := by
  rw [State.confirm, List.getElem?_modify] at h
  obtain ⟨o, ho, rfl⟩ := Option.map_eq_some_iff.mp h
  split
  · exact .confirmed o op ho hkind rfl
  · exact .same ho

theorem From.of_process {kinds : ClockEvent → Prop} (hkind : kinds op.kind) {now : Int} {j : Nat}
    {o' : TaskObject} (h : (s.process op now).objects[j]? = some o') : From s e kinds j o' := by
  obtain heq | ⟨o, m, ho, hm, hnext⟩ := process_cases s op now
  · rw [heq] at h
    exact .same h
  · have hobjects : (s.process op now).objects =
        s.objects.modify op.press.object fun o => o.process op.kind m s.current := by
      rcases hnext with hnext | hnext
      · rw [hnext]
        rfl
      · rw [hnext, objects_write]
        rfl
    rw [hobjects, List.getElem?_modify] at h
    obtain ⟨q, hq, rfl⟩ := Option.map_eq_some_iff.mp h
    split
    · case isTrue hj =>
      subst hj
      cases ho.symm.trans hq
      exact .processed o op.kind m now ho hkind hm rfl
    · exact .same hq

theorem resume_from {kinds : ClockEvent → Prop} {c : Call} {r : Reply}
    (hkind : ∀ kind ∈ kindOf c, kinds kind) (hr : resume s c r = some t) {j : Nat} {o' : TaskObject}
    (h : t.objects[j]? = some o') : From s e kinds j o' := by
  cases resume_cases hr with
  | inside op => exact .of_confirm op (hkind _ rfl) h
  | outside press position => exact .of_confirm ⟨press, position, []⟩ (hkind _ rfl) h
  | time op now => exact .of_process (hkind _ rfl) h
  | counted op =>
    rw [objects_write] at h
    exact .same h
  | _ => exact .same h

theorem step_from (hstep : step s e = some t) {j : Nat} {o' : TaskObject}
    (h : t.objects[j]? = some o') : From s e (InFlight s) j o' := by
  cases step_cases hstep with
  | build m =>
    rw [List.getElem?_append] at h
    split at h
    · exact .same h
    · exact .built m rfl (List.mem_singleton.mp (List.mem_of_getElem? h))
  | @resume call r c rest _ ht hr =>
    have hkind : ∀ kind ∈ kindOf c, InFlight s kind := fun kind hk => ⟨c, mem_takeOut ht, hk⟩
    cases resume_from (e := .resume call r) hkind hr h with
    | same h => exact .same h
    | built m he ho => exact .built m he ho
    | confirmed o op h kind ho => exact .confirmed o op h kind ho
    | processed o kind m now h hkind hm ho => exact .processed o kind m now h hkind hm ho
  | _ => exact .same h

/-- What a step does to the lists: only the answer to a check extends any, and a check comes into
flight with new ones. -/
inductive ListsFrom (s : State) (checked : Prop) (t : State) : Prop
  | same (lists : t.lists = s.lists)
      (calls : ∀ press position, .confirmInGeofencingArea press position ∈ t.calls →
        .confirmInGeofencingArea press position ∈ s.calls)
  | reset (lists : t.lists = s.lists ++ [[]])
  | received (op : Operation) (h : checked) (lists : t.lists = (s.receive op).lists)

theorem ListsFrom.unchanged {checked : Prop} : ListsFrom s checked s :=
  .same rfl fun _ _ h => h

theorem ListsFrom.await {checked : Prop} {c : Call} (hlists : t.lists = s.lists)
    (hcalls : t.calls = s.calls)
    (hc : ∀ press position, c ≠ .confirmInGeofencingArea press position) :
    ListsFrom s checked (t.await c) := by
  refine .same hlists fun press position hmem => ?_
  rcases List.mem_cons.mp hmem with hmem | hmem
  · exact absurd hmem.symm (hc press position)
  · exact hcalls ▸ hmem

theorem ListsFrom.write {checked : Prop} (hlists : t.lists = s.lists)
    (hcalls : t.calls = s.calls) : ListsFrom s checked (t.write op) := by
  refine .same (lists_write.trans hlists) fun press position hmem => ?_
  rw [calls_write] at hmem
  exact hcalls ▸ hmem

theorem ListsFrom.process {checked : Prop} (now : Int) :
    ListsFrom s checked (s.process op now) := by
  obtain heq | ⟨o, m, -, -, hnext⟩ := process_cases s op now
  · rw [heq]
    exact .unchanged
  · rcases hnext with hnext | hnext
    · rw [hnext]
      exact .await rfl rfl (by simp)
    · rw [hnext]
      exact .write rfl rfl

theorem resume_lists {c : Call} {r : Reply} (hr : resume s c r = some t) :
    ListsFrom s (∃ press position, c = .confirmInGeofencingArea press position) t := by
  cases resume_cases hr with
  | unchanged => exact .unchanged
  | geofences kind object => exact .await rfl rfl (by simp)
  | sheet kind object position => exact .reset rfl
  | check press position => exact .reset rfl
  | inside op => exact .received op ⟨op.press, op.position, rfl⟩ rfl
  | outside press position => exact .same rfl fun _ _ hmem => hmem
  | malformed op => exact .received op ⟨op.press, op.position, rfl⟩ rfl
  | time op now => exact .process now
  | counted op => exact .write rfl rfl

/-- Some check is in flight. -/
def Checking (s : State) : Prop :=
  ∃ press position, .confirmInGeofencingArea press position ∈ s.calls

theorem step_lists (hstep : step s e = some t) : ListsFrom s (Checking s) t := by
  cases step_cases hstep with
  | asks asked =>
    cases asked with
    | pressed => exact .await rfl rfl (by simp)
    | confirmed => exact .await rfl rfl (by simp)
    | dialog => exact .await rfl rfl (by simp)
  | resume ht hr =>
    cases resume_lists hr with
    | same lists calls =>
      exact .same lists fun press position hmem => mem_of_mem_rest ht (calls press position hmem)
    | reset lists => exact .reset lists
    | received op hc lists =>
      obtain ⟨press, position, rfl⟩ := hc
      exact .received op ⟨press, position, mem_takeOut ht⟩ lists
  | _ => exact .same rfl fun _ _ hmem => hmem

theorem step_length (hstep : step s e = some t) : s.lists.length ≤ t.lists.length := by
  cases step_lists hstep with
  | same lists => exact Nat.le_of_eq (congrArg List.length lists).symm
  | reset lists =>
    rw [lists, List.length_append]
    exact Nat.le_add_right _ _
  | received op h lists =>
    have hlength : t.lists.length = s.lists.length := by
      rw [lists, State.receive, List.length_modify]
    exact Nat.le_of_eq hlength.symm

/-- The first `n` pairs of lists are no longer current when the reply of a check arrives. -/
structure Settled (n : Nat) (s : State) : Prop where
  length : n ≤ s.lists.length
  checks : Checking s → n < s.lists.length

theorem Settled.keep {n : Nat} (h : Settled n s) (hstep : step s e = some t) : Settled n t where
  length := Nat.le_trans h.length (step_length hstep)
  checks := by
    rintro ⟨press, position, hmem⟩
    cases step_lists hstep with
    | same lists calls =>
      rw [lists]
      exact h.checks ⟨press, position, calls press position hmem⟩
    | reset lists =>
      rw [lists, List.length_append]
      exact Nat.lt_succ_of_le h.length
    | received op hc lists =>
      rw [lists, State.receive, List.length_modify]
      exact h.checks hc

/-- Lists that are settled stay as they are. -/
theorem Settled.lists {n : Nat} (h : Settled n s) (hstep : step s e = some t) {i : Nat}
    (hi : i < n) : t.lists[i]? = s.lists[i]? := by
  cases step_lists hstep with
  | same lists => rw [lists]
  | reset lists => rw [lists, List.getElem?_append_left (Nat.lt_of_lt_of_le hi h.length)]
  | received op hc lists =>
    have hne : s.lists.length - 1 ≠ i := by
      have := h.checks hc
      omega
    rw [lists]
    exact List.getElem?_modify_ne _ _ hne

/-- A write was put together from its object as it is now. -/
def Sent (t : State) (w : Write) : Prop :=
  ∃ o, t.objects[w.op.press.object]? = some o ∧ w.taskId = o.taskModel.taskId ∧
    ∃ userModel, w.data = modelData w.op.kind (t.deref o) userModel

theorem sent_write {writes : List Write} {w : Write} (hwrites : s.writes = writes)
    (h : (s.write op).writes = w :: writes) : w.op = op ∧ Sent (s.write op) w := by
  rw [State.write] at h ⊢
  split
  · case h_1 ho =>
    simp only [ho] at h
    exact absurd (hwrites.symm.trans h).symm (List.cons_ne_self w writes)
  · case h_2 o ho =>
    simp only [ho, List.cons.injEq] at h
    obtain ⟨rfl, -⟩ := h
    exact ⟨rfl, o, ho, rfl, s.userModel, rfl⟩

theorem resume_write {c : Call} {r : Reply} {w : Write} (hr : resume s c r = some t)
    (h : t.writes = w :: s.writes) : kindOf c = some w.op.kind ∧ Sent t w := by
  have nothing : s.writes ≠ w :: s.writes := (List.cons_ne_self w s.writes).symm
  cases resume_cases hr with
  | time op now =>
    obtain heq | ⟨o, m, -, -, hnext⟩ := process_cases s op now
    · rw [heq] at h
      exact absurd h nothing
    · rcases hnext with hnext | hnext
      · rw [hnext] at h
        exact absurd h nothing
      · rw [hnext] at h ⊢
        obtain ⟨rfl, hsent⟩ := sent_write rfl h
        exact ⟨rfl, hsent⟩
  | counted op =>
    obtain ⟨rfl, hsent⟩ := sent_write rfl h
    exact ⟨rfl, hsent⟩
  | _ => exact absurd h nothing

/-- Only the answer to a confirm press adds a write, which is put together from its object. -/
theorem step_write {w : Write} (hstep : step s e = some t) (h : t.writes = w :: s.writes) :
    InFlight s w.op.kind ∧ Sent t w := by
  have nothing : s.writes ≠ w :: s.writes := (List.cons_ne_self w s.writes).symm
  cases step_cases hstep with
  | resume ht hr =>
    obtain ⟨hkind, hsent⟩ := resume_write hr h
    exact ⟨⟨_, mem_takeOut ht, hkind⟩, hsent⟩
  | _ => exact absurd h nothing

/-- A reply is followed only by what belongs to the same press. -/
theorem resume_kinds {c : Call} {r : Reply} {kind : ClockEvent} (hr : resume s c r = some t)
    (h : InFlight t kind) : kindOf c = some kind ∨ InFlight s kind := by
  have next : ∀ {u : State} {d : Call}, InFlight (u.await d) kind → u.calls = s.calls →
      kindOf d = kindOf c → kindOf c = some kind ∨ InFlight s kind := by
    rintro u d ⟨f, hf, hkind⟩ hu hd
    rcases List.mem_cons.mp hf with rfl | hf
    · exact .inl (hd.symm.trans hkind)
    · exact .inr ⟨f, hu ▸ hf, hkind⟩
  cases resume_cases hr with
  | geofences other object => exact next h rfl rfl
  | check press position => exact next h rfl rfl
  | inside op => exact next h rfl rfl
  | time op now =>
    obtain heq | ⟨o, m, -, -, hnext⟩ := process_cases s op now
    · rw [heq] at h
      exact .inr h
    · rcases hnext with hnext | hnext
      · rw [hnext] at h
        exact next h rfl rfl
      · rw [hnext, InFlight, calls_write] at h
        exact .inr h
  | counted op =>
    rw [InFlight, calls_write] at h
    exact .inr h
  | _ => exact .inr h

/-- Once only clock-outs are confirmed, nothing else comes into flight. -/
theorem step_kinds {taskId : Option String} {doc : Doc} {kind : ClockEvent}
    (clocksOut : ClocksOut taskId doc s e) (hstep : step s e = some t) (h : InFlight t kind) :
    InFlight s kind ∨ kind = .clockOut := by
  have next : ∀ c : Call, InFlight (s.await c) kind → InFlight s kind ∨ kindOf c = some kind := by
    rintro c ⟨d, hd, hkind⟩
    rcases List.mem_cons.mp hd with rfl | hd
    · exact .inr hkind
    · exact .inl ⟨d, hd, hkind⟩
  cases step_cases hstep with
  | resume ht hr =>
    rcases resume_kinds hr h with hkind | ⟨d, hd, hkind⟩
    · exact .inl ⟨_, mem_takeOut ht, hkind⟩
    · exact .inl ⟨d, mem_of_mem_rest ht hd, hkind⟩
  | asks asked =>
    rcases next _ h with h | h
    · exact .inl h
    · cases asked with
      | pressed => cases h
      | confirmed command hx => exact .inr ((Option.some.inj h).symm.trans (clocksOut _ hx))
      | dialog hop => exact .inr ((Option.some.inj h).symm.trans (clocksOut _ hop))
  | _ => exact .inl h

end Step

section Evidence

variable {doc : Doc} {s t : State}

/-- A model shows the evidence as long as its clock-in fields and lists stay as they are. -/
theorem Shows.congr {o o' : TaskObject} (h : Shows doc (s.deref o)) (same : SameClockIn o o')
    (received : t.received (o.area .clockIn) = s.received (o.area .clockIn)) :
    Shows doc (t.deref o') where
  driverStartAt := h.driverStartAt.trans (congrArg _ same.driverStartAt.symm)
  clockInStatus := h.clockInStatus.trans (congrArg _ same.clockInStatus.symm)
  clockInLocation := h.clockInLocation.trans (congrArg _ same.clockInLocation.symm)
  clockInCommand := h.clockInCommand.trans (congrArg _ same.clockInCommand.symm)
  area := by
    intro l names hnames
    apply h.area l names
    rw [areaOf_deref] at hnames ⊢
    rw [← received, ← same.area]
    exact hnames

/-- The lists the task objects refer to are there. -/
def AreasExist (s : State) : Prop :=
  ∀ (j : Nat) (o : TaskObject), s.objects[j]? = some o →
    ∀ kind, ∀ l ∈ o.area kind, l < s.lists.length

theorem current_lt {l : Nat} (h : s.current = some l) : l < s.lists.length := by
  rw [State.current] at h
  split at h
  · cases h
  · case h_2 n hn =>
    cases h
    omega

theorem AreasExist.keep {e : Event} (h : AreasExist s) (hstep : step s e = some t) :
    AreasExist t := by
  have grows := step_length hstep
  intro j o' ho' kind l hl
  cases step_from hstep ho' with
  | same ho => exact Nat.lt_of_lt_of_le (h j o' ho kind l hl) grows
  | built m he hnew =>
    subst hnew
    cases hl
  | confirmed o op ho hkind hnew =>
    subst hnew
    exact Nat.lt_of_lt_of_le (h j o ho kind l hl) grows
  | processed o other m now ho hkind hm hnew =>
    subst hnew
    by_cases hk : kind = other
    · subst hk
      have hcurrent := (Function.update_self kind s.current o.area).symm.trans
        (Option.mem_def.mp hl)
      exact Nat.lt_of_lt_of_le (current_lt hcurrent) grows
    · have hold := (Function.update_of_ne hk s.current o.area).symm.trans (Option.mem_def.mp hl)
      exact Nat.lt_of_lt_of_le (h j o ho kind l hold) grows

/-- What holds while only clock-outs follow a clock-in: the lists that were there at its end, `n` of
them, are settled, and what the pages know of it is what was stored. -/
structure Kept (clockIn : Write) (doc : Doc) (n objects : Nat) (s : State) : Prop where
  settled : Settled n s
  kinds : ∀ kind, InFlight s kind → kind = .clockOut
  shows : ∀ j o, s.objects[j]? = some o → Follows clockIn objects j →
    o.taskModel.taskId = clockIn.taskId → (∀ l ∈ o.area .clockIn, l < n) ∧ Shows doc (s.deref o)

section Kept

variable {clockIn : Write} {n objects : Nat} {e : Event}

theorem received_eq (h : Settled n s) (hstep : step s e = some t) {lists : Option Nat}
    (hl : ∀ l ∈ lists, l < n) : t.received lists = s.received lists := by
  cases lists with
  | none => rfl
  | some l =>
    simp only [State.received, Option.bind_some]
    rw [h.lists hstep (hl l rfl)]

theorem Kept.keep (h : Kept clockIn doc n objects s) (clocksOut : ClocksOut clockIn.taskId doc s e)
    (hstep : step s e = some t) : Kept clockIn doc n objects t where
  settled := h.settled.keep hstep
  kinds := by
    intro kind hkind
    rcases step_kinds clocksOut hstep hkind with hkind | hkind
    · exact h.kinds kind hkind
    · exact hkind
  shows := by
    intro j o' ho' follows htask
    have keeps : ∀ o, s.objects[j]? = some o → SameClockIn o o' →
        (∀ l ∈ o'.area .clockIn, l < n) ∧ Shows doc (t.deref o') := by
      intro o ho same
      obtain ⟨hlists, hshows⟩ := h.shows j o ho follows (same.taskId.symm.trans htask)
      refine ⟨?_, hshows.congr same (received_eq h.settled hstep hlists)⟩
      rw [same.area]
      exact hlists
    cases step_from hstep ho' with
    | same ho => exact keeps o' ho (.refl o')
    | built m he hnew =>
      subst he hnew
      obtain ⟨id, stored, same, hdecode⟩ := clocksOut htask
      refine ⟨fun l hl => ?_, ?_⟩
      · cases hl
      · have hshows := Shows.of_decodes same hdecode
        refine ⟨hshows.driverStartAt, hshows.clockInStatus, hshows.clockInLocation,
          hshows.clockInCommand, fun l names hnames => ?_⟩
        rw [areaOf_deref] at hnames
        cases hnames
    | confirmed o op ho hkind hnew =>
      subst hnew
      exact keeps o ho (.confirm o (h.kinds _ hkind))
    | processed o kind m now ho hkind hm hnew =>
      subst hnew
      cases h.kinds _ hkind
      exact keeps o ho (.process o _ hm)

/-- A write that is put together under the invariant keeps the evidence. -/
theorem Kept.keepsEvidence (h : Kept clockIn doc n objects s)
    (clocksOut : ClocksOut clockIn.taskId doc s e) : KeepsEvidence clockIn objects doc s e := by
  intro t w hstep hw htask follows
  obtain ⟨hkind, o, ho, hid, userModel, hdata⟩ := step_write hstep hw
  have hout := h.kinds _ hkind
  obtain ⟨-, hshows⟩ := (h.keep clocksOut hstep).shows _ o ho follows (hid.symm.trans htask)
  refine ⟨hout, fun stored same => ?_⟩
  rw [hdata, hout]
  exact hshows.sameEvidence_update same

end Kept

/-- A clock-in leaves such a state when nothing else is in flight. -/
theorem Kept.of_clockIn {w : Write} {r : State} {e : Event} (areas : AreasExist s)
    (hstep : step r e = some s) (hw : s.writes = w :: r.writes) (hkind : w.op.kind = .clockIn)
    (quiet : s.calls = []) (d : Doc) :
    Kept w (update d w.data) s.lists.length s.objects.length s where
  settled := by
    refine ⟨Nat.le_refl _, ?_⟩
    rintro ⟨press, position, hmem⟩
    rw [quiet] at hmem
    cases hmem
  kinds := by
    rintro kind ⟨c, hc, -⟩
    rw [quiet] at hc
    cases hc
  shows := by
    intro j o ho follows htask
    rcases follows with rfl | hlater
    · obtain ⟨-, q, hq, -, userModel, hdata⟩ := step_write hstep hw
      cases hq.symm.trans ho
      refine ⟨areas _ o ho .clockIn, ?_⟩
      rw [hdata, hkind]
      exact .of_clockIn _ userModel d
    · have := (List.getElem?_eq_some_iff.mp ho).1
      omega

/-- A clock-in at the end of any run, with nothing else in flight, and then any clock-outs from its
page or from pages that were built of the task as it is stored: each of them leaves the evidence of
the clock-in as it is. -/
theorem clockOut_keepsEvidence {es : List Event} {r s : State} {e : Event} {clockIn : Write}
    (hr : run step {} es = some r) (hstep : step r e = some s)
    (hw : s.writes = clockIn :: r.writes) (hkind : clockIn.op.kind = .clockIn)
    (quiet : s.calls = []) (d : Doc) {es' : List Event}
    (clocksOut : EveryStep step (ClocksOut clockIn.taskId (update d clockIn.data)) s es') :
    EveryStep step (KeepsEvidence clockIn s.objects.length (update d clockIn.data)) s es' := by
  have start : AreasExist {} := by
    intro j o ho
    cases ho
  have reached := inv_of_run (fun _ _ _ h hstep => AreasExist.keep h hstep) start hr
  exact everyStep_of_everyStep (fun _ _ _ h hc hstep => h.keep hc hstep)
    (fun _ _ _ h hc _ => h.keepsEvidence hc)
    (Kept.of_clockIn (reached.keep hstep) hstep hw hkind quiet d) clocksOut

/-- No page is built, and whatever is confirmed is a clock-out. -/
def confirmsClockOut (s : State) : Event → Bool
  | .build _ => false
  | .onClockConfirmPressed sheet _ => (s.sheets[sheet]?).all fun x => x.1 = .clockOut
  | .onDialogConfirmed dialog => (s.dialogs[dialog]?).all fun op => op.kind = .clockOut
  | .getUserDataByUserId _ | .onClockPressed _ _ | .popSheet _ | .popDialog _ | .resume _ _ => true

theorem clocksOut_of_confirmsClockOut {taskId : Option String} {doc : Doc} {s : State} {e : Event}
    (h : confirmsClockOut s e = true) : ClocksOut taskId doc s e := by
  cases e with
  | build m => cases h
  | onClockConfirmPressed sheet command =>
    intro x hx
    simp only [confirmsClockOut, Option.mem_def.mp hx, Option.all_some] at h
    exact of_decide_eq_true h
  | onDialogConfirmed dialog =>
    intro op hop
    simp only [confirmsClockOut, Option.mem_def.mp hop, Option.all_some] at h
    exact of_decide_eq_true h
  | _ => trivial

/-- The presses and replies of a clock-in or clock-out on the first page, up to the server time. -/
def pressesOf (kind : ClockEvent) (area : String) : List Event :=
  [.onClockPressed kind 0, .resume 0 .ok, .resume 0 (.position (some ⟨13, 100⟩)),
    .onClockConfirmPressed 0 none, .resume 0 (.position (some ⟨13, 100⟩)),
    .resume 0 (.inside [⟨some area, none⟩])]

def clockInRun : List Event :=
  .build (plannedModel "t1" TaskStatus.confirm 100 200) :: pressesOf .clockIn "Terminal"

def clockInOperation : Operation :=
  ⟨⟨.clockIn, 0, none⟩, some ⟨13, 100⟩, [⟨some "Terminal", none⟩]⟩

/-- What is sent for a clock-in at 90 of a task that starts at 100. -/
def clockInWrite : Write :=
  { op := clockInOperation
    taskId := some "t1"
    data := clockInData
      { plannedModel "t1" TaskStatus.start 100 200 with
        clockInLocation := some ⟨13, 100⟩
        clockInAreaEn := some ["Terminal"]
        clockInAreaTh := some [""]
        driverStartAt := some 90
        clockInStatus := some ClockStatus.early } none }

def clockedIn : State := (run step {} (clockInRun ++ [.resume 0 (.time 90)])).getD {}

/-- A worker clocks in at the terminal and out at the gate, both on time, from one page. -/
theorem clockOut_at_gate_keepsEvidence :
    EveryStep step
      (KeepsEvidence clockInWrite clockedIn.objects.length
        (update (plannedTask TaskStatus.confirm 100 200) clockInWrite.data))
      clockedIn (pressesOf .clockOut "Gate" ++ [.resume 0 (.time 250)]) := by
  have pressed : EveryStep step (fun s e => confirmsClockOut s e = true) clockedIn
      (pressesOf .clockOut "Gate" ++ [.resume 0 (.time 250)]) := by decide
  have before : run step {} clockInRun = some ((run step {} clockInRun).getD {}) := rfl
  have after : step ((run step {} clockInRun).getD {}) (.resume 0 (.time 90)) = some clockedIn :=
    rfl
  exact clockOut_keepsEvidence before after rfl rfl rfl _
    (pressed.mono fun _ _ h => clocksOut_of_confirmsClockOut h)

end Evidence
end ClockInEvidence
