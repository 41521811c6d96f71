import AsmWt.ClockProcess

/-!
# Controller updates against a clock operation

A controller updates the task before and after the worker's page takes its
snapshot, and the worker's operation then sends that snapshot back. The fields
sent back without being recorded decide which of the controller's updates
survive. `onAcceptPressed` sends none of them.
-/

namespace LostUpdate

open KeyedRecord Firestore TasksModel UserProfile ClockProcess

/-- The constant `toJson` stores under `location_name`. -/
def locationName : Value := .str "Suvarnabhumi Airport"

def resentFirst : List String := ["location", "clock_in_location"]

def resentRest : List String :=
  ["clock_out_location", "employee_id", "name", "desc", "employee_start_time",
    "employee_finish_time", "start_time", "is_disabled", "finish_time", "controller_id",
    "controller_name", "status", "clock_in_status", "clock_out_status", "clock_out_command",
    "clock_in_command", "type", "task_group", "skip_reason"]

/-- The fields of the snapshot that `toJson` always sends back. -/
def resent : List String := resentFirst ++ resentRest

/-- The employee reference is sent back only when the snapshot had one. -/
def resentRef (seen : Doc) : Payload :=
  optional "employeeRef" (if seen "employeeRef" = .null then none else some (seen "employeeRef"))

/-- A decoded snapshot is sent back as it was seen, except for the location's name. -/
theorem toJson_of_decodes {id : String} {seen : Doc} {m : TaskModel} (d : Decodes id seen m) :
    toJson m (some false) =
      resentFirst.map (fun k => (k, seen k)) ++ ("location_name", locationName) ::
        resentRest.map (fun k => (k, seen k)) ++ resentRef seen := by
  have ref : m.employeeModelRefData.map Value.reference =
      if seen "employeeRef" = .null then none else some (seen "employeeRef") := by
    rw [d.employeeModelRefData]
    cases m.employeeModelRefData <;> simp [Codec.reference, Codec.ofConstructor]
  simp only [toJson, resentRef, ref, d.clockInAreaEn, d.clockInAreaTh, d.clockOutAreaEn,
    d.clockOutAreaTh, ← d.location, ← d.clockInLocation, ← d.clockOutLocation, ← d.userId,
    ← d.name, ← d.desc, ← d.driverStartAt, ← d.driverFinishAt, ← d.startDate, ← d.isDisable,
    ← d.finishDate, ← d.controllerId, ← d.controllerName, ← d.status, ← d.clockInStatus,
    ← d.clockOutStatus, ← d.clockOutCommand, ← d.clockInCommand, ← d.type, ← d.taskGroup,
    ← d.skipReason]
  rfl

theorem mem_toJson_of_decodes {id : String} {seen : Doc} {m : TaskModel}
    (d : Decodes id seen m) {k : String} {w : Value} :
    (k, w) ∈ toJson m (some false) ↔
      (k ∈ resent ∧ w = seen k) ∨ (k = "location_name" ∧ w = locationName) ∨
        (k = "employeeRef" ∧ seen k ≠ .null ∧ w = seen k) := by
  have copied : ∀ l : List String,
      (k, w) ∈ l.map (fun k => (k, seen k)) ↔ k ∈ l ∧ w = seen k := by
    intro l
    simp only [List.mem_map, Prod.mk.injEq]
    constructor
    · rintro ⟨k', hk', rfl, rfl⟩
      exact ⟨hk', rfl⟩
    · rintro ⟨hk, rfl⟩
      exact ⟨k, hk, rfl, rfl⟩
  have ref : (k, w) ∈ resentRef seen ↔ k = "employeeRef" ∧ seen k ≠ .null ∧ w = seen k := by
    rw [resentRef, mem_optional]
    constructor
    · rintro ⟨rfl, h⟩
      by_cases hs : seen "employeeRef" = .null
      · rw [if_pos hs] at h
        cases h
      · rw [if_neg hs] at h
        exact ⟨rfl, hs, (Option.some.inj h).symm⟩
    · rintro ⟨rfl, hs, rfl⟩
      exact ⟨rfl, if_neg hs⟩
  rw [toJson_of_decodes d, List.mem_append, List.mem_append, List.mem_cons, copied, copied, ref,
    resent, List.mem_append, Prod.mk.injEq]
  tauto

/-- Outside the recorded fields a clock operation sends the snapshot itself. -/
theorem mem_clockData {kind : ClockEvent} {m : TaskModel} {c : Confirmation} {p : Payload}
    (h : clockData kind m c = some p) {k : String} (hk : k ∉ recorded kind) {w : Value} :
    (k, w) ∈ p ↔ (k, w) ∈ toJson m (some false) := by
  cases kind with
  | clockIn =>
    obtain ⟨m', hm', rfl⟩ := Option.map_eq_some_iff.mp h
    obtain ⟨startDate, -, rfl⟩ := clockInProcess_eq_some hm'
    have hprofile : (k, w) ∉ profileFields c.userModel := by
      intro hmem
      have hkey : k ∈ keys (profileFields c.userModel) := List.mem_map.mpr ⟨(k, w), hmem, rfl⟩
      rw [keys_profileFields] at hkey
      exact hk (List.mem_append_right _ hkey)
    simp only [recorded, List.mem_append, List.mem_cons, not_or] at hk
    simp only [modelData, clockInData, toJson, confirmModel, onClockInConfirmPressed,
      List.mem_append, hprofile, or_false, List.mem_cons, Prod.mk.injEq, mem_optional, hk,
      false_and, false_or]
  | clockOut =>
    obtain ⟨m', hm', rfl⟩ := Option.map_eq_some_iff.mp h
    obtain ⟨finishDate, -, rfl⟩ := clockOutProcess_eq_some hm'
    simp only [recorded, List.mem_cons, not_or] at hk
    simp only [modelData, clockOutData, toJson, confirmModel, onClockOutConfirmPressed,
      List.mem_append, List.mem_cons, Prod.mk.injEq, mem_optional, hk, false_and, false_or]

/-- Every field the controller changed and the operation does not record keeps the
controller's last value after the operation's write. -/
def NoLostUpdate (kind : ClockEvent) (doc : Doc) (before between : List Payload)
    (p : Payload) : Prop :=
  ∀ k v, k ∉ recorded kind → lastWritten (before ++ between) k = some v →
    update (updates doc (before ++ between)) p k = v

/-- The controller wrote nothing else under `k` than the snapshot shows. -/
def AsSeen (between : List Payload) (seen : Doc) (k : String) : Prop :=
  ∀ v, lastWritten between k = some v → v = seen k

/-- The updates a clock operation leaves alone: since the snapshot none of the fields it
sends back changed, and the location's name was only ever set to the constant. -/
structure Harmless (kind : ClockEvent) (seen : Doc) (before between : List Payload) : Prop where
  resent : ∀ k ∈ resent, k ∉ recorded kind → AsSeen between seen k
  ref : seen "employeeRef" ≠ .null → AsSeen between seen "employeeRef"
  name : ∀ v, lastWritten (before ++ between) "location_name" = some v → v = locationName

/-- For a field that is sent back as seen only the updates after the snapshot matter. -/
theorem asSeen_iff (doc : Doc) (before between : List Payload) (k : String) :
    AsSeen between (updates doc before) k ↔
      ∀ v, lastWritten (before ++ between) k = some v → v = updates doc before k := by
  rw [AsSeen, lastWritten_append]
  cases hb : lastWritten between k with
  | some v => simp
  | none =>
    constructor
    · intro _ v hv
      exact (updates_of_lastWritten (by simpa using hv)).symm
    · intro _ v hv
      cases hv

theorem lost_iff {kind : ClockEvent} {m : TaskModel} {c : Confirmation} {p : Payload}
    (hp : clockData kind m c = some p) (doc : Doc) (before between : List Payload) {k : String}
    {v : Value} (hv : lastWritten (before ++ between) k = some v) :
    update (updates doc (before ++ between)) p k = v ↔ ∀ w, (k, w) ∈ p → w = v := by
  have stored := updates_of_lastWritten (d := doc) hv
  have same := update_eq_self_iff (d := updates doc (before ++ between))
    (keys_clockData_nodup hp) (k := k)
  rw [stored] at same
  exact same

/-- A clock operation loses no update of the controller iff the updates are harmless. -/
theorem noLostUpdate_iff {kind : ClockEvent} {doc : Doc} {before between : List Payload}
    {id : String} {m : TaskModel} {c : Confirmation} {p : Payload}
    (snapshot : fromDocumentSnapshot id (updates doc before) = some m)
    (operation : clockData kind m c = some p) :
    NoLostUpdate kind doc before between p ↔
      Harmless kind (updates doc before) before between := by
  have d := fromDocumentSnapshot_eq_some snapshot
  have unrecorded : ∀ kind, "location_name" ∉ recorded kind ∧ "employeeRef" ∉ recorded kind := by
    intro kind
    cases kind <;> decide
  constructor
  · intro kept
    have sent : ∀ k w, k ∉ recorded kind → (k, w) ∈ toJson m (some false) →
        ∀ v, lastWritten (before ++ between) k = some v → v = w := by
      intro k w hk hw v hv
      have hp := (mem_clockData operation hk).mpr hw
      exact ((lost_iff operation doc before between hv).mp (kept k v hk hv) w hp).symm
    refine ⟨fun k hk hr => ?_, fun hs => ?_, fun v hv => ?_⟩
    · rw [asSeen_iff]
      exact sent k _ hr ((mem_toJson_of_decodes d).mpr (Or.inl ⟨hk, rfl⟩))
    · rw [asSeen_iff]
      exact sent _ _ (unrecorded kind).2
        ((mem_toJson_of_decodes d).mpr (Or.inr (Or.inr ⟨rfl, hs, rfl⟩)))
    · exact sent _ _ (unrecorded kind).1
        ((mem_toJson_of_decodes d).mpr (Or.inr (Or.inl ⟨rfl, rfl⟩))) v hv
  · intro harmless k v hk hv
    rw [lost_iff operation doc before between hv]
    intro w hw
    rcases (mem_toJson_of_decodes d).mp ((mem_clockData operation hk).mp hw) with
      ⟨hr, rfl⟩ | ⟨rfl, rfl⟩ | ⟨rfl, hs, rfl⟩
    · exact ((asSeen_iff doc before between k).mp (harmless.resent k hr hk) v hv).symm
    · exact (harmless.name v hv).symm
    · exact ((asSeen_iff doc before between _).mp (harmless.ref hs) v hv).symm

/-- A clock-in while the controller adds a field the model does not know. -/
theorem noLostUpdate_iff_unknown_field :
    NoLostUpdate .clockIn (plannedTask "confirm" 100 200) [] [[("note", .str "gloves")]]
        (clockInData
          { plannedModel "t1" "confirm" 100 200 with
            clockInLocation := some ⟨0, 0⟩
            status := some "start"
            driverStartAt := some 90
            clockInStatus := some "early" } none) ↔
      Harmless .clockIn (plannedTask "confirm" 100 200) [] [[("note", .str "gloves")]] :=
  noLostUpdate_iff (c := { serverTimeNow := 90 })
    (fromDocumentSnapshot_plannedTask "t1" "confirm" 100 200) rfl

/-- The controller moves the start from 100 to 300 while the worker's sheet is open. -/
theorem rescheduled_task_is_moved_back :
    ¬ ∀ (kind : ClockEvent) (doc : Doc) (before between : List Payload) (id : String)
        (m : TaskModel) (c : Confirmation) (p : Payload),
        fromDocumentSnapshot id (updates doc before) = some m → clockData kind m c = some p →
          NoLostUpdate kind doc before between p := by
  intro claim
  have kept := claim .clockIn (plannedTask "confirm" 100 200) []
    [[("start_time", .timestamp 300)]] "t1" (plannedModel "t1" "confirm" 100 200)
    { serverTimeNow := 90 } _ rfl rfl "start_time" (.timestamp 300) (by decide) rfl
  exact absurd kept (by decide)

end LostUpdate
