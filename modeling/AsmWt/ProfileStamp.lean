import AsmWt.Interleaving
import AsmWt.PendingCalls
import AsmWt.ReportCounters

/-!
# The profile that is stamped on a task

`MyAccountController` is created once and keeps the last profile it was given.
A sign-out does not clear it, and the reply to a lookup is stored whenever it
arrives. Accepting and clocking in copy the profile that is in memory when they
put their write together.
-/

namespace ProfileStamp

open KeyedRecord DocStore Firestore TasksModel UserProfile ClockProcess ReportCounters Interleaving
open PendingCalls

/-- `UserModel.fromDocumentSnapshot`; `none` is the type error of a wrongly typed field. The first
ten fields are read as the others are, no task receives them. -/
def fromDocumentSnapshot (data : Doc) : Option UserModel := do
  let _username ← Codec.string.decode (data "username")
  let _email ← Codec.string.decode (data "email")
  let _staffId ← Codec.string.decode (data "user_id")
  let _deviceToken ← Codec.string.decode (data "device_token")
  let _phoneNumber ← Codec.string.decode (data "phone_number")
  let _deviceId ← Codec.string.decode (data "device_id")
  let _profileURL ← Codec.string.decode (data "profile_url")
  let _profileFileName ← Codec.string.decode (data "profile_file_name")
  let _userStatus ← Codec.string.decode (data "user_status")
  let siteTH ← Codec.string.decode (data "site_th")
  let siteEN ← Codec.string.decode (data "site_en")
  let sectionCode ← Codec.string.decode (data "section_code")
  let sectionTH ← Codec.string.decode (data "section_th")
  let sectionEN ← Codec.string.decode (data "section_en")
  let jobCode ← Codec.string.decode (data "job_code")
  let siteCode ← Codec.string.decode (data "site_code")
  let jobTH ← Codec.string.decode (data "job_th")
  let jobEN ← Codec.string.decode (data "job_en")
  let firstnameTH ← Codec.string.decode (data "firstname_th")
  let firstnameEN ← Codec.string.decode (data "firstname_en")
  let lastnameTH ← Codec.string.decode (data "lastname_th")
  let lastnameEN ← Codec.string.decode (data "lastname_en")
  return {
    siteTH, siteEN, sectionCode, sectionTH, sectionEN, jobCode, siteCode, jobTH, jobEN,
    firstnameTH, firstnameEN, lastnameTH, lastnameEN }

/-- The time for which the stored `userId` is the same, from one sign-in or sign-out to the next. -/
structure Session where
  number : Nat
  userId : Option String
  deriving DecidableEq

/-- A call of `getUserByUserId`: the session it was made in and its argument. -/
structure Lookup where
  session : Session
  userId : Option String
  deriving DecidableEq

/-- What is awaited. A lookup may be the one `onAcceptPressed` waits for, which then goes on with
its task. A write remembers the session of its operation and the record, if any, that the profile
in memory was read from. -/
inductive Call where
  | getUserByUserId (lookup : Lookup) (accept : Option (Option String))
  | ntpNow (session : Session) (taskModel : TaskModel)
  | increaseLateStartTask (session : Session) (taskModel : TaskModel)
  | updateTask (session : Session) (record : Option Doc) (taskId : Option String) (data : Payload)

/-- The task documents, the session, the profile of `MyAccountController`, the calls in flight, and
all records the lookups have returned so far, the last one first. -/
structure State where
  tasks : Collection
  session : Session
  userModel : Option UserModel := none
  calls : List Call := []
  returned : List (Lookup × Doc) := []

inductive Reply where
  | snapshot (record : Option Doc)
  | time (serverTimeNow : Int) (areaNameEn areaNameTh : Option (List String))
  | ok
  | failed

/-- `getUserDataByUserId` is a visit of one of the pages that call it, `elsewhere` a change of the
tasks by anyone else. -/
inductive Event where
  | main
  | signIn (staffId : String)
  | onSignOutPressed
  | getUserDataByUserId
  | onAcceptPressed (taskId : Option String)
  | clockInProcess (taskModel : TaskModel)
  | resume (call : Nat) (r : Reply)
  | elsewhere (tasks : Collection)

/-- The app has just been installed or started, with the session that the preferences hold. -/
def initial (tasks : Collection) (userId : Option String) : State :=
  { tasks := tasks, session := ⟨0, userId⟩ }

namespace State

def await (s : State) (c : Call) : State := { s with calls := c :: s.calls }

def newSession (s : State) (userId : String) : State :=
  { s with session := ⟨s.session.number + 1, some userId⟩ }

/-- `getUserByUserId` returns at once for a missing id. -/
def getUserDataByUserId (s : State) : State :=
  match s.session.userId with
  | none => s
  | some userId =>
    if userId = "" then s else s.await (.getUserByUserId ⟨s.session, some userId⟩ none)

/-- The reply to a lookup; a missing document, an exception and a type error are all `null`. -/
def receive (s : State) (lookup : Lookup) (record : Option Doc) : State :=
  match record with
  | none => s
  | some record =>
    match fromDocumentSnapshot record with
    | none => s
    | some userModel =>
      { s with userModel := some userModel, returned := (lookup, record) :: s.returned }

/-- The lookup that the profile in memory came from, with the record it returned. -/
def loaded (s : State) : Option (Lookup × Doc) :=
  if s.userModel.isSome then s.returned.head? else none

def updateTask (s : State) (session : Session) (taskId : Option String) (data : Payload) : State :=
  s.await (.updateTask session (s.loaded.map Prod.snd) taskId data)

def writeAccept (s : State) (session : Session) (taskId : Option String) : State :=
  s.updateTask session taskId (acceptData s.userModel)

def writeClockIn (s : State) (session : Session) (taskModel : TaskModel) : State :=
  s.updateTask session taskModel.taskId (clockInData taskModel s.userModel)

end State

/-- What follows a call once it is no longer in flight. -/
def resume (s : State) : Call → Reply → Option State
  | .getUserByUserId lookup none, .snapshot record => some (s.receive lookup record)
  | .getUserByUserId lookup (some taskId), .snapshot record =>
    some ((s.receive lookup record).writeAccept lookup.session taskId)
  | .ntpNow session taskModel, .time serverTimeNow areaNameEn areaNameTh =>
    match ClockProcess.clockInProcess taskModel serverTimeNow areaNameEn areaNameTh with
    -- the null check of `start_date!` fails, and with it the whole process
    | none => some s
    | some m =>
      if callsCounter .clockIn m then some (s.await (.increaseLateStartTask session m))
      else some (s.writeClockIn session m)
  | .ntpNow _ _, .failed => some s
  -- the counter reports its failure as a value nobody looks at
  | .increaseLateStartTask session m, .ok => some (s.writeClockIn session m)
  | .increaseLateStartTask session m, .failed => some (s.writeClockIn session m)
  | .updateTask _ _ taskId data, .ok =>
    match updateTaskStatusByTaskId taskId (updateData s.tasks · data) with
    | none => some s
    | some tasks => some { s with tasks := tasks }
  | .updateTask _ _ _ _, .failed => some s
  | _, _ => none

def step (s : State) : Event → Option State
  | .main => some (State.getUserDataByUserId { s with userModel := none, calls := [] })
  | .signIn staffId => some (s.newSession staffId)
  | .onSignOutPressed => some (s.newSession "")
  | .getUserDataByUserId => some s.getUserDataByUserId
  -- the pages with these buttons are only there while somebody is signed in
  | .onAcceptPressed taskId =>
    if s.session.userId.getD "" = "" then none
    else
      if s.userModel.isSome then some (s.writeAccept s.session taskId)
      else some (s.await (.getUserByUserId ⟨s.session, s.session.userId⟩ (some taskId)))
  | .clockInProcess taskModel =>
    if s.session.userId.getD "" = "" then none else some (s.await (.ntpNow s.session taskModel))
  | .resume call r => do
    let (c, rest) ← takeOut s.calls call
    resume { s with calls := rest } c r
  | .elsewhere tasks => some { s with tasks := tasks }

/-- The session and the task of a write. -/
def Call.target : Call → Option (Session × String)
  | .updateTask session _ (some taskId) _ => if taskId = "" then none else some (session, taskId)
  | _ => none

/-- A write that reaches the store: the session of its operation, the task before and after it. -/
def landing (s : State) (e : Event) : Option (Session × Doc × Doc) :=
  match e with
  | .resume call .ok => do
    let (c, _) ← takeOut s.calls call
    let (session, taskId) ← c.target
    let before ← s.tasks.get? taskId
    let after ← (← step s e).tasks.get? taskId
    return (session, before, after)
  | _ => none

/-- The profile fields after a write are those of a record that a lookup made in the session
returned for its employee, and no stored value was replaced by a null. -/
def Own (s : State) (session : Session) (before after : Doc) : Prop :=
  (∃ record, (⟨session, session.userId⟩, record) ∈ s.returned ∧
    ∀ k ∈ profileKeys, after k = record k) ∧
  ∀ k ∈ profileKeys, before k ≠ .null → after k ≠ .null

def StampsOwn (s : State) (e : Event) : Prop :=
  ∀ session before after, landing s e = some (session, before, after) → Own s session before after

/-- The last lookup that was answered with a record since the app was started was made in the
session. -/
def LoadedIn (s : State) (session : Session) : Prop :=
  s.loaded.map (·.1.session) = some session

/-- A null in the record is no loss for the task. -/
def Covers (record before : Doc) : Prop :=
  ∀ k ∈ profileKeys, record k = .null → before k = .null

/-- What may happen to a call. -/
def CallAllowed (s : State) : Call → Reply → Prop
  | .getUserByUserId lookup (some _), .snapshot record =>
    record.bind fromDocumentSnapshot = none → LoadedIn s lookup.session
  | .ntpNow session taskModel, .time serverTimeNow _ _ =>
    ∀ startDate ∈ taskModel.startDate, serverTimeNow ≤ startDate → LoadedIn s session
  | .increaseLateStartTask session _, _ => LoadedIn s session
  | .updateTask _ (some record) (some taskId) _, .ok =>
    ∀ before ∈ s.tasks.get? taskId, Covers record before
  | _, _ => True

/-- When an operation puts its write together, the profile in memory came from a lookup made in the
operation's session; and the record that lookup returned lacks no field the task has. -/
def FromSession (s : State) : Event → Prop
  | .onAcceptPressed _ => s.userModel.isSome = true → LoadedIn s s.session
  | .resume call r => ∀ c ∈ takeOut s.calls call, CallAllowed s c.1 r
  | .main | .signIn _ | .onSignOutPressed | .getUserDataByUserId | .clockInProcess _
  | .elsewhere _ => True

/-- The data carries the profile fields of the record. -/
structure Stamps (data : Payload) (record : Doc) : Prop where
  distinct : (keys data).Nodup
  profile : ∀ k ∈ profileKeys, (k, record k) ∈ data

theorem mem_profileFields {d : Doc} {m : UserModel} (h : fromDocumentSnapshot d = some m) :
    ∀ k ∈ profileKeys, (k, d k) ∈ profileFields (some m) := by
  simp only [fromDocumentSnapshot, ↓Codec.decode_bind_eq_some_iff, Option.pure_def,
    Option.some.injEq] at h
  obtain ⟨_, -, _, -, _, -, _, -, _, -, _, -, _, -, _, -, _, -, _, h1, _, h2, _, h3, _, h4, _, h5,
    _, h6, _, h7, _, h8, _, h9, _, h10, _, h11, _, h12, _, h13, rfl⟩ := h
  simp [profileKeys, profileFields, h1, h2, h3, h4, h5, h6, h7, h8, h9, h10, h11, h12, h13]

theorem stamps_acceptData {d : Doc} {m : UserModel} (h : fromDocumentSnapshot d = some m) :
    Stamps (acceptData (some m)) d where
  distinct := keys_acceptData_nodup _
  profile := fun k hk => List.mem_cons_of_mem _ (mem_profileFields h k hk)

theorem stamps_clockInData (taskModel : TaskModel) {d : Doc} {m : UserModel}
    (h : fromDocumentSnapshot d = some m) : Stamps (clockInData taskModel (some m)) d where
  distinct := keys_clockInData_nodup taskModel _
  profile := fun k hk => List.mem_append_right _ (mem_profileFields h k hk)

theorem Stamps.update {data : Payload} {record : Doc} (h : Stamps data record) (before : Doc) :
    ∀ k ∈ profileKeys, KeyedRecord.update before data k = record k :=
  fun k hk => update_of_mem h.distinct (h.profile k hk)

/-- A lookup asks for the employee of its session, and a write carries a record that a lookup of
its session returned. -/
def CallOwned (s : State) : Call → Prop
  | .getUserByUserId lookup _ => lookup.userId = lookup.session.userId
  | .updateTask session record _ data =>
    ∃ d, record = some d ∧ (⟨session, session.userId⟩, d) ∈ s.returned ∧ Stamps data d
  | .ntpNow _ _ | .increaseLateStartTask _ _ => True

structure Inv (s : State) : Prop where
  lookups : ∀ r ∈ s.returned, r.1.userId = r.1.session.userId
  memory : ∀ m, s.userModel = some m →
    ∃ r, s.returned.head? = some r ∧ fromDocumentSnapshot r.2 = some m
  calls : ∀ c ∈ s.calls, CallOwned s c

/-- What was returned stays returned. -/
theorem CallOwned.mono {s t : State} (h : s.returned ⊆ t.returned) {c : Call}
    (hc : CallOwned s c) : CallOwned t c := by
  cases c with
  | updateTask session record taskId data =>
    obtain ⟨d, hd, hmem, hs⟩ := hc
    exact ⟨d, hd, h hmem, hs⟩
  | _ => exact hc

theorem Inv.await {s : State} (h : Inv s) {c : Call} (hc : CallOwned s c) : Inv (s.await c) where
  lookups := h.lookups
  memory := h.memory
  calls := by
    intro d hd
    rcases List.mem_cons.mp hd with rfl | hd
    · exact hc.mono (List.Subset.refl _)
    · exact (h.calls d hd).mono (List.Subset.refl _)

theorem Inv.rest {s : State} (h : Inv s) {i : Nat} {c : Call} {rest : List Call}
    (ht : takeOut s.calls i = some (c, rest)) : Inv { s with calls := rest } where
  lookups := h.lookups
  memory := h.memory
  calls := fun d hd => (h.calls d (mem_of_mem_rest ht hd)).mono (List.Subset.refl _)

/-- The session and the stored tasks are not part of the invariant. -/
theorem Inv.frame {s : State} (h : Inv s) (tasks : Collection) (session : Session) :
    Inv { s with tasks := tasks, session := session } where
  lookups := h.lookups
  memory := h.memory
  calls := fun c hc => (h.calls c hc).mono (List.Subset.refl _)

theorem Inv.getUserDataByUserId {s : State} (h : Inv s) : Inv s.getUserDataByUserId := by
  rw [State.getUserDataByUserId]
  cases hu : s.session.userId with
  | none => exact h
  | some userId =>
    dsimp only
    split
    · exact h
    · exact h.await hu.symm

/-- A reply changes the profile in memory only together with the last returned record. -/
theorem Inv.receive {s : State} (h : Inv s) {lookup : Lookup}
    (hl : lookup.userId = lookup.session.userId) (record : Option Doc) :
    Inv (s.receive lookup record) := by
  cases record with
  | none => exact h
  | some record =>
    rw [State.receive]
    cases hm : fromDocumentSnapshot record with
    | none => exact h
    | some userModel =>
      refine ⟨?_, ?_, ?_⟩
      · intro r hr
        rcases List.mem_cons.mp hr with rfl | hr
        · exact hl
        · exact h.lookups r hr
      · intro m hmemory
        cases hmemory
        exact ⟨_, rfl, hm⟩
      · exact fun c hc => (h.calls c hc).mono (List.subset_cons_self _ _)

theorem loadedIn_receive (s : State) (lookup : Lookup) {record : Option Doc}
    (h : record.bind fromDocumentSnapshot ≠ none) :
    LoadedIn (s.receive lookup record) lookup.session := by
  cases record with
  | none => exact absurd rfl h
  | some record =>
    obtain ⟨userModel, hm⟩ := Option.ne_none_iff_exists'.mp h
    have hm : fromDocumentSnapshot record = some userModel := hm
    simp [LoadedIn, State.loaded, State.receive, hm]

/-- A reply without a record changes nothing. -/
theorem receive_of_none {s : State} {lookup : Lookup} {record : Option Doc}
    (h : record.bind fromDocumentSnapshot = none) : s.receive lookup record = s := by
  cases record with
  | none => rfl
  | some record =>
    have hm : fromDocumentSnapshot record = none := h
    simp [State.receive, hm]

/-- The profile of a session that is loaded is that of the session's employee. -/
theorem Inv.of_loadedIn {s : State} (h : Inv s) {session : Session} (hl : LoadedIn s session) :
    ∃ m d, s.userModel = some m ∧ s.loaded = some (⟨session, session.userId⟩, d) ∧
      (⟨session, session.userId⟩, d) ∈ s.returned ∧ fromDocumentSnapshot d = some m := by
  obtain ⟨⟨⟨made, userId⟩, d⟩, hloaded, rfl⟩ := Option.map_eq_some_iff.mp hl
  cases hm : s.userModel with
  | none => simp [State.loaded, hm] at hloaded
  | some m =>
    obtain ⟨r, hr, hdecode⟩ := h.memory m hm
    have hhead : s.returned.head? = some (⟨made, userId⟩, d) := by
      simpa [State.loaded, hm] using hloaded
    cases hr.symm.trans hhead
    have hmem := List.mem_of_head? hhead
    have howner : userId = made.userId := h.lookups _ hmem
    subst howner
    exact ⟨m, d, rfl, hloaded, hmem, hdecode⟩

theorem Inv.updateTask {s : State} (h : Inv s) {session : Session} (hl : LoadedIn s session)
    (taskId : Option String) {data : Option UserModel → Payload}
    (stamps : ∀ m d, fromDocumentSnapshot d = some m → Stamps (data (some m)) d) :
    Inv (s.updateTask session taskId (data s.userModel)) := by
  obtain ⟨m, d, hm, hloaded, hmem, hdecode⟩ := h.of_loadedIn hl
  apply h.await
  refine ⟨d, ?_, hmem, ?_⟩
  · rw [hloaded]
    rfl
  · rw [hm]
    exact stamps m d hdecode

theorem Inv.writeAccept {s : State} (h : Inv s) {session : Session} (hl : LoadedIn s session)
    (taskId : Option String) : Inv (s.writeAccept session taskId) :=
  h.updateTask hl taskId fun _ _ => stamps_acceptData

theorem Inv.writeClockIn {s : State} (h : Inv s) {session : Session} (hl : LoadedIn s session)
    (taskModel : TaskModel) : Inv (s.writeClockIn session taskModel) :=
  h.updateTask hl taskModel.taskId fun _ _ => stamps_clockInData taskModel

/-- A process that is on time writes at once, under the condition that the planned time gives. -/
theorem callsCounter_clockInProcess {m m' : TaskModel} {now : Int} {en th : Option (List String)}
    (h : ClockProcess.clockInProcess m now en th = some m')
    (hcounter : callsCounter .clockIn m' = false) :
    ∃ startDate ∈ m.startDate, now ≤ startDate := by
  obtain ⟨startDate, hs, rfl⟩ := clockInProcess_eq_some h
  refine ⟨startDate, hs, ?_⟩
  have hlate : clockStatus startDate now ≠ ClockStatus.late := by
    simpa [callsCounter] using hcounter
  exact Int.not_lt.mp fun hlt => hlate (clockStatus_eq_late_iff.mpr hlt)

section Resume
variable {s t : State} {i : Nat} {c : Call} {rest : List Call}

/-- Whatever a call in flight replies, the invariant holds afterwards. -/
theorem resume_inv (h : Inv s) (ht : takeOut s.calls i = some (c, rest)) {r : Reply}
    (allowed : CallAllowed s c r) (hr : resume { s with calls := rest } c r = some t) : Inv t := by
  have hrest := h.rest ht
  have howned := h.calls c (mem_takeOut ht)
  cases c with
  | getUserByUserId lookup accept =>
    cases r with
    | snapshot record =>
      cases accept with
      | none =>
        cases hr
        exact hrest.receive howned record
      | some taskId =>
        cases hr
        refine (hrest.receive howned record).writeAccept ?_ taskId
        -- a lookup that fails leaves the profile that was there before
        by_cases hnone : record.bind fromDocumentSnapshot = none
        · rw [receive_of_none hnone]
          exact allowed hnone
        · exact loadedIn_receive _ lookup hnone
    | _ => cases accept <;> cases hr
  | ntpNow session taskModel =>
    cases r with
    | time serverTimeNow areaNameEn areaNameTh =>
      simp only [resume] at hr
      split at hr
      · cases hr
        exact hrest
      · case h_2 m hm =>
        cases hcounter : callsCounter .clockIn m with
        | true =>
          rw [hcounter] at hr
          cases hr
          exact hrest.await trivial
        | false =>
          rw [hcounter] at hr
          cases hr
          obtain ⟨startDate, hs, hle⟩ := callsCounter_clockInProcess hm hcounter
          exact hrest.writeClockIn (allowed startDate hs hle) m
    | failed =>
      cases hr
      exact hrest
    | _ => cases hr
  | increaseLateStartTask session m =>
    cases r with
    | ok =>
      cases hr
      exact hrest.writeClockIn allowed m
    | failed =>
      cases hr
      exact hrest.writeClockIn allowed m
    | _ => cases hr
  | updateTask session record taskId data =>
    cases r with
    | ok =>
      simp only [resume] at hr
      split at hr
      · cases hr
        exact hrest
      · cases hr
        exact hrest.frame _ _
    | failed =>
      cases hr
      exact hrest
    | _ => cases hr

end Resume

theorem step_inv {s t : State} {e : Event} (h : Inv s) (from_session : FromSession s e)
    (hstep : step s e = some t) : Inv t := by
  cases e with
  | main =>
    cases hstep
    apply Inv.getUserDataByUserId
    exact ⟨h.lookups, fun m hm => (nomatch hm), fun c hc => (nomatch hc)⟩
  | signIn staffId =>
    cases hstep
    exact h.frame _ _
  | onSignOutPressed =>
    cases hstep
    exact h.frame _ _
  | getUserDataByUserId =>
    cases hstep
    exact h.getUserDataByUserId
  | onAcceptPressed taskId =>
    simp only [step] at hstep
    split at hstep
    · cases hstep
    · split at hstep
      · case isTrue hsome =>
        cases hstep
        exact h.writeAccept (from_session hsome) taskId
      · cases hstep
        exact h.await rfl
  | clockInProcess taskModel =>
    simp only [step] at hstep
    split at hstep
    · cases hstep
    · cases hstep
      exact h.await trivial
  | resume call r =>
    obtain ⟨⟨c, rest⟩, ht, hstep⟩ := Option.bind_eq_some_iff.mp hstep
    exact resume_inv h ht (from_session _ ht) hstep
  | elsewhere tasks =>
    cases hstep
    exact h.frame _ _

theorem target_eq_some {c : Call} {session : Session} {id : String}
    (h : c.target = some (session, id)) :
    id ≠ "" ∧ ∃ record data, c = .updateTask session record (some id) data := by
  simp only [Call.target] at h
  split at h
  · split at h
    · cases h
    · case isFalse hne =>
      cases h
      exact ⟨hne, _, _, rfl⟩
  · cases h

/-- A write to a task that is there changes that task by its data. -/
theorem update_of_write {tasks : Collection} {id : String} (data : Payload) {before : Doc}
    (hid : id ≠ "") (hbefore : tasks.get? id = some before) :
    ∃ written, updateTaskStatusByTaskId (some id) (updateData tasks · data) = some written ∧
      ∀ after, written.get? id = some after → after = update before data := by
  obtain ⟨written, hwritten, hget⟩ := Store.modify_of_get? hbefore fun d => update d data
  refine ⟨written, by simpa [updateTaskStatusByTaskId, hid, updateData] using hwritten, ?_⟩
  intro after hafter
  exact Option.some.inj (hafter.symm.trans hget)

/-- A landing is the reply to a write of the session, and the task after it is the task before it
with the data of the write. -/
theorem landing_eq_some {s : State} {e : Event} {session : Session} {before after : Doc}
    (h : landing s e = some (session, before, after)) :
    ∃ call record id data rest, e = .resume call .ok ∧
      takeOut s.calls call = some (.updateTask session record (some id) data, rest) ∧
      s.tasks.get? id = some before ∧ after = update before data := by
  simp only [landing] at h
  split at h
  · case h_1 call =>
    obtain ⟨⟨c, rest⟩, ht, h⟩ := Option.bind_eq_some_iff.mp h
    obtain ⟨⟨made, id⟩, htarget, h⟩ := Option.bind_eq_some_iff.mp h
    obtain ⟨d, hd, h⟩ := Option.bind_eq_some_iff.mp h
    obtain ⟨t, hstep, h⟩ := Option.bind_eq_some_iff.mp h
    obtain ⟨d', hd', h⟩ := Option.bind_eq_some_iff.mp h
    cases h
    obtain ⟨hid, record, data, rfl⟩ := target_eq_some htarget
    obtain ⟨tasks, htasks, hafter⟩ := update_of_write data hid hd
    refine ⟨call, record, id, data, rest, rfl, ht, hd, hafter after ?_⟩
    obtain ⟨⟨c, rest'⟩, ht', hstep⟩ := Option.bind_eq_some_iff.mp hstep
    cases ht.symm.trans ht'
    simp only [ProfileStamp.resume, htasks] at hstep
    cases hstep
    exact hd'
  · cases h

/-- A write in flight lands with the fields of the record it carries. -/
theorem step_stamps {s : State} {e : Event} (h : Inv s) (from_session : FromSession s e) :
    StampsOwn s e := by
  intro session before after hlanding
  obtain ⟨call, record, id, data, rest, rfl, ht, hbefore, rfl⟩ := landing_eq_some hlanding
  obtain ⟨d, rfl, hmem, stamps⟩ := h.calls _ (mem_takeOut ht)
  have covers : Covers d before := from_session _ ht before hbefore
  refine ⟨⟨d, hmem, stamps.update before⟩, fun k hk hne => ?_⟩
  rw [stamps.update before k hk]
  exact fun hnull => hne (covers k hk hnull)

/-- In every run in which each operation finds the profile loaded in its own session, every write
stamps the profile of its own employee. -/
theorem stamps_own {tasks : Collection} {userId : Option String} {es : List Event}
    (from_session : EveryStep step FromSession (initial tasks userId) es) :
    EveryStep step StampsOwn (initial tasks userId) es := by
  have hinit : Inv (initial tasks userId) :=
    ⟨fun r hr => (nomatch hr), fun m hm => (nomatch hm), fun c hc => (nomatch hc)⟩
  exact everyStep_of_everyStep (fun _ _ _ h hc ht => step_inv h hc ht)
    (fun _ _ _ h hc _ => step_stamps h hc) hinit from_session

instance (s : State) (session : Session) : Decidable (LoadedIn s session) :=
  inferInstanceAs (Decidable (s.loaded.map (·.1.session) = some session))

instance (record before : Doc) : Decidable (Covers record before) :=
  inferInstanceAs (Decidable (∀ k ∈ profileKeys, record k = .null → before k = .null))

instance decidableCallAllowed (s : State) : ∀ c r, Decidable (CallAllowed s c r)
  | .getUserByUserId lookup (some _), .snapshot record =>
    inferInstanceAs (Decidable (record.bind fromDocumentSnapshot = none →
      LoadedIn s lookup.session))
  | .ntpNow session taskModel, .time serverTimeNow _ _ =>
    inferInstanceAs (Decidable (∀ startDate ∈ taskModel.startDate, serverTimeNow ≤ startDate →
      LoadedIn s session))
  | .increaseLateStartTask session _, _ => inferInstanceAs (Decidable (LoadedIn s session))
  | .updateTask _ (some record) (some taskId) _, .ok =>
    inferInstanceAs (Decidable (∀ before ∈ s.tasks.get? taskId, Covers record before))
  | .getUserByUserId _ none, _ | .getUserByUserId _ (some _), .time _ _ _
  | .getUserByUserId _ (some _), .ok | .getUserByUserId _ (some _), .failed
  | .ntpNow _ _, .snapshot _ | .ntpNow _ _, .ok | .ntpNow _ _, .failed
  | .updateTask _ none _ _, _ | .updateTask _ (some _) none _, _
  | .updateTask _ (some _) (some _) _, .snapshot _ | .updateTask _ (some _) (some _) _, .time _ _ _
  | .updateTask _ (some _) (some _) _, .failed => isTrue trivial

instance (s : State) : ∀ e, Decidable (FromSession s e)
  | .onAcceptPressed _ =>
    inferInstanceAs (Decidable (s.userModel.isSome = true → LoadedIn s s.session))
  | .resume call r =>
    inferInstanceAs (Decidable (∀ c ∈ takeOut s.calls call, CallAllowed s c.1 r))
  | .main | .signIn _ | .onSignOutPressed | .getUserDataByUserId | .clockInProcess _
  | .elsewhere _ => isTrue trivial

/-- A record with the employee's identifier under every profile field. -/
def employeeRecord (employee : String) : Doc :=
  update (fun _ => .null) (profileKeys.map fun k => (k, .str employee))

/-- The tasks `t1` and `t2`, both planned for the time from 100 to 200. -/
def twoTasks : Collection :=
  ⟨[("t1", plannedTask TaskStatus.new 100 200), ("t2", plannedTask TaskStatus.confirm 100 200)],
    by decide⟩

/-- The app is started while `e1` is signed in, and the lookup of the start is answered. -/
def startedByFirst : List Event := [.main, .resume 0 (.snapshot (some (employeeRecord "e1")))]

/-- `e1` signs out and `e2` signs in. -/
def changesHands : List Event := [.onSignOutPressed, .signIn "e2"]

/-- Each employee opens a page with the profile first; `e1` accepts, `e2` clocks in late. -/
def bothLoad : List Event :=
  startedByFirst ++ [.onAcceptPressed (some "t1"), .resume 0 .ok] ++ changesHands ++
    [.getUserDataByUserId, .resume 0 (.snapshot (some (employeeRecord "e2"))),
      .clockInProcess (plannedModel "t2" TaskStatus.confirm 100 200),
      .resume 0 (.time 130 none none), .resume 0 .ok, .resume 0 .ok]

theorem stamps_own_twoSessions :
    EveryStep step FromSession (initial twoTasks (some "e1")) bothLoad ∧
      EveryStep step StampsOwn (initial twoTasks (some "e1")) bothLoad ∧
      (run step (initial twoTasks (some "e1")) bothLoad).any (fun t =>
        t.tasks.entries.map (fun e => e.2 "site_en") = [.str "e1", .str "e2"]) = true := by
  have from_session : EveryStep step FromSession (initial twoTasks (some "e1")) bothLoad := by
    decide
  exact ⟨from_session, stamps_own from_session, by decide⟩

/-- A write that lands although no lookup made in its session has returned a record. -/
def landsUnasked (s : State) (e : Event) : Bool :=
  (landing s e).any fun (session, _, _) => s.returned.all fun r => r.1.session ≠ session

theorem not_stampsOwn_of_landsUnasked {s : State} {e : Event} (h : landsUnasked s e = true) :
    ¬ StampsOwn s e := by
  intro hown
  obtain ⟨⟨session, before, after⟩, hlanding, hall⟩ := (Option.any_eq_true _ _).mp h
  obtain ⟨⟨record, hmem, -⟩, -⟩ := hown session before after hlanding
  have hne := List.all_eq_true.mp hall _ hmem
  exact of_decide_eq_true hne rfl

/-- `e2` accepts a task before any lookup is made: the task receives the profile of `e1`. -/
theorem previous_employee_is_stamped :
    ¬ ∀ (tasks : Collection) (userId : Option String) (es : List Event),
        EveryStep step StampsOwn (initial tasks userId) es := by
  intro claim
  have whole := claim twoTasks (some "e1")
    (startedByFirst ++ changesHands ++ [.onAcceptPressed (some "t1")] ++ [.resume 0 .ok])
  refine not_everyStep_of_run (fun s t => landsUnasked s (.resume 0 .ok) ∧
    t.tasks.entries.any (fun e => e.2 "site_en" = .str "e1")) ?_ ?_ whole
  · intro s t _ hbad
    exact not_stampsOwn_of_landsUnasked (of_decide_eq_true hbad).1
  · decide

end ProfileStamp
