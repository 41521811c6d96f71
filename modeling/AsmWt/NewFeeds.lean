import AsmWt.PendingCalls
import AsmWt.ReportCounters
import AsmWt.RequestedTask
import Mathlib.Data.Multiset.AddSub

/-!
# The feeds that tell of an operation

An accepted task, a clocking and a request leave a feed for the organization once
their task is stored. The feed is a second write, whose failure nobody looks at,
and an app that is killed in between never makes it.
-/

namespace NewFeeds

open KeyedRecord Firestore DocStore TasksModel UserProfile ClockProcess Interleaving PendingCalls

structure NewFeedsModel where
  notificationId : Option String := none
  toId : Option String := none
  fromId : Option String := none
  title : Option String := none
  desc : Option String := none
  typeId : Option String := none
  createdDate : Option Int := none
  color : Option String := none
  type : Option String := none
  status : Option String := none

/-- `NewFeedsModel.fromDocumentSnapshot`; `none` is the type error of a wrongly typed field. -/
def fromDocumentSnapshot (id : String) (data : Doc) : Option NewFeedsModel := do
  let toId ← Codec.string.decode (data "to_id")
  let desc ← Codec.string.decode (data "desc")
  let title ← Codec.string.decode (data "title")
  let fromId ← Codec.string.decode (data "from_id")
  let createdDate ← Codec.timestamp.decode (data "created_date")
  let typeId ← Codec.string.decode (data "type_id")
  let color ← Codec.string.decode (data "color")
  let status ← Codec.string.decode (data "status")
  let type ← Codec.string.decode (data "type")
  return {
    notificationId := some id
    toId, desc, title, fromId, createdDate, typeId, color, status, type }

/-- `NewFeedsModel.toJson`; the date is the time it is called, and the colour is left out. -/
def toJson (m : NewFeedsModel) (now : Int) : Payload :=
  [("to_id", Codec.string.encode m.toId),
    ("desc", Codec.string.encode m.desc),
    ("from_id", Codec.string.encode m.fromId),
    ("created_date", .timestamp now),
    ("title", Codec.string.encode m.title),
    ("type_id", Codec.string.encode m.typeId),
    ("type", Codec.string.encode m.type),
    ("status", Codec.string.encode m.status)]

namespace NewFeedsType

def request := "Request"
def accept := "Accept"
def task := "Task"

end NewFeedsType

/-- The texts of `ClockInOutEvent`. -/
def clockInOutEvent : ClockEvent → String
  | .clockIn => "Clock-In"
  | .clockOut => "Clock-Out"

/-- The operations that write a task and then a feed; a clocking is given with the model as its
process has filled it in, a request with the data of its task. -/
inductive Operation where
  | accept (taskId : Option String) (userModel : Option UserModel)
  | clock (kind : ClockEvent) (m : TaskModel) (userModel : Option UserModel)
  | request (data : Payload) (userId : Option String) (command : String)

/-- What is awaited: the write of the task, the counter of completed tasks, and the feed. -/
inductive Call where
  | write (op : Operation)
  | completed (op : Operation) (taskId : String)
  | feed (op : Operation) (taskId : String) (data : Payload)

/-- The stores, the stored organization, the task of the detail page opened last, and the calls
under way, with whether the app still waits for them; beside them, the operations whose task was
stored, and those whose feed is lost. -/
structure State where
  tasks : Collection
  feeds : List ((Operation × String) × Doc) := []
  organizationId : Option String := none
  taskModel : TaskModel := {}
  calls : List (Call × Bool) := []
  stored : List (Operation × String) := []
  lost : List (Operation × String) := []

/-- The model that `createNewFeedsFunc` or `createClockInOutNewFeedsFunc` fills in, for the stored
organization and the worker of the detail page. -/
def feedModel (organizationId pageUserId : Option String) (taskId : String) :
    Operation → NewFeedsModel
  | .accept _ _ =>
    { title := some NewFeedsType.accept
      fromId := pageUserId
      toId := organizationId
      type := some NewFeedsType.task
      typeId := some taskId
      desc := some "Accepted Task"
      status := some TaskStatus.confirm }
  | .clock kind m _ =>
    { title := some (clockInOutEvent kind)
      fromId := m.userId
      toId := organizationId
      type := some NewFeedsType.task
      typeId := some taskId
      desc := some "Worker Performce"
      status := some (targetStatus kind) }
  | .request _ userId command =>
    { title := some NewFeedsType.request
      fromId := userId
      toId := organizationId
      type := some NewFeedsType.task
      typeId := some taskId
      desc := some command
      status := some TaskStatus.confirm }

inductive Event where
  | press (op : Operation)
  | reply (i : Nat) (reached : Bool) (newId : String) (now : Int)
  | setOrganizationId (organizationId : Option String)
  | openDetail (m : TaskModel)
  | killed

/-- The task of an operation is written; a request adds one under a new id. -/
def write (tasks : Collection) (op : Operation) (reached : Bool) (newId : String) (now : Int) :
    Option (String × Collection) :=
  match op with
  | .accept taskId userModel =>
    (updateTaskStatusByTaskId taskId
      (ReportCounters.write tasks (acceptData userModel) reached)).map
      fun tasks => (taskId.getD "", tasks)
  | .clock kind m userModel =>
    (updateTaskStatusByTaskId m.taskId
      (ReportCounters.write tasks (modelData kind m userModel) reached)).map
      fun tasks => (m.taskId.getD "", tasks)
  | .request data _ _ =>
    if reached then
      (tasks.insert newId (RequestedTask.stored now data)).map fun tasks => (newId, tasks)
    else none

/-- What a clock-out awaits between its task and its feed. -/
def Operation.countsCompleted : Operation → Bool
  | .clock .clockOut _ _ => true
  | .accept _ _ | .clock .clockIn _ _ | .request _ _ _ => false

/-- `createNewFeeds` is called. -/
def State.createNewFeeds (s : State) (op : Operation) (taskId : String) (now : Int) : State :=
  let data := toJson (feedModel s.organizationId s.taskModel.userId taskId op) now
  { s with calls := (.feed op taskId data, true) :: s.calls }

/-- The operation behind a call whose task is stored and whose feed may still come. -/
def Call.pending : Call → Option (Operation × String)
  | .write _ => none
  | .completed op taskId => some (op, taskId)
  | .feed op taskId _ => some (op, taskId)

/-- A feed on its way outlives the app, the intention to send one does not. -/
def Call.survives : Call → Bool
  | .write _ | .feed _ _ _ => true
  | .completed _ _ => false

def State.resume (s : State) (call : Call) (waits reached : Bool) (newId : String) (now : Int) :
    State :=
  match call with
  | .write op =>
    match write s.tasks op reached newId now with
    | none => s
    | some (taskId, tasks) =>
      let s := { s with tasks, stored := (op, taskId) :: s.stored }
      if waits then
        if op.countsCompleted then { s with calls := (.completed op taskId, true) :: s.calls }
        else s.createNewFeeds op taskId now
      else { s with lost := (op, taskId) :: s.lost }
  -- the answer of the counter is not looked at
  | .completed op taskId => s.createNewFeeds op taskId now
  | .feed op taskId data =>
    if reached then { s with feeds := ((op, taskId), update (fun _ => .null) data) :: s.feeds }
    else { s with lost := (op, taskId) :: s.lost }

def step (s : State) : Event → Option State
  | .press op => some { s with calls := (.write op, true) :: s.calls }
  | .reply i reached newId now => do
    let (call, calls) ← takeOut s.calls i
    return State.resume { s with calls } call.1 call.2 reached newId now
  | .setOrganizationId organizationId => some { s with organizationId }
  | .openDetail m => some { s with taskModel := m }
  | .killed =>
    some { s with
      calls := (s.calls.filter fun c => c.1.survives).map fun c => (c.1, false)
      lost := (s.calls.filter fun c => !c.1.survives).filterMap (·.1.pending) ++ s.lost }

/-- The operations whose feed may still come. -/
def State.pending (s : State) : List (Operation × String) := s.calls.filterMap (·.1.pending)

/-- The document is read back as the feed of the operation. -/
def FeedOf (op : Operation × String) (doc : Doc) : Prop :=
  ∃ organizationId pageUserId now, ∀ id, fromDocumentSnapshot id doc = some
    { feedModel organizationId pageUserId op.2 op.1 with
      notificationId := some id
      createdDate := some now }

/-- Every operation that was stored has its one feed, or one on the way, or has lost it, and there
is no feed besides. -/
structure Accounted (s : State) : Prop where
  balance : (s.stored : Multiset (Operation × String)) =
    ↑(s.feeds.map Prod.fst) + ↑s.pending + ↑s.lost
  feeds : ∀ f ∈ s.feeds, FeedOf f.1 f.2

theorem fromDocumentSnapshot_toJson (m : NewFeedsModel) (now : Int) (id : String) :
    fromDocumentSnapshot id (update (fun _ => .null) (toJson m now)) = some
      { m with notificationId := some id, createdDate := some now, color := none } := by
  simp only [fromDocumentSnapshot, ↓Codec.decode_bind_eq_some_iff, Option.pure_def,
    Option.some.injEq]
  exact ⟨m.toId, rfl, m.desc, rfl, m.title, rfl, m.fromId, rfl, some now, rfl, m.typeId, rfl, none,
    rfl, m.status, rfl, m.type, rfl, rfl⟩

theorem feedOf_createNewFeeds (organizationId pageUserId : Option String) (op : Operation)
    (taskId : String) (now : Int) :
    FeedOf (op, taskId) (update (fun _ => .null)
      (toJson (feedModel organizationId pageUserId taskId op) now)) := by
  refine ⟨organizationId, pageUserId, now, fun id => ?_⟩
  rw [fromDocumentSnapshot_toJson]
  cases op <;> rfl

section Account

variable {s t : State}

/-- The feeds on their way are what will be read. -/
structure Inv (s : State) : Prop where
  accounted : Accounted s
  sent : ∀ c ∈ s.calls, ∀ op taskId data, c.1 = .feed op taskId data →
    FeedOf (op, taskId) (update (fun _ => .null) data)

theorem pending_takeOut {call : Call × Bool} {calls : List (Call × Bool)} {i : Nat}
    (h : takeOut s.calls i = some (call, calls)) :
    (s.pending : Multiset (Operation × String)) =
      ↑call.1.pending.toList + ↑(calls.filterMap (·.1.pending)) := by
  rw [Multiset.coe_add, Multiset.coe_eq_coe]
  refine ((takeOut_perm h).filterMap _).trans ?_
  cases hp : call.1.pending with
  | none => simp [hp]
  | some op => simp [hp]

/-- An intention that is dropped is lost, everything else is still on its way. -/
theorem pending_killed (calls : List (Call × Bool)) :
    (↑(calls.filterMap (·.1.pending)) : Multiset (Operation × String)) =
      ↑(((calls.filter fun c => c.1.survives).map fun c => (c.1, false)).filterMap (·.1.pending)) +
        ↑((calls.filter fun c => !c.1.survives).filterMap (·.1.pending)) := by
  rw [List.filterMap_map, Multiset.coe_add, Multiset.coe_eq_coe]
  change List.Perm _ (List.filterMap (fun c : Call × Bool => c.1.pending) _ ++
    List.filterMap (fun c : Call × Bool => c.1.pending) _)
  rw [← List.filterMap_append]
  exact ((List.filter_append_perm _ calls).filterMap _).symm

/-- A call joins those under way. -/
theorem Inv.cons_call (call : Call) (waits : Bool)
    (balance : (s.stored : Multiset (Operation × String)) =
      ↑(s.feeds.map Prod.fst) + (↑call.pending.toList + ↑s.pending) + ↑s.lost)
    (feeds : ∀ f ∈ s.feeds, FeedOf f.1 f.2)
    (own : ∀ op taskId data, call = .feed op taskId data →
      FeedOf (op, taskId) (update (fun _ => .null) data))
    (sent : ∀ c ∈ s.calls, ∀ op taskId data, c.1 = .feed op taskId data →
      FeedOf (op, taskId) (update (fun _ => .null) data)) :
    Inv { s with calls := (call, waits) :: s.calls } := by
  refine ⟨⟨?_, feeds⟩, fun c hc op taskId data hdata => ?_⟩
  · rw [balance]
    cases hp : call.pending with
    | none => simp [State.pending, hp]
    | some op => simp [State.pending, hp]
  · rcases List.mem_cons.mp hc with rfl | hc
    · exact own op taskId data hdata
    · exact sent c hc op taskId data hdata

theorem Inv.createNewFeeds {op : Operation} {taskId : String} (now : Int)
    (balance : (s.stored : Multiset (Operation × String)) =
      ↑(s.feeds.map Prod.fst) + (↑[(op, taskId)] + ↑s.pending) + ↑s.lost)
    (feeds : ∀ f ∈ s.feeds, FeedOf f.1 f.2)
    (sent : ∀ c ∈ s.calls, ∀ op taskId data, c.1 = .feed op taskId data →
      FeedOf (op, taskId) (update (fun _ => .null) data)) :
    Inv (s.createNewFeeds op taskId now) := by
  refine Inv.cons_call _ true balance feeds (fun op' taskId' data hdata => ?_) sent
  cases hdata
  exact feedOf_createNewFeeds _ _ op taskId now

/-- The task is stored: its feed is awaited, or lost with the app that was to send it. -/
theorem resume_write_inv (h : Inv s) (op : Operation) (waits reached : Bool) (newId : String)
    (now : Int) : Inv (s.resume (.write op) waits reached newId now) := by
  rw [State.resume]
  cases write s.tasks op reached newId now with
  | none => exact h
  | some written =>
    cases waits with
    | false =>
      refine ⟨⟨?_, h.accounted.feeds⟩, h.sent⟩
      change (↑((op, written.1) :: s.stored) : Multiset (Operation × String)) =
        ↑(s.feeds.map Prod.fst) + ↑s.pending + ↑((op, written.1) :: s.lost)
      rw [← Multiset.cons_coe, h.accounted.balance, ← Multiset.cons_coe, Multiset.add_cons]
    | true =>
      have stored : (↑((op, written.1) :: s.stored) : Multiset (Operation × String)) =
          ↑(s.feeds.map Prod.fst) + (↑[(op, written.1)] + ↑s.pending) + ↑s.lost := by
        rw [← Multiset.cons_coe, h.accounted.balance, Multiset.coe_singleton,
          Multiset.singleton_add, Multiset.add_cons, Multiset.cons_add]
      dsimp only
      rw [if_pos rfl]
      split
      · exact Inv.cons_call
          (s := { s with tasks := written.2, stored := (op, written.1) :: s.stored })
          (.completed op written.1) true stored h.accounted.feeds
          (fun _ _ _ hfeed => nomatch hfeed) h.sent
      · exact Inv.createNewFeeds now stored h.accounted.feeds h.sent

/-- The feed arrives, or it is lost. -/
theorem resume_feed_inv {op : Operation} {taskId : String} {data : Payload}
    (balance : (s.stored : Multiset (Operation × String)) =
      ↑(s.feeds.map Prod.fst) + (↑[(op, taskId)] + ↑s.pending) + ↑s.lost)
    (feeds : ∀ f ∈ s.feeds, FeedOf f.1 f.2)
    (own : FeedOf (op, taskId) (update (fun _ => .null) data))
    (sent : ∀ c ∈ s.calls, ∀ op taskId data, c.1 = .feed op taskId data →
      FeedOf (op, taskId) (update (fun _ => .null) data))
    (waits reached : Bool) (newId : String) (now : Int) :
    Inv (s.resume (.feed op taskId data) waits reached newId now) := by
  rw [Multiset.coe_singleton, Multiset.singleton_add] at balance
  cases reached with
  | true =>
    refine ⟨⟨?_, fun f hf => ?_⟩, sent⟩
    · change (s.stored : Multiset (Operation × String)) =
        ↑((op, taskId) :: s.feeds.map Prod.fst) + ↑s.pending + ↑s.lost
      rw [balance, ← Multiset.cons_coe]
      simp only [Multiset.add_cons, Multiset.cons_add]
    · rcases List.mem_cons.mp hf with rfl | hf
      · exact own
      · exact feeds f hf
  | false =>
    refine ⟨⟨?_, feeds⟩, sent⟩
    change (s.stored : Multiset (Operation × String)) =
      ↑(s.feeds.map Prod.fst) + ↑s.pending + ↑((op, taskId) :: s.lost)
    rw [balance, ← Multiset.cons_coe]
    simp only [Multiset.add_cons, Multiset.cons_add]

theorem resume_inv {call : Call × Bool} {calls : List (Call × Bool)} {i : Nat} (h : Inv s)
    (htake : takeOut s.calls i = some (call, calls)) (reached : Bool) (newId : String)
    (now : Int) :
    Inv (State.resume { s with calls } call.1 call.2 reached newId now) := by
  have sent : ∀ c ∈ calls, ∀ op taskId data, c.1 = .feed op taskId data →
      FeedOf (op, taskId) (update (fun _ => .null) data) :=
    fun c hc => h.sent c (mem_of_mem_rest htake hc)
  have own := h.sent call (mem_takeOut htake)
  have balance := h.accounted.balance
  rw [pending_takeOut htake] at balance
  have feeds := h.accounted.feeds
  obtain ⟨call, waits⟩ := call
  cases call with
  | write op =>
    have settled : (s.stored : Multiset (Operation × String)) =
        ↑(s.feeds.map Prod.fst) + ↑(calls.filterMap (·.1.pending)) + ↑s.lost := by
      simpa [Call.pending] using balance
    have others : Inv { s with calls } := ⟨⟨settled, feeds⟩, sent⟩
    exact resume_write_inv others op waits reached newId now
  | completed op taskId => exact Inv.createNewFeeds now balance feeds sent
  | feed op taskId data =>
    exact resume_feed_inv (s := { s with calls }) balance feeds (own op taskId data rfl) sent
      waits reached newId now

theorem step_inv {e : Event} (h : Inv s) (hstep : step s e = some t) : Inv t := by
  cases e with
  | press op =>
    cases hstep
    refine Inv.cons_call (.write op) true ?_ h.accounted.feeds
      (fun _ _ _ hfeed => nomatch hfeed) h.sent
    simpa [Call.pending] using h.accounted.balance
  | reply i reached newId now =>
    obtain ⟨⟨call, calls⟩, htake, hstep⟩ := Option.bind_eq_some_iff.mp hstep
    cases hstep
    exact resume_inv h htake reached newId now
  | setOrganizationId organizationId =>
    cases hstep
    exact ⟨⟨h.accounted.balance, h.accounted.feeds⟩, h.sent⟩
  | openDetail m =>
    cases hstep
    exact ⟨⟨h.accounted.balance, h.accounted.feeds⟩, h.sent⟩
  | killed =>
    cases hstep
    refine ⟨⟨?_, h.accounted.feeds⟩, fun c hc op taskId data hdata => ?_⟩
    · have balance := h.accounted.balance
      rw [State.pending, pending_killed] at balance
      rw [balance, State.pending, ← Multiset.coe_add (List.filterMap _ _) s.lost]
      simp only [Multiset.add_assoc]
    · obtain ⟨before, hbefore, rfl⟩ := List.mem_map.mp hc
      exact h.sent before (List.mem_of_mem_filter hbefore) op taskId data hdata

end Account

/-- In every run, through failures, other sessions and the end of the app at any point, each stored
operation is told of by one feed, or its feed is on the way or lost, and every feed is one of these
and reads as such. -/
theorem feeds_account (tasks : Collection) (es : List Event) :
    EveryState step Accounted { tasks } es := by
  have start : Inv { tasks } := ⟨⟨rfl, fun _ hf => nomatch hf⟩, fun _ hc => nomatch hc⟩
  have always : EveryState step Inv { tasks } es :=
    everyState_of_inv (fun _ _ _ h hstep => step_inv h hstep) start es
  exact always.mono fun _ h => h.accounted

end NewFeeds
