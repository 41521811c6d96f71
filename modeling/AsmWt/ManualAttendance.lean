import AsmWt.Interleaving
import AsmWt.PendingCalls
import AsmWt.DocStore

/-!
# Manual attendance

A clock-in stores a record and keeps its id in the preferences, a clock-out
closes the record that the preferences name and clears them. The confirm button
of either sheet awaits before the sheet closes, and every step of an operation
awaits, so operations overlap. Only the clock-out button looks at whether a
clock-in is under way.
-/

namespace ManualAttendance

open DocStore Interleaving PendingCalls

structure Record where
  clock_in : String
  clock_out : Option String := none

inductive Action where
  | clockIn
  | clockOut
  deriving DecidableEq

/-- What an operation awaits. `getInstance` to `setClockInId` are the steps of `_saveClockInTime`
after the record is stored, `getClockInId` to `removeClockInId` those of `_clockOut` and
`_clearClockInTime`. -/
inductive Call where
  | getClockInTime
  | getAreaName (action : Action) (images : Nat)
  | uploadImage (action : Action) (left : Nat)
  | saveClockIn (time : String)
  | getInstance (time id : String)
  | setClockInTime (time id : String)
  | setClockInId
  | getClockInId
  | gotClockInId (id : Option String)
  | updateClockIn (id time : String)
  | fetchTaskData
  | clearClockInTime
  | removeClockInTime
  | removeClockInId
  deriving DecidableEq

/-- The records of the user, the preferences `clockInTime` and `clockInId`, the `_clockInTime` of
the page and its open sheet. -/
structure State where
  records : Store String Record
  clockInTime : Option String := none
  clockInId : Option String := none
  shownTime : Option String := none
  sheet : Option Action := none
  calls : List Call := []

inductive Reply where
  | failed
  | done
  | saved (id : String)

inductive Event where
  | updateState
  | openSheet (action : Action)
  | cancel
  | onConfirm (located : Bool) (images : Nat)
  | resume (call : Nat) (r : Reply) (now : String)

def State.await (s : State) (c : Call) : State := { s with calls := c :: s.calls }

/-- The first call of `_saveClockInTime` or `_clockOut`. -/
def firstCall (now : String) : Action → Call
  | .clockIn => .saveClockIn now
  | .clockOut => .getClockInId

/-- What follows a call once it is no longer in flight. -/
def resume (now : String) (s : State) : Call → Reply → Option State
  | .getClockInTime, .done => some { s with shownTime := s.clockInTime }
  -- the context of a sheet that is gone by then
  | .getAreaName _ _, .failed => some s
  | .getAreaName action images, .done =>
    some (State.await { s with sheet := none } (.uploadImage action images))
  -- a failed upload is only logged
  | .uploadImage action left, .failed | .uploadImage action left, .done =>
    some (s.await (if 1 < left then .uploadImage action (left - 1) else firstCall now action))
  | .saveClockIn _, .failed => some s
  | .saveClockIn time, .saved id => do
    let records ← s.records.insert id { clock_in := time }
    return State.await { s with records := records } (.getInstance time id)
  | .getInstance time id, .done =>
    some (State.await { s with clockInTime := some time } (.setClockInTime time id))
  | .setClockInTime time id, .done =>
    some (State.await { s with shownTime := some time, clockInId := some id } .setClockInId)
  | .setClockInId, .done => some s
  | .getClockInId, .done => some (s.await (.gotClockInId s.clockInId))
  -- `clockInId!` throws
  | .gotClockInId none, .done => some s
  | .gotClockInId (some id), .done => some (s.await (.updateClockIn id now))
  | .updateClockIn _ _, .failed => some s
  | .updateClockIn id time, .done => do
    let records ← s.records.modify id fun r => { r with clock_out := some time }
    return State.await { s with records := records } .fetchTaskData
  | .fetchTaskData, .failed | .fetchTaskData, .done => some (s.await .clearClockInTime)
  | .clearClockInTime, .done =>
    some (State.await { s with clockInTime := none } .removeClockInTime)
  | .removeClockInTime, .done =>
    some (State.await { s with clockInId := none } .removeClockInId)
  | .removeClockInId, .done => some { s with shownTime := none }
  | _, _ => none

def step (s : State) : Event → Option State
  | .updateState => some (s.await .getClockInTime)
  | .openSheet .clockIn => if s.sheet = none then some { s with sheet := some .clockIn } else none
  | .openSheet .clockOut =>
    if s.sheet = none ∧ s.shownTime ≠ none then some { s with sheet := some .clockOut } else none
  | .cancel => some { s with sheet := none }
  | .onConfirm located images => do
    let action ← s.sheet
    return if located ∧ images ≠ 0 then s.await (.getAreaName action images) else s
  | .resume call r now => do
    let (c, rest) ← takeOut s.calls call
    resume now { s with calls := rest } c r

def IsOpen (s : State) (id : String) : Prop :=
  ∃ r, (id, r) ∈ s.records.entries ∧ r.clock_out = none

/-- No clock-in or clock-out is in progress. -/
def Quiet (s : State) : Prop := ∀ c ∈ s.calls, c = .getClockInTime

/-- At most one record is open, and it is the one the next clock-out closes. -/
structure NoOrphan (s : State) : Prop where
  atMostOne : s.records.count (fun r => r.clock_out = none) ≤ 1
  named : ∀ id, IsOpen s id → s.clockInId = some id

def NoOrphanWhenQuiet (s : State) : Prop := Quiet s → NoOrphan s

/-- A clock-in is confirmed only while nothing is in progress and no record is open. -/
def OneClockIn (s : State) : Event → Prop
  | .onConfirm located images =>
    -- without a position or an image the press does nothing
    located = true → images ≠ 0 → s.sheet = some .clockIn →
      Quiet s ∧ ∀ e ∈ s.records.entries, e.2.clock_out ≠ none
  | _ => True

/-- Where a call stands in its operation: before the record is stored, after that and before the
preferences name it, on the way to closing the named record, and clearing the preferences. -/
inductive Phase where
  | idle
  | clocksIn
  | created (id : String)
  | closes (id : String)
  | clears
  deriving DecidableEq

def Call.phase : Call → Phase
  | .getAreaName .clockIn _ | .uploadImage .clockIn _ | .saveClockIn _ => .clocksIn
  | .getInstance _ id | .setClockInTime _ id => .created id
  | .gotClockInId (some id) | .updateClockIn id _ => .closes id
  | .fetchTaskData | .clearClockInTime | .removeClockInTime => .clears
  | .getClockInTime | .getAreaName .clockOut _ | .uploadImage .clockOut _ | .setClockInId
  | .getClockInId | .gotClockInId none | .removeClockInId => .idle

/-- What holds while a call is in a phase. -/
def Phase.Sound (s : State) : Phase → Prop
  | .idle => True
  | .clocksIn => s.clockInId = none ∧ ∀ id, ¬ IsOpen s id
  | .created id => s.clockInId = none ∧ IsOpen s id ∧ ∀ j, IsOpen s j → j = id
  | .closes id => ∀ j, IsOpen s j → j = id
  | .clears => ∀ id, ¬ IsOpen s id

def Phase.isClockIn : Phase → Bool
  | .clocksIn | .created _ => true
  | .idle | .closes _ | .clears => false

/-- While a clock-in goes on, nothing else does. -/
def Phase.Apart (p q : Phase) : Prop :=
  (p.isClockIn = true → q = .idle) ∧ (q.isClockIn = true → p = .idle)

structure Inv (s : State) : Prop where
  calls : ∀ c ∈ s.calls, c.phase.Sound s
  apart : s.calls.Pairwise fun c d => c.phase.Apart d.phase
  named : ∀ id, IsOpen s id → s.clockInId = some id ∨ ∃ c ∈ s.calls, c.phase = .created id
  stale : ∀ id, s.clockInId = some id → IsOpen s id ∨ ∃ c ∈ s.calls, c.phase = .clears

theorem Phase.Apart.symm {p q : Phase} (h : p.Apart q) : q.Apart p := ⟨h.2, h.1⟩

theorem Phase.idle_apart (p : Phase) : Phase.idle.Apart p :=
  ⟨fun h => Bool.noConfusion h, fun _ => rfl⟩

/-- Only the records and the id in the preferences matter to a call. -/
theorem Phase.Sound.congr {s t : State} {p : Phase} (h : p.Sound s)
    (hid : t.clockInId = s.clockInId) (hrecords : t.records = s.records) : p.Sound t := by
  cases p with
  | idle => trivial
  | _ => simpa only [Phase.Sound, IsOpen, hid, hrecords] using h

/-- A call that belongs to no clock-in does not mind when no record is open. -/
theorem Phase.sound_of_noneOpen {t : State} (closed : ∀ id, ¬ IsOpen t id) {p : Phase}
    (hp : p.isClockIn = false) : p.Sound t := by
  cases p with
  | idle => trivial
  | clocksIn => cases hp
  | created id => cases hp
  | closes id => exact fun j hj => absurd hj (closed j)
  | clears => exact closed

/-- A clock-in that goes on keeps the preferences empty. -/
theorem Phase.Sound.clockInId {s : State} {p : Phase} (h : p.Sound s) (hp : p.isClockIn = true) :
    s.clockInId = none := by
  cases p with
  | clocksIn => exact h.1
  | created id => exact h.1
  | _ => cases hp

/-- The invariant is about the records, the id in the preferences and the calls in flight. -/
theorem Inv.congr {s t : State} (h : Inv s) (hid : t.clockInId = s.clockInId)
    (hrecords : t.records = s.records) (hcalls : t.calls = s.calls) : Inv t := by
  refine ⟨fun c hc => ?_, ?_, fun id ho => ?_, fun id hn => ?_⟩
  · rw [hcalls] at hc
    exact (h.calls c hc).congr hid hrecords
  · rw [hcalls]
    exact h.apart
  · rw [IsOpen, hrecords] at ho
    rw [hid, hcalls]
    exact h.named id ho
  · rw [hid] at hn
    rw [IsOpen, hrecords, hcalls]
    exact h.stale id hn

theorem Inv.takeOut {s : State} (h : Inv s) {i : Nat} {c : Call} {rest : List Call}
    (ht : takeOut s.calls i = some (c, rest)) : Inv { s with calls := c :: rest } := by
  have hperm := takeOut_perm ht
  refine ⟨fun d hd => (h.calls d (hperm.mem_iff.mpr hd)).congr rfl rfl,
    (hperm.pairwise_iff fun hcd => Phase.Apart.symm hcd).mp h.apart, fun id hid => ?_,
    fun id hid => ?_⟩
  · rcases h.named id hid with hn | ⟨d, hd, hphase⟩
    · exact Or.inl hn
    · exact Or.inr ⟨d, hperm.mem_iff.mp hd, hphase⟩
  · rcases h.stale id hid with ho | ⟨d, hd, hphase⟩
    · exact Or.inl ho
    · exact Or.inr ⟨d, hperm.mem_iff.mp hd, hphase⟩

section Resume

variable {s : State} {c : Call} {rest : List Call}

/-- Others idle while the call is one of a clock-in. -/
theorem Inv.rest_idle (h : Inv { s with calls := c :: rest }) (hc : c.phase.isClockIn = true) :
    ∀ d ∈ rest, d.phase = .idle :=
  fun d hd => ((List.pairwise_cons.mp h.apart).1 d hd).1 hc

/-- No clock-in goes on beside a call that closes or clears. -/
theorem Inv.rest_not_clockIn (h : Inv { s with calls := c :: rest }) (hc : c.phase ≠ .idle) :
    ∀ d ∈ rest, d.phase.isClockIn = false := by
  intro d hd
  cases hclock : d.phase.isClockIn with
  | false => rfl
  | true => exact absurd (((List.pairwise_cons.mp h.apart).1 d hd).2 hclock) hc

/-- The next call of the same phase. -/
theorem Inv.move (h : Inv { s with calls := c :: rest }) (d : Call) (hphase : d.phase = c.phase) :
    Inv { s with calls := d :: rest } := by
  obtain ⟨happart, hrest⟩ := List.pairwise_cons.mp h.apart
  have found : ∀ p, (∃ e ∈ c :: rest, e.phase = p) → ∃ e ∈ d :: rest, e.phase = p := by
    rintro p ⟨e, he, hp⟩
    rcases List.mem_cons.mp he with rfl | he
    · exact ⟨d, List.mem_cons_self, hphase.trans hp⟩
    · exact ⟨e, List.mem_cons_of_mem _ he, hp⟩
  refine ⟨fun e he => ?_, List.pairwise_cons.mpr ⟨fun e he => ?_, hrest⟩,
    fun id ho => (h.named id ho).imp_right (found _),
    fun id hn => (h.stale id hn).imp_right (found _)⟩
  · rcases List.mem_cons.mp he with rfl | he
    · rw [hphase]
      exact (h.calls c List.mem_cons_self).congr rfl rfl
    · exact (h.calls e (List.mem_cons_of_mem _ he)).congr rfl rfl
  · rw [hphase]
    exact happart e he

/-- An operation that ends without having created a record or while clearing. -/
theorem Inv.done (h : Inv { s with calls := c :: rest }) (created : ∀ id, c.phase ≠ .created id)
    (clears : c.phase ≠ .clears) : Inv { s with calls := rest } := by
  have found : ∀ p, c.phase ≠ p → (∃ e ∈ c :: rest, e.phase = p) → ∃ e ∈ rest, e.phase = p := by
    rintro p hne ⟨e, he, hp⟩
    rcases List.mem_cons.mp he with rfl | he
    · exact absurd hp hne
    · exact ⟨e, he, hp⟩
  exact ⟨fun e he => (h.calls e (List.mem_cons_of_mem _ he)).congr rfl rfl,
    (List.pairwise_cons.mp h.apart).2,
    fun id ho => (h.named id ho).imp_right (found _ (created id)),
    fun id hn => (h.stale id hn).imp_right (found _ clears)⟩

end Resume

theorem Inv.await {s : State} (h : Inv s) {c : Call} (sound : c.phase.Sound s)
    (apart : ∀ d ∈ s.calls, c.phase.Apart d.phase) : Inv (s.await c) := by
  refine ⟨fun d hd => ?_, List.pairwise_cons.mpr ⟨apart, h.apart⟩, fun id ho => ?_, fun id hn => ?_⟩
  · rcases List.mem_cons.mp hd with rfl | hd
    · exact sound.congr rfl rfl
    · exact (h.calls d hd).congr rfl rfl
  · refine (h.named id ho).imp_right ?_
    rintro ⟨d, hd, hphase⟩
    exact ⟨d, List.mem_cons_of_mem _ hd, hphase⟩
  · refine (h.stale id hn).imp_right ?_
    rintro ⟨d, hd, hphase⟩
    exact ⟨d, List.mem_cons_of_mem _ hd, hphase⟩

theorem Inv.await_idle {s : State} (h : Inv s) {c : Call} (hc : c.phase = .idle) :
    Inv (s.await c) := by
  refine h.await ?_ fun d _ => ?_
  · rw [hc]
    trivial
  · rw [hc]
    exact Phase.idle_apart d.phase

/-- The record a clock-in stores is the only one that is open. -/
theorem Inv.insert {s : State} {time id : String} {rest : List Call}
    (h : Inv { s with calls := .saveClockIn time :: rest }) {records : Store String Record}
    (hinsert : s.records.insert id { clock_in := time } = some records) :
    Inv { s with records := records, calls := .getInstance time id :: rest } := by
  have idle := h.rest_idle rfl
  obtain ⟨hnone, hclosed⟩ : s.clockInId = none ∧ ∀ j, ¬ IsOpen s j :=
    h.calls _ List.mem_cons_self
  have hopen : ∀ j, IsOpen { s with records := records, calls := .getInstance time id :: rest } j →
      j = id := by
    rintro j ⟨r, hr, ho⟩
    rcases (Store.mem_insert hinsert).mp hr with ⟨rfl, -⟩ | hr
    · rfl
    · exact absurd ⟨r, hr, ho⟩ (hclosed j)
  refine ⟨fun d hd => ?_, List.pairwise_cons.mpr ⟨fun d hd => ?_, ?_⟩, fun j hj => ?_,
    fun j hj => ?_⟩
  · rcases List.mem_cons.mp hd with rfl | hd
    · exact ⟨hnone, ⟨_, (Store.mem_insert hinsert).mpr (Or.inl ⟨rfl, rfl⟩), rfl⟩, hopen⟩
    · rw [idle d hd]
      trivial
  · rw [idle d hd]
    exact (Phase.idle_apart _).symm
  · exact (List.pairwise_cons.mp h.apart).2
  · rw [hopen j hj]
    exact Or.inr ⟨_, List.mem_cons_self, rfl⟩
  · cases hnone.symm.trans hj

/-- The preferences name the record that is open. -/
theorem Inv.setClockInId {s : State} {time id : String} {rest : List Call}
    (h : Inv { s with calls := .setClockInTime time id :: rest }) :
    Inv { s with
      shownTime := some time
      clockInId := some id
      calls := .setClockInId :: rest } := by
  have idle := h.rest_idle rfl
  obtain ⟨-, hopen, hall⟩ : s.clockInId = none ∧ IsOpen s id ∧ ∀ j, IsOpen s j → j = id :=
    h.calls _ List.mem_cons_self
  refine ⟨fun d hd => ?_, List.pairwise_cons.mpr ⟨fun d hd => ?_, ?_⟩, fun j hj => ?_,
    fun j hj => ?_⟩
  · rcases List.mem_cons.mp hd with rfl | hd
    · trivial
    · rw [idle d hd]
      trivial
  · rw [idle d hd]
    exact Phase.idle_apart _
  · exact (List.pairwise_cons.mp h.apart).2
  · rw [hall j hj]
    exact Or.inl rfl
  · cases hj
    exact Or.inl hopen

/-- What the preferences name is what is open, so a clock-out closes the right record. -/
theorem Inv.gotClockInId {s : State} (h : Inv s) : Inv (s.await (.gotClockInId s.clockInId)) := by
  cases hid : s.clockInId with
  | none => exact h.await_idle rfl
  | some id =>
    have noClockIn : ∀ d ∈ s.calls, d.phase.isClockIn = false := by
      intro d hd
      cases hclock : d.phase.isClockIn with
      | false => rfl
      | true => cases hid.symm.trans ((h.calls d hd).clockInId hclock)
    refine h.await (fun j hj => ?_) fun d hd => ⟨fun hc => Bool.noConfusion hc, fun hc => ?_⟩
    · rcases h.named j hj with hn | ⟨d, hd, hphase⟩
      · exact Option.some.inj (hn.symm.trans hid)
      · have hfalse := noClockIn d hd
        rw [hphase] at hfalse
        cases hfalse
    · cases hc.symm.trans (noClockIn d hd)

/-- A state without an open record, where a call that clears the preferences goes on or the
preferences are empty. -/
theorem Inv.noneOpen {s : State} {c d : Call} {rest : List Call}
    (h : Inv { s with calls := c :: rest }) (hc : c.phase ≠ .idle) {t : State}
    (hcalls : t.calls = d :: rest) (hd : d.phase.isClockIn = false) (closed : ∀ id, ¬ IsOpen t id)
    (stale : d.phase = .clears ∨ t.clockInId = none) : Inv t := by
  have notClockIn := h.rest_not_clockIn hc
  refine ⟨fun e he => ?_, ?_, fun j hj => absurd hj (closed j), fun j hj => ?_⟩
  · rw [hcalls] at he
    apply Phase.sound_of_noneOpen closed
    rcases List.mem_cons.mp he with rfl | he
    · exact hd
    · exact notClockIn e he
  · rw [hcalls]
    refine List.pairwise_cons.mpr ⟨fun e he => ⟨fun hx => ?_, fun hx => ?_⟩,
      (List.pairwise_cons.mp h.apart).2⟩
    · cases hx.symm.trans hd
    · cases hx.symm.trans (notClockIn e he)
  · rcases stale with hclears | hnone
    · rw [hcalls]
      exact Or.inr ⟨d, List.mem_cons_self, hclears⟩
    · cases hnone.symm.trans hj

/-- A clock-out closes the only record that is open. -/
theorem Inv.modify {s : State} {id time : String} {rest : List Call}
    (h : Inv { s with calls := .updateClockIn id time :: rest }) {records : Store String Record}
    (hmodify : s.records.modify id (fun r => { r with clock_out := some time }) = some records) :
    Inv { s with records := records, calls := .fetchTaskData :: rest } := by
  have hall : ∀ j, IsOpen s j → j = id := h.calls _ List.mem_cons_self
  refine h.noneOpen Phase.noConfusion rfl rfl ?_ (Or.inl rfl)
  rintro j ⟨r, hr, ho⟩
  rcases (Store.mem_modify hmodify).mp hr with ⟨hne, hr⟩ | ⟨-, r', -, rfl⟩
  · exact hne (hall j ⟨r, hr, ho⟩)
  · cases ho

/-- Whatever a call in flight replies, the invariant holds afterwards. -/
theorem resume_inv {s t : State} {c : Call} {rest : List Call} {r : Reply} {now : String}
    (h : Inv { s with calls := c :: rest })
    (hr : resume now { s with calls := rest } c r = some t) : Inv t := by
  cases c with
  | getClockInTime =>
    cases r with
    | done =>
      cases hr
      exact (h.done nofun nofun).congr rfl rfl rfl
    | _ => cases hr
  | getAreaName action images =>
    cases r with
    | failed =>
      cases hr
      cases action <;> exact h.done nofun nofun
    | done =>
      cases hr
      have moved := h.move (.uploadImage action images) (by cases action <;> rfl)
      exact moved.congr rfl rfl rfl
    | saved id => cases hr
  | uploadImage action left =>
    have next : Inv (State.await { s with calls := rest }
        (if 1 < left then .uploadImage action (left - 1) else firstCall now action)) := by
      refine h.move _ ?_
      split
      · cases action <;> rfl
      · cases action <;> rfl
    cases r with
    | failed =>
      cases hr
      exact next
    | done =>
      cases hr
      exact next
    | saved id => cases hr
  | saveClockIn time =>
    cases r with
    | failed =>
      cases hr
      exact h.done nofun nofun
    | done => cases hr
    | saved id =>
      obtain ⟨records, hinsert, hr⟩ := Option.bind_eq_some_iff.mp hr
      cases hr
      exact h.insert hinsert
  | getInstance time id =>
    cases r with
    | done =>
      cases hr
      exact (h.move (.setClockInTime time id) rfl).congr rfl rfl rfl
    | _ => cases hr
  | setClockInTime time id =>
    cases r with
    | done =>
      cases hr
      exact h.setClockInId
    | _ => cases hr
  | setClockInId =>
    cases r with
    | done =>
      cases hr
      exact h.done nofun nofun
    | _ => cases hr
  | getClockInId =>
    cases r with
    | done =>
      cases hr
      exact (h.done nofun nofun).gotClockInId
    | _ => cases hr
  | gotClockInId id =>
    cases r with
    | done =>
      cases id with
      | none =>
        cases hr
        exact h.done nofun nofun
      | some id =>
        cases hr
        exact h.move (.updateClockIn id now) rfl
    | _ => cases id <;> cases hr
  | updateClockIn id time =>
    cases r with
    | failed =>
      cases hr
      exact h.done nofun nofun
    | done =>
      obtain ⟨records, hmodify, hr⟩ := Option.bind_eq_some_iff.mp hr
      cases hr
      exact h.modify hmodify
    | saved id => cases hr
  | fetchTaskData =>
    cases r with
    | saved id => cases hr
    | _ =>
      cases hr
      exact h.move .clearClockInTime rfl
  | clearClockInTime =>
    cases r with
    | done =>
      cases hr
      exact (h.move .removeClockInTime rfl).congr rfl rfl rfl
    | _ => cases hr
  | removeClockInTime =>
    cases r with
    | done =>
      cases hr
      have closed : ∀ id, ¬ IsOpen s id := h.calls _ List.mem_cons_self
      exact h.noneOpen nofun rfl rfl closed (Or.inr rfl)
    | _ => cases hr
  | removeClockInId =>
    cases r with
    | done =>
      cases hr
      exact (h.done nofun nofun).congr rfl rfl rfl
    | _ => cases hr

theorem Quiet.phase {s : State} (h : Quiet s) {c : Call} (hc : c ∈ s.calls) : c.phase = .idle := by
  rw [h c hc]
  rfl

/-- A clock-in that is confirmed alone starts with empty preferences. -/
theorem Inv.confirm {s : State} (h : Inv s) (quiet : Quiet s)
    (closed : ∀ e ∈ s.records.entries, e.2.clock_out ≠ none) (images : Nat) :
    Inv (s.await (.getAreaName .clockIn images)) := by
  have noneOpen : ∀ id, ¬ IsOpen s id := by
    rintro id ⟨r, hr, ho⟩
    exact closed _ hr ho
  refine h.await ⟨?_, noneOpen⟩ fun d hd => ?_
  · cases hid : s.clockInId with
    | none => rfl
    | some id =>
      rcases h.stale id hid with ho | ⟨d, hd, hphase⟩
      · exact absurd ho (noneOpen id)
      · cases hphase.symm.trans (quiet.phase hd)
  · rw [quiet.phase hd]
    exact (Phase.idle_apart _).symm

theorem step_inv {s t : State} {e : Event} (h : Inv s) (one : OneClockIn s e)
    (hstep : step s e = some t) : Inv t := by
  cases e with
  | updateState =>
    cases hstep
    exact h.await_idle rfl
  | openSheet action =>
    cases action <;> (simp only [step] at hstep; split at hstep)
    · cases hstep
      exact h.congr rfl rfl rfl
    · cases hstep
    · cases hstep
      exact h.congr rfl rfl rfl
    · cases hstep
  | cancel =>
    cases hstep
    exact h.congr rfl rfl rfl
  | onConfirm located images =>
    obtain ⟨action, hsheet, hstep⟩ := Option.bind_eq_some_iff.mp hstep
    cases hstep
    split
    · case isTrue presses =>
      cases action with
      | clockIn =>
        obtain ⟨quiet, closed⟩ := one presses.1 presses.2 hsheet
        exact h.confirm quiet closed images
      | clockOut => exact h.await_idle rfl
    · exact h
  | resume call r now =>
    obtain ⟨⟨c, rest⟩, ht, hstep⟩ := Option.bind_eq_some_iff.mp hstep
    exact resume_inv (h.takeOut ht) hstep

theorem Inv.noOrphan {s : State} (h : Inv s) : NoOrphanWhenQuiet s := by
  intro quiet
  have named : ∀ id, IsOpen s id → s.clockInId = some id := by
    intro id ho
    rcases h.named id ho with hn | ⟨c, hc, hphase⟩
    · exact hn
    · cases hphase.symm.trans (quiet.phase hc)
  refine ⟨Store.count_le_one fun e he f hf hpe hpf => ?_, named⟩
  have hne := named e.1 ⟨e.2, he, of_decide_eq_true hpe⟩
  have hnf := named f.1 ⟨f.2, hf, of_decide_eq_true hpf⟩
  exact Option.some.inj (hne.symm.trans hnf)

/-- However presses and replies overlap: when every clock-in is confirmed alone, each state with
nothing in progress has at most one open record, the one the preferences name. -/
theorem no_orphan {records : Store String Record}
    (closed : ∀ e ∈ records.entries, e.2.clock_out ≠ none) {es : List Event}
    (oneClockIn : EveryStep step OneClockIn { records := records } es) :
    EveryState step NoOrphanWhenQuiet { records := records } es := by
  have hinit : Inv { records := records } := by
    refine ⟨fun _ hc => absurd hc List.not_mem_nil, List.Pairwise.nil, fun id ho => ?_, nofun⟩
    obtain ⟨r, hr, ho⟩ := ho
    exact absurd ho (closed _ hr)
  have hinv := everyState_of_everyStep (fun _ _ _ h hc ht => step_inv h hc ht) hinit oneClockIn
  exact hinv.mono fun _ h => h.noOrphan

instance (s : State) : Decidable (Quiet s) :=
  inferInstanceAs (Decidable (∀ c ∈ s.calls, c = .getClockInTime))

instance (s : State) : ∀ e, Decidable (OneClockIn s e)
  | .onConfirm located images =>
    inferInstanceAs (Decidable (located = true → images ≠ 0 → s.sheet = some .clockIn →
      Quiet s ∧ ∀ e ∈ s.records.entries, e.2.clock_out ≠ none))
  | .updateState | .openSheet _ | .cancel | .resume _ _ _ => isTrue trivial

/-- Yesterday's record, which is closed. -/
def yesterday : Store String Record :=
  ⟨[("r0", { clock_in := "07:00", clock_out := some "16:00" })], by decide⟩

/-- A clock-in with one image, stored under the id. -/
def clocksIn (id now : String) : List Event :=
  [.openSheet .clockIn, .onConfirm true 1, .resume 0 .done now, .resume 0 .done now,
    .resume 0 (.saved id) now, .resume 0 .done now, .resume 0 .done now, .resume 0 .done now]

theorem no_orphan_single :
    (∀ e ∈ yesterday.entries, e.2.clock_out ≠ none) ∧
      EveryStep step OneClockIn { records := yesterday } (clocksIn "r1" "08:00") ∧
      EveryState step NoOrphanWhenQuiet { records := yesterday } (clocksIn "r1" "08:00") ∧
      (run step { records := yesterday } (clocksIn "r1" "08:00")).any
        (fun t => t.clockInId = some "r1" ∧ t.calls = []) = true := by
  have closed : ∀ e ∈ yesterday.entries, e.2.clock_out ≠ none := by decide
  have oneClockIn : EveryStep step OneClockIn { records := yesterday } (clocksIn "r1" "08:00") := by
    decide
  exact ⟨closed, oneClockIn, no_orphan closed oneClockIn, by decide⟩

/-- The clock-in button works while the user is clocked in: the second id replaces the first,
whose record no clock-out closes any more. -/
theorem second_clock_in_leaves_first_open :
    ¬ ∀ (records : Store String Record) (es : List Event),
        (∀ e ∈ records.entries, e.2.clock_out ≠ none) →
          EveryState step NoOrphanWhenQuiet { records := records } es := by
  intro claim
  refine not_everyState_of_run
    (fun t => t.calls = [] ∧ t.records.entries.any (fun e => e.1 = "r1" ∧ e.2.clock_out = none) ∧
      t.clockInId = some "r2") ?_ ?_
    (claim yesterday (clocksIn "r1" "08:00" ++ clocksIn "r2" "08:05") (by decide))
  · intro t hbad h
    obtain ⟨hcalls, hopen, hid⟩ := of_decide_eq_true hbad
    obtain ⟨⟨id, r⟩, hmem, hr⟩ := List.any_eq_true.mp hopen
    obtain ⟨rfl, ho⟩ := of_decide_eq_true hr
    have quiet : Quiet t := by
      intro c hc
      rw [hcalls] at hc
      cases hc
    have hnamed := (h quiet).named "r1" ⟨r, hmem, ho⟩
    exact absurd (hnamed.symm.trans hid) (by decide)
  · decide

end ManualAttendance
