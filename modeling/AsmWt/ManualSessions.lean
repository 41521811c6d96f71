import AsmWt.ManualAttendance

/-!
# Manual attendance on a shared device

The pending clock-in is kept in two preferences of the device. They are not
keyed by employee, and neither a sign-out nor a sign-in touches them. A page
belongs to the employee who was signed in when it was opened; an operation goes
on after its page has gone, until it needs the page.
-/

namespace ManualSessions

open DocStore Interleaving PendingCalls ManualAttendance

structure Record where
  emp_id : String
  clock_in : String
  clock_out : Option String := none

/-- A `TaskManualView` that was opened, with its `widget.userId`. -/
structure Page where
  number : Nat
  userId : String
  deriving DecidableEq

/-- What a preference holds, and the employee on whose page it was stored. -/
structure Stored where
  value : String
  storedBy : String
  deriving DecidableEq

/-- The records of all employees; the preferences `clockInTime`, `clockInId` and `userId`; the page
that is mounted, its `_clockInTime` and its sheet; the calls in flight with the pages they are made
on. -/
structure State where
  records : Store String Record
  clockInTime : Option Stored := none
  clockInId : Option Stored := none
  userId : String := ""
  opened : Nat := 0
  page : Option Page := none
  shownTime : Option String := none
  sheet : Option Action := none
  calls : List (Page × Call) := []

/-- `openPage` and `closePage` are the changes between the tabs of the root page. -/
inductive Event where
  | main
  | signIn (staffId : String)
  | onSignOutPressed
  | openPage
  | closePage
  | updateState
  | openSheet (action : Action)
  | cancel
  | onConfirm (located : Bool) (images : Nat)
  | resume (call : Nat) (r : Reply) (now : String)

namespace State

def await (s : State) (page : Page) (c : Call) : State :=
  { s with calls := (page, c) :: s.calls }

/-- The page goes, and with it what it shows. -/
def unmount (s : State) : State := { s with page := none, shownTime := none, sheet := none }

/-- A new page reads the stored time as soon as it is there. -/
def mount (s : State) : State :=
  let page : Page := ⟨s.opened, s.userId⟩
  State.await { s with opened := s.opened + 1, page := some page, shownTime := none, sheet := none }
    page .getClockInTime

/-- A step that needs the context of its page ends the operation once the page has gone. -/
def onPage (s : State) (page : Page) (t : State) : State := if s.page = some page then t else s

end State

/-- What follows a call once it is no longer in flight. -/
def resume (now : String) (s : State) (page : Page) : Call → Reply → Option State
  | .getClockInTime, .done =>
    some (s.onPage page { s with shownTime := s.clockInTime.map Stored.value })
  | .getAreaName _ _, .failed => some s
  | .getAreaName action images, .done =>
    some (State.await (s.onPage page { s with sheet := none }) page (.uploadImage action images))
  | .uploadImage action left, .failed | .uploadImage action left, .done =>
    if 1 < left then some (s.await page (.uploadImage action (left - 1)))
    else
      match action with
      -- `_saveClockInTime` looks its provider up first, `_clockOut` reads the preferences first
      | .clockIn => some (s.onPage page (s.await page (firstCall now .clockIn)))
      | .clockOut => some (s.await page (firstCall now .clockOut))
  | .saveClockIn _, .failed => some s
  | .saveClockIn time, .saved id => do
    let records ← s.records.insert id { emp_id := page.userId, clock_in := time }
    return State.await { s with records := records } page (.getInstance time id)
  | .getInstance time id, .done =>
    some (State.await { s with clockInTime := some ⟨time, page.userId⟩ } page
      (.setClockInTime time id))
  | .setClockInTime time id, .done =>
    some (s.onPage page (State.await { s with
      shownTime := some time
      clockInId := some ⟨id, page.userId⟩ } page .setClockInId))
  | .setClockInId, .done => some s
  | .getClockInId, .done => some (s.await page (.gotClockInId (s.clockInId.map Stored.value)))
  | .gotClockInId none, .done => some s
  | .gotClockInId (some id), .done => some (s.onPage page (s.await page (.updateClockIn id now)))
  | .updateClockIn _ _, .failed => some s
  | .updateClockIn id time, .done => do
    let records ← s.records.modify id fun r => { r with clock_out := some time }
    return State.await { s with records := records } page .fetchTaskData
  | .fetchTaskData, .failed | .fetchTaskData, .done => some (s.await page .clearClockInTime)
  | .clearClockInTime, .done =>
    some (State.await { s with clockInTime := none } page .removeClockInTime)
  | .removeClockInTime, .done =>
    some (State.await { s with clockInId := none } page .removeClockInId)
  | .removeClockInId, .done => some (s.onPage page { s with shownTime := none })
  | _, _ => none

def step (s : State) : Event → Option State
  | .main => some (State.unmount { s with calls := [] })
  | .signIn staffId => some (State.unmount { s with userId := staffId })
  | .onSignOutPressed => some (State.unmount { s with userId := "" })
  | .openPage => if s.userId = "" then none else some s.mount
  | .closePage => some s.unmount
  | .updateState => s.page.map fun page => s.await page .getClockInTime
  | .openSheet .clockIn =>
    if s.page ≠ none ∧ s.sheet = none then some { s with sheet := some .clockIn } else none
  | .openSheet .clockOut =>
    if s.page ≠ none ∧ s.sheet = none ∧ s.shownTime ≠ none then
      some { s with sheet := some .clockOut }
    else none
  | .cancel => some { s with sheet := none }
  | .onConfirm located images => do
    let page ← s.page
    let action ← s.sheet
    return if located ∧ images ≠ 0 then s.await page (.getAreaName action images) else s
  | .resume call r now => do
    let (c, rest) ← takeOut s.calls call
    resume now { s with calls := rest } c.1 c.2 r

/-- The employee has clocked in at that time, and the record has that id. -/
def Made (s : State) (userId id time : String) : Prop :=
  ∃ r, (id, r) ∈ s.records.entries ∧ r.emp_id = userId ∧ r.clock_in = time

/-- A page that shows a clock-in time shows one of its employee. -/
def ShowsOwn (s : State) : Prop :=
  ∀ page ∈ s.page, ∀ time ∈ s.shownTime, ∃ id, Made s page.userId id time

/-- A clock-out that takes effect closes a record of the employee on whose page it is done. -/
def ClosesOwn (s : State) : Event → Prop
  | .resume call .done _ =>
    ∀ page id time rest, takeOut s.calls call = some ((page, .updateClockIn id time), rest) →
      ∀ r, (id, r) ∈ s.records.entries → r.emp_id = page.userId
  | _ => True

/-- What a page is about to read. -/
def readBy (s : State) : Call → Option Stored
  | .getClockInTime => s.clockInTime
  | .getClockInId => s.clockInId
  | _ => none

/-- A page that reads a preference finds nothing there or what its own employee stored. -/
def ReadsOwn (s : State) : Event → Prop
  | .resume call .done _ =>
    ∀ c ∈ takeOut s.calls call, s.page = some c.1.1 →
      ∀ stored ∈ readBy s c.1.2, stored.storedBy = c.1.1.userId
  | _ => True

/-- What is known about a call: the record it is about is one of its page's employee. -/
def CallOwned (s : State) (page : Page) : Call → Prop
  | .getInstance time id | .setClockInTime time id => Made s page.userId id time
  | .gotClockInId (some id) => s.page = some page → ∃ time, Made s page.userId id time
  | .updateClockIn id _ => ∃ time, Made s page.userId id time
  | _ => True

/-- The preferences hold clock-ins of those who stored them, the page shows one of its employee, and
a page that has gone does not come back. -/
structure Inv (s : State) : Prop where
  clockInTime : ∀ stored ∈ s.clockInTime, ∃ id, Made s stored.storedBy id stored.value
  clockInId : ∀ stored ∈ s.clockInId, ∃ time, Made s stored.storedBy stored.value time
  shows : ShowsOwn s
  pageOld : ∀ page ∈ s.page, page.number < s.opened
  callsOld : ∀ c ∈ s.calls, c.1.number < s.opened
  calls : ∀ c ∈ s.calls, CallOwned s c.1 c.2

/-- Every clock-in of `s` is one of `t`. -/
def Keeps (s t : State) : Prop := ∀ userId id time, Made s userId id time → Made t userId id time

theorem keeps_of_eq {s t : State} (h : t.records = s.records) : Keeps s t := by
  intro userId id time hmade
  rwa [Made, h]

theorem keeps_insert {s : State} {id : String} {r : Record} {records : Store String Record}
    (h : s.records.insert id r = some records) : Keeps s { s with records := records } := by
  rintro userId j time ⟨q, hq, howner, htime⟩
  exact ⟨q, (Store.mem_insert h).mpr (Or.inr hq), howner, htime⟩

theorem made_insert {s : State} {id userId time : String} {records : Store String Record}
    (h : s.records.insert id { emp_id := userId, clock_in := time } = some records) :
    Made { s with records := records } userId id time :=
  ⟨_, (Store.mem_insert h).mpr (Or.inl ⟨rfl, rfl⟩), rfl, rfl⟩

/-- Closing a record changes neither its employee nor its clock-in. -/
theorem keeps_close {s : State} {id clock_out : String} {records : Store String Record}
    (h : (s.records.modify id fun r => { r with clock_out := some clock_out }) = some records) :
    Keeps s { s with records := records } := by
  rintro userId j time ⟨q, hq, howner, htime⟩
  by_cases hj : j = id
  · subst hj
    exact ⟨_, (Store.mem_modify h).mpr (Or.inr ⟨rfl, q, hq, rfl⟩), howner, htime⟩
  · exact ⟨q, (Store.mem_modify h).mpr (Or.inl ⟨hj, hq⟩), howner, htime⟩

/-- A call minds the records it is about and whether its page has come back. -/
theorem CallOwned.keep {s t : State} (keeps : Keeps s t) {page : Page}
    (back : t.page = some page → s.page = some page) {c : Call} (h : CallOwned s page c) :
    CallOwned t page c := by
  cases c with
  | getInstance time id => exact keeps _ _ _ h
  | setClockInTime time id => exact keeps _ _ _ h
  | gotClockInId id =>
    cases id with
    | none => trivial
    | some id =>
      intro hpage
      obtain ⟨time, hmade⟩ := h (back hpage)
      exact ⟨time, keeps _ _ _ hmade⟩
  | updateClockIn id time =>
    obtain ⟨time, hmade⟩ := h
    exact ⟨time, keeps _ _ _ hmade⟩
  | _ => trivial

theorem Inv.await {s : State} (h : Inv s) {page : Page} {c : Call} (old : page.number < s.opened)
    (owned : CallOwned s page c) : Inv (s.await page c) := by
  refine { h with callsOld := fun d hd => ?_, calls := fun d hd => ?_ }
  · rcases List.mem_cons.mp hd with rfl | hd
    · exact old
    · exact h.callsOld d hd
  · rcases List.mem_cons.mp hd with rfl | hd
    · exact owned.keep (keeps_of_eq rfl) id
    · exact (h.calls d hd).keep (keeps_of_eq rfl) id

theorem Inv.rest {s : State} (h : Inv s) {i : Nat} {c : Page × Call} {rest : List (Page × Call)}
    (ht : takeOut s.calls i = some (c, rest)) : Inv { s with calls := rest } :=
  { h with
    callsOld := fun d hd => h.callsOld d (mem_of_mem_rest ht hd)
    calls := fun d hd => (h.calls d (mem_of_mem_rest ht hd)).keep (keeps_of_eq rfl) id }

/-- The records may grow. -/
theorem Inv.records {s : State} (h : Inv s) {records : Store String Record}
    (keeps : Keeps s { s with records := records }) : Inv { s with records := records } :=
  { h with
    clockInTime := fun stored hs => (h.clockInTime stored hs).imp fun _ => keeps _ _ _
    clockInId := fun stored hs => (h.clockInId stored hs).imp fun _ => keeps _ _ _
    shows := fun page hp time ht => (h.shows page hp time ht).imp fun _ => keeps _ _ _
    calls := fun c hc => (h.calls c hc).keep keeps id }

/-- The preferences and the page may be given other clock-ins of their employees. -/
theorem Inv.store {s : State} (h : Inv s) {clockInTime clockInId : Option Stored}
    {shown : Option String}
    (htime : ∀ stored ∈ clockInTime, ∃ id, Made s stored.storedBy id stored.value)
    (hid : ∀ stored ∈ clockInId, ∃ time, Made s stored.storedBy stored.value time)
    (hshown : ∀ page ∈ s.page, ∀ time ∈ shown, ∃ id, Made s page.userId id time) :
    Inv { s with clockInTime := clockInTime, clockInId := clockInId, shownTime := shown } :=
  { h with
    clockInTime := htime
    clockInId := hid
    shows := hshown
    calls := fun c hc => (h.calls c hc).keep (keeps_of_eq rfl) id }

theorem Inv.sheet {s : State} (h : Inv s) (sheet : Option Action) :
    Inv { s with sheet := sheet } :=
  { h with calls := fun c hc => (h.calls c hc).keep (keeps_of_eq rfl) id }

/-- Without a page nothing is shown, whoever is signed in. -/
theorem Inv.unmount {s : State} (h : Inv s) (userId : String) :
    Inv (State.unmount { s with userId := userId }) := by
  refine { h with shows := ?_, pageOld := ?_, calls := ?_ }
  · intro page hp
    cases hp
  · intro page hp
    cases hp
  · intro c hc
    refine (h.calls c hc).keep ?_ fun hp => ?_
    · exact keeps_of_eq rfl
    · cases hp

/-- No call in flight belongs to the new page. -/
theorem Inv.mount {s : State} (h : Inv s) : Inv s.mount := by
  refine Inv.await (s := { s with
    opened := s.opened + 1
    page := some ⟨s.opened, s.userId⟩
    shownTime := none
    sheet := none }) ?_ (Nat.lt_succ_self _) trivial
  refine { h with shows := ?_, pageOld := ?_, callsOld := ?_, calls := ?_ }
  · intro page hp time ht
    cases ht
  · intro page hp
    cases hp
    exact Nat.lt_succ_self _
  · exact fun c hc => Nat.lt_succ_of_lt (h.callsOld c hc)
  · intro c hc
    refine (h.calls c hc).keep ?_ fun hp => ?_
    · exact keeps_of_eq rfl
    · have hlt := h.callsOld c hc
      rw [← Option.some.inj hp] at hlt
      exact absurd hlt (Nat.lt_irrefl _)

theorem Inv.onPage {s t : State} (h : Inv s) {page : Page} (ht : s.page = some page → Inv t) :
    Inv (s.onPage page t) := by
  rw [State.onPage]
  split
  · case isTrue hp => exact ht hp
  · exact h

section Resume

variable {s t : State} {page : Page} {c : Call} {now : String}

/-- The reply to a clock-in names a record of the page's employee from then on. -/
theorem Inv.saved (h : Inv s) (old : page.number < s.opened) {time id : String}
    (hr : resume now s page (.saveClockIn time) (.saved id) = some t) : Inv t := by
  obtain ⟨records, hinsert, hr⟩ := Option.bind_eq_some_iff.mp hr
  cases hr
  exact (h.records (keeps_insert hinsert)).await old (made_insert hinsert)

/-- The steps of `_saveClockInTime` after the record is stored. -/
theorem Inv.getInstance (h : Inv s) (old : page.number < s.opened) {time id : String}
    (owned : Made s page.userId id time)
    (hr : resume now s page (.getInstance time id) .done = some t) : Inv t := by
  cases hr
  refine Inv.await (s := { s with clockInTime := some ⟨time, page.userId⟩ }) ?_ old owned
  refine h.store (fun stored hs => ?_) h.clockInId h.shows
  cases hs
  exact ⟨id, owned⟩

theorem Inv.setClockInTime (h : Inv s) (old : page.number < s.opened) {time id : String}
    (owned : Made s page.userId id time)
    (hr : resume now s page (.setClockInTime time id) .done = some t) : Inv t := by
  cases hr
  refine h.onPage fun hpage => ?_
  refine Inv.await (s := { s with
    shownTime := some time
    clockInId := some ⟨id, page.userId⟩ }) ?_ old trivial
  refine h.store h.clockInTime (fun stored hs => ?_) (fun shownOn hp shown ht => ?_)
  · cases hs
    exact ⟨time, owned⟩
  · cases hpage.symm.trans hp
    cases ht
    exact ⟨id, owned⟩

/-- The page shows what it reads. -/
theorem Inv.getClockInTime (h : Inv s)
    (own : s.page = some page → ∀ stored ∈ s.clockInTime, stored.storedBy = page.userId)
    (hr : resume now s page .getClockInTime .done = some t) : Inv t := by
  cases hr
  refine h.onPage fun hpage => ?_
  refine h.store h.clockInTime h.clockInId fun shownOn hp shown ht => ?_
  cases hpage.symm.trans hp
  obtain ⟨stored, hs, rfl⟩ := Option.map_eq_some_iff.mp ht
  rw [← own hpage stored hs]
  exact h.clockInTime stored hs

/-- The id a clock-out goes on with is one of its employee, as long as its page is there. -/
theorem Inv.getClockInId (h : Inv s) (old : page.number < s.opened)
    (own : s.page = some page → ∀ stored ∈ s.clockInId, stored.storedBy = page.userId)
    (hr : resume now s page .getClockInId .done = some t) : Inv t := by
  cases hr
  refine h.await old ?_
  cases hid : s.clockInId with
  | none => trivial
  | some stored =>
    intro hpage
    rw [← own hpage stored hid]
    exact h.clockInId stored hid

theorem Inv.gotClockInId (h : Inv s) (old : page.number < s.opened) {id : Option String}
    (owned : CallOwned s page (.gotClockInId id))
    (hr : resume now s page (.gotClockInId id) .done = some t) : Inv t := by
  cases id with
  | none =>
    cases hr
    exact h
  | some id =>
    cases hr
    exact h.onPage fun hpage => h.await old (owned hpage)

theorem Inv.updateClockIn (h : Inv s) (old : page.number < s.opened) {id time : String}
    (hr : resume now s page (.updateClockIn id time) .done = some t) : Inv t := by
  obtain ⟨records, hmodify, hr⟩ := Option.bind_eq_some_iff.mp hr
  cases hr
  exact (h.records (keeps_close hmodify)).await old trivial

theorem Inv.uploadImage (h : Inv s) (old : page.number < s.opened) {action : Action} {left : Nat}
    {r : Reply} (hr : resume now s page (.uploadImage action left) r = some t) : Inv t := by
  have next : ∀ {t}, (if 1 < left then some (s.await page (.uploadImage action (left - 1)))
      else match action with
        | .clockIn => some (s.onPage page (s.await page (firstCall now .clockIn)))
        | .clockOut => some (s.await page (firstCall now .clockOut))) = some t → Inv t := by
    intro t ht
    split at ht
    · cases ht
      exact h.await old trivial
    · cases action with
      | clockIn =>
        cases ht
        exact h.onPage fun _ => h.await old trivial
      | clockOut =>
        cases ht
        exact h.await old trivial
  cases r with
  | failed => exact next hr
  | done => exact next hr
  | saved id => cases hr

/-- Nothing is left in the preferences or on the page after a clock-out. -/
theorem Inv.clear (h : Inv s) (old : page.number < s.opened)
    (hc : c = .clearClockInTime ∨ c = .removeClockInTime ∨ c = .removeClockInId)
    (hr : resume now s page c .done = some t) : Inv t := by
  have nothing : ∀ {p : Stored → Prop}, ∀ stored ∈ (none : Option Stored), p stored :=
    fun stored hs => nomatch hs
  rcases hc with rfl | rfl | rfl
  · cases hr
    exact (h.store nothing h.clockInId h.shows).await old trivial
  · cases hr
    exact (h.store h.clockInTime nothing h.shows).await old trivial
  · cases hr
    refine h.onPage fun _ => h.store h.clockInTime h.clockInId ?_
    intro shownOn _ shown ht
    cases ht

/-- Whatever a call in flight replies, the invariant holds afterwards. -/
theorem resume_inv (h : Inv s) (old : page.number < s.opened) (owned : CallOwned s page c)
    {r : Reply} (own : r = .done → s.page = some page →
      ∀ stored ∈ readBy s c, stored.storedBy = page.userId)
    (hr : resume now s page c r = some t) : Inv t := by
  cases c with
  | getClockInTime =>
    cases r with
    | done => exact h.getClockInTime (own rfl) hr
    | _ => cases hr
  | getAreaName action images =>
    cases r with
    | failed =>
      cases hr
      exact h
    | done =>
      cases hr
      refine Inv.await (h.onPage fun _ => h.sheet _) ?_ trivial
      rw [State.onPage]
      split <;> exact old
    | saved id => cases hr
  | uploadImage action left => exact h.uploadImage old hr
  | saveClockIn time =>
    cases r with
    | failed =>
      cases hr
      exact h
    | saved id => exact h.saved old hr
    | done => cases hr
  | getInstance time id =>
    cases r with
    | done => exact h.getInstance old owned hr
    | _ => cases hr
  | setClockInTime time id =>
    cases r with
    | done => exact h.setClockInTime old owned hr
    | _ => cases hr
  | setClockInId =>
    cases r with
    | done =>
      cases hr
      exact h
    | _ => cases hr
  | getClockInId =>
    cases r with
    | done => exact h.getClockInId old (own rfl) hr
    | _ => cases hr
  | gotClockInId id =>
    cases r with
    | done => exact h.gotClockInId old owned hr
    | _ => cases id <;> cases hr
  | updateClockIn id time =>
    cases r with
    | failed =>
      cases hr
      exact h
    | done => exact h.updateClockIn old hr
    | saved id => cases hr
  | fetchTaskData =>
    cases r with
    | failed =>
      cases hr
      exact h.await old trivial
    | done =>
      cases hr
      exact h.await old trivial
    | saved id => cases hr
  | clearClockInTime =>
    cases r with
    | done => exact h.clear old (Or.inl rfl) hr
    | _ => cases hr
  | removeClockInTime =>
    cases r with
    | done => exact h.clear old (Or.inr (Or.inl rfl)) hr
    | _ => cases hr
  | removeClockInId =>
    cases r with
    | done => exact h.clear old (Or.inr (Or.inr rfl)) hr
    | _ => cases hr

end Resume

theorem step_inv {s t : State} {e : Event} (h : Inv s) (readsOwn : ReadsOwn s e)
    (hstep : step s e = some t) : Inv t := by
  cases e with
  | main =>
    cases hstep
    have hnone : Inv { s with calls := [] } :=
      { h with callsOld := fun c hc => (nomatch hc), calls := fun c hc => (nomatch hc) }
    exact hnone.unmount s.userId
  | signIn staffId =>
    cases hstep
    exact h.unmount staffId
  | onSignOutPressed =>
    cases hstep
    exact h.unmount ""
  | openPage =>
    simp only [step] at hstep
    split at hstep
    · cases hstep
    · cases hstep
      exact h.mount
  | closePage =>
    cases hstep
    exact h.unmount s.userId
  | updateState =>
    obtain ⟨page, hpage, rfl⟩ := Option.map_eq_some_iff.mp hstep
    exact h.await (h.pageOld page hpage) trivial
  | openSheet action =>
    cases action with
    | clockIn =>
      simp only [step] at hstep
      split at hstep
      · cases hstep
        exact h.sheet _
      · cases hstep
    | clockOut =>
      simp only [step] at hstep
      split at hstep
      · cases hstep
        exact h.sheet _
      · cases hstep
  | cancel =>
    cases hstep
    exact h.sheet none
  | onConfirm located images =>
    obtain ⟨page, hpage, hstep⟩ := Option.bind_eq_some_iff.mp hstep
    obtain ⟨action, -, hstep⟩ := Option.bind_eq_some_iff.mp hstep
    cases hstep
    split
    · exact h.await (h.pageOld page hpage) trivial
    · exact h
  | resume call r now =>
    obtain ⟨⟨⟨page, c⟩, rest⟩, ht, hstep⟩ := Option.bind_eq_some_iff.mp hstep
    have hmem := mem_takeOut ht
    refine resume_inv (h.rest ht) (h.callsOld _ hmem)
      ((h.calls _ hmem).keep (keeps_of_eq rfl) id) ?_ hstep
    rintro rfl hpage stored hs
    refine readsOwn _ ht hpage stored ?_
    cases c <;> exact hs

/-- The update of a clock-out that takes effect is about a record of the page's employee. -/
theorem step_closes {s : State} {e : Event} (h : Inv s) : ClosesOwn s e := by
  cases e with
  | resume call r now =>
    cases r with
    | done =>
      intro page id time rest ht r hr
      obtain ⟨_, q, hq, howner, -⟩ := h.calls _ (mem_takeOut ht)
      have hr := Store.get?_eq_some_iff.mpr hr
      have hq := Store.get?_eq_some_iff.mpr hq
      cases hr.symm.trans hq
      exact howner
    | _ => trivial
  | _ => trivial

/-- In every run in which the pages only read what their own employees stored, every clock-out
closes a record of its own employee, and no page ever shows another employee's clock-in. -/
theorem closes_own_shows_own {records : Store String Record} {es : List Event}
    (readsOwn : EveryStep step ReadsOwn { records := records } es) :
    EveryStep step ClosesOwn { records := records } es ∧
      EveryState step ShowsOwn { records := records } es := by
  have hinit : Inv { records := records } := by
    refine ⟨?_, ?_, ?_, ?_, ?_, ?_⟩
    all_goals
      intro x hx
      cases hx
  have keep : ∀ s e t, Inv s → ReadsOwn s e → step s e = some t → Inv t :=
    fun _ _ _ h hc ht => step_inv h hc ht
  constructor
  · exact everyStep_of_everyStep keep (fun _ _ _ h _ _ => step_closes h) hinit readsOwn
  · exact (everyState_of_everyStep keep hinit readsOwn).mono fun _ h => h.shows

instance (s : State) : ∀ e, Decidable (ReadsOwn s e)
  | .resume call .done _ =>
    inferInstanceAs (Decidable (∀ c ∈ takeOut s.calls call, s.page = some c.1.1 →
      ∀ stored ∈ readBy s c.1.2, stored.storedBy = c.1.1.userId))
  | .resume _ .failed _ | .resume _ (.saved _) _ | .main | .signIn _ | .onSignOutPressed | .openPage
  | .closePage | .updateState | .openSheet _ | .cancel | .onConfirm _ _ => isTrue trivial

/-- An employee signs in, opens the page and sees what it shows. -/
def opensPage (staffId : String) : List Event := [.signIn staffId, .openPage, .resume 0 .done ""]

/-- The sheet is opened and confirmed with one image, which is uploaded at the given time. -/
def confirms (action : Action) (now : String) : List Event :=
  [.openSheet action, .onConfirm true 1, .resume 0 .done now, .resume 0 .done now]

/-- A clock-in in which every call succeeds. -/
def clocksIn (id now : String) : List Event :=
  confirms .clockIn now ++
    [.resume 0 (.saved id) now, .resume 0 .done now, .resume 0 .done now, .resume 0 .done now]

/-- A clock-out up to the update it sends. -/
def clocksOut (now : String) : List Event :=
  confirms .clockOut now ++ [.resume 0 .done now, .resume 0 .done now]

/-- The update succeeds, the history is fetched and the preferences are cleared. -/
def finishesClockOut (now : String) : List Event :=
  List.replicate 5 (.resume 0 .done now)

/-- Each of two employees clocks in and out before signing out. -/
def twoShifts : List Event :=
  opensPage "e1" ++ clocksIn "r1" "08:00" ++ clocksOut "16:00" ++ finishesClockOut "16:00" ++
    [.onSignOutPressed] ++
    opensPage "e2" ++ clocksIn "r2" "17:00" ++ clocksOut "23:00" ++ finishesClockOut "23:00"

def noRecords : Store String Record := ⟨[], List.nodup_nil⟩

theorem closes_own_shows_own_twoShifts :
    EveryStep step ReadsOwn { records := noRecords } twoShifts ∧
      (EveryStep step ClosesOwn { records := noRecords } twoShifts ∧
        EveryState step ShowsOwn { records := noRecords } twoShifts) ∧
      (run step { records := noRecords } twoShifts).any
        (fun t => t.records.entries.map (fun e => (e.2.emp_id, e.2.clock_out)) =
          [("e2", some "23:00"), ("e1", some "16:00")]) = true := by
  have readsOwn : EveryStep step ReadsOwn { records := noRecords } twoShifts := by decide
  exact ⟨readsOwn, closes_own_shows_own readsOwn, by decide⟩

/-- The next reply is to the update of a record of somebody else. -/
def closesOther (s : State) : Bool :=
  match takeOut s.calls 0 with
  | some ((page, .updateClockIn id _), _) =>
    (s.records.get? id).any fun r => r.emp_id ≠ page.userId
  | _ => false

theorem not_closesOwn_of_closesOther {s : State} {now : String} (h : closesOther s = true) :
    ¬ ClosesOwn s (.resume 0 .done now) := by
  intro hown
  simp only [closesOther] at h
  split at h
  · case h_1 page id time rest ht =>
    obtain ⟨r, hr, hne⟩ := (Option.any_eq_true _ _).mp h
    have howner := hown page id time rest ht r (Store.get?_eq_some_iff.mp hr)
    exact of_decide_eq_true hne howner
  · cases h

/-- `e1` signs out without clocking out; the clock-out of `e2` closes the record of `e1`. -/
theorem clock_out_closes_other_record :
    ¬ ∀ (records : Store String Record) (es : List Event),
        EveryStep step ClosesOwn { records := records } es ∧
          EveryState step ShowsOwn { records := records } es := by
  intro claim
  have whole := (claim noRecords (opensPage "e1" ++ clocksIn "r1" "08:00" ++ [.onSignOutPressed] ++
    opensPage "e2" ++ clocksOut "16:00" ++ [.resume 0 .done "16:00"])).1
  refine not_everyStep_of_run (fun s t => closesOther s ∧ t.records.entries.any (fun e =>
    e.2.emp_id = "e1" ∧ e.2.clock_out = some "16:00")) ?_ ?_ whole
  · intro s t _ hbad
    exact not_closesOwn_of_closesOther (of_decide_eq_true hbad).1
  · decide

end ManualSessions
