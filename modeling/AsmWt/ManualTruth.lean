import AsmWt.Interleaving
import AsmWt.DocStore

/-!
# What a manual clocking stores, remembers and says

A clock-in uploads the photos, stores a record and remembers its time and id in
two preferences; a clock-out closes the record of the remembered id and forgets
both. Every step is awaited, so it can fail with or without an exception, and
the app can be killed right after it.
-/

namespace ManualTruth

open DocStore Interleaving

/-- What becomes of an awaited step: it may answer that it failed, throw, or be the last one the
app lives to see. -/
inductive Fate where
  | ok
  | failed
  | exception
  | killed
  deriving DecidableEq

/-- The step has taken effect. -/
def Fate.done : Fate → Bool
  | ok | killed => true
  | failed | exception => false

/-- The statement after the step is reached. -/
def Fate.goesOn : Fate → Bool
  | ok | failed => true
  | exception | killed => false

structure Record where
  clock_in : String
  clock_in_image : List String
  clock_out : Option String := none
  clock_out_image : List String := []

/-- The records of the user, the preferences `clockInTime` and `clockInId`, and the `_clockInTime`
of the page. -/
structure State where
  records : Store String Record := ⟨[], List.nodup_nil⟩
  clockInTime : Option String := none
  clockInId : Option String := none
  shownTime : Option String := none

inductive Message where
  | dialog (title content : String)
  | topSnackBar (text : String)
  deriving DecidableEq

def clockInStored : Message := .dialog "Success" "บันทึกเวลาเข้าได้สำเร็จ"
def clockInFailed : Message := .dialog "Success" "บันทึกเวลาเข้าผิดพลาด"
def clockOutStored : Message := .dialog "Success" "บันทึกเวลาออกได้สำเร็จ"

/-- What an operation leaves behind, whether it stored its record, and what it showed. -/
structure Result where
  state : State
  stored : Bool
  message : Option Message := none

structure Upload where
  fate : Fate := .ok
  fileId : String

/-- The steps of `_saveClockInTime`. -/
structure ClockIn where
  formattedTime : String
  clockInID : String
  saveClockInData : Fate := .ok
  getInstance : Fate := .ok
  setClockInTime : Fate := .ok
  setClockInId : Fate := .ok

/-- The steps of `_clockOut` and `_clearClockInTime`. -/
structure ClockOut where
  clockOutTime : String
  getClockInId : Fate := .ok
  getClockInTime : Fate := .ok
  updateClockInData : Fate := .ok
  fetchTaskData : Fate := .ok
  getInstance : Fate := .ok
  removeClockInTime : Fate := .ok
  removeClockInId : Fate := .ok

inductive Event where
  | updateState
  | clockIn (images : List Upload) (o : ClockIn)
  | clockOut (images : List Upload) (o : ClockOut)

def Event.isClockOut : Event → Bool
  | .clockOut _ _ => true
  | .updateState | .clockIn _ _ => false

/-- An operation that ends with a step; the page does not outlive the app. -/
def stop (s : State) (f : Fate) (stored : Bool) : Result :=
  { state := if f = .killed then { s with shownTime := none } else s, stored }

/-- The loop of `onConfirm`: an upload that fails is only logged. `none` is a kill. -/
def uploadImages : List Upload → Option (List String)
  | [] => some []
  | image :: images =>
    match image.fate with
    | .killed => none
    | .ok => (uploadImages images).map (image.fileId :: ·)
    | .failed | .exception => uploadImages images

/-- `_saveClockInTime` once the record is stored. -/
def rememberClockIn (s : State) (o : ClockIn) : Result :=
  if o.getInstance ≠ .ok then stop s o.getInstance true
  else
    let s := if o.setClockInTime.done then { s with clockInTime := some o.formattedTime } else s
    if o.setClockInTime.goesOn = false then stop s o.setClockInTime true
    else
      let s := { s with shownTime := some o.formattedTime }
      let s := if o.setClockInId.done then { s with clockInId := some o.clockInID } else s
      if o.setClockInId.goesOn = false then stop s o.setClockInId true
      else { state := s, stored := true, message := some clockInStored }

/-- `_saveClockInTime`; `none` for a record whose id is taken. -/
def saveClockInTime (s : State) (imagesList : List String) (o : ClockIn) : Option Result :=
  match o.saveClockInData with
  | .failed | .exception => some { state := s, stored := false, message := some clockInFailed }
  | .ok => do
    let records ← s.records.insert o.clockInID
      { clock_in := o.formattedTime, clock_in_image := imagesList }
    return rememberClockIn { s with records } o
  | .killed => do
    let records ← s.records.insert o.clockInID
      { clock_in := o.formattedTime, clock_in_image := imagesList }
    return stop { s with records } .killed true

/-- `_clearClockInTime` and the message after it. -/
def clearClockInTime (s : State) (o : ClockOut) : Result :=
  if o.getInstance ≠ .ok then stop s o.getInstance true
  else
    let s := if o.removeClockInTime.done then { s with clockInTime := none } else s
    if o.removeClockInTime.goesOn = false then stop s o.removeClockInTime true
    else
      let s := if o.removeClockInId.done then { s with clockInId := none } else s
      if o.removeClockInId.goesOn = false then stop s o.removeClockInId true
      else { state := { s with shownTime := none }, stored := true, message := some clockOutStored }

/-- `_clockOut` from the update on; `none` for a record that is not there. -/
def closeRecord (s : State) (imagesList : List String) (id : String) (o : ClockOut) :
    Option Result :=
  match o.updateClockInData with
  -- the same message as after a success
  | .failed | .exception => some { state := s, stored := false, message := some clockOutStored }
  | .ok => do
    let records ← s.records.modify id fun r =>
      { r with clock_out := some o.clockOutTime, clock_out_image := imagesList }
    -- `fetchTaskData` catches its error
    return if o.fetchTaskData = .killed then stop { s with records } .killed true
      else clearClockInTime { s with records } o
  | .killed => do
    let records ← s.records.modify id fun r =>
      { r with clock_out := some o.clockOutTime, clock_out_image := imagesList }
    return stop { s with records } .killed true

def clockOut (s : State) (imagesList : List String) (o : ClockOut) : Option Result :=
  if o.getClockInId ≠ .ok then some (stop s o.getClockInId false)
  else if o.getClockInTime ≠ .ok then some (stop s o.getClockInTime false)
  else
    match s.clockInId with
    -- `clockInId!` throws
    | none =>
      some { state := s, stored := false, message := some (.topSnackBar "No clock-in data") }
    | some id => closeRecord s imagesList id o

/-- A visit of the page and the two operations. A sheet confirms nothing without a photo, and the
clock-out is offered while the page shows a time. -/
def operate (s : State) : Event → Option Result
  | .updateState => some { state := { s with shownTime := s.clockInTime }, stored := false }
  | .clockIn images o =>
    if images.isEmpty then none
    else
      match uploadImages images with
      | none => some (stop s .killed false)
      | some imagesList => saveClockInTime s imagesList o
  | .clockOut images o =>
    if images.isEmpty ∨ s.shownTime = none then none
    else
      match uploadImages images with
      | none => some (stop s .killed false)
      | some imagesList => clockOut s imagesList o

def step (s : State) (e : Event) : Option State := (operate s e).map (·.state)

def IsOpen (s : State) (id : String) : Prop :=
  ∃ r, (id, r) ∈ s.records.entries ∧ r.clock_out = none

/-- Every record carries an image for each of its times. -/
def Illustrated (s : State) : Prop :=
  ∀ e ∈ s.records.entries, e.2.clock_in_image ≠ [] ∧
    (e.2.clock_out.isSome → e.2.clock_out_image ≠ [])

/-- The preferences are both present or both absent, and present iff a record is open. -/
structure Remembers (s : State) : Prop where
  paired : s.clockInTime.isSome = s.clockInId.isSome
  open_iff : s.clockInId.isSome = true ↔ ∃ id, IsOpen s id
  illustrated : Illustrated s

/-- The message tells of a success. -/
def SaysSuccess (m : Message) : Prop := m = clockInStored ∨ m = clockOutStored

/-- What an operation has to leave behind and to say. -/
structure Truthful (s : State) (e : Event) (r : Result) : Prop where
  remembers : Remembers r.state
  cleared : s.clockInId.isSome = true ∧ r.state.clockInId = none ↔
    e.isClockOut = true ∧ r.stored = true
  message : ∀ m, r.message = some m → (SaysSuccess m ↔ r.stored = true)

def TellsTruth (s : State) (e : Event) : Prop := ∀ r, operate s e = some r → Truthful s e r

/-- A record that a clock-in stores has an image and is remembered, unless a record is remembered
already. -/
def ClockInComplete (s : State) (imagesList : List String) (o : ClockIn) : Prop :=
  o.saveClockInData.done = true → imagesList ≠ [] ∧
    (s.clockInId.isSome = true ∨ o.saveClockInData = .ok ∧ o.getInstance = .ok ∧
      o.setClockInTime = .ok ∧ o.setClockInId.done = true)

/-- The update of a clock-out goes through with an image, no other record is open, and both
preferences are removed. -/
def ClockOutComplete (s : State) (imagesList : List String) (o : ClockOut) : Prop :=
  o.getClockInId = .ok → o.getClockInTime = .ok → ∀ id, s.clockInId = some id →
    o.updateClockInData = .ok ∧ o.fetchTaskData ≠ .killed ∧ imagesList ≠ [] ∧
      (∀ other, IsOpen s other → other = id) ∧ o.getInstance = .ok ∧
        o.removeClockInTime = .ok ∧ o.removeClockInId.done = true

/-- An operation whose uploads the app survives is complete. -/
def Complete (s : State) : Event → Prop
  | .updateState => True
  | .clockIn images o => ∀ imagesList, uploadImages images = some imagesList →
      ClockInComplete s imagesList o
  | .clockOut images o => ∀ imagesList, uploadImages images = some imagesList →
      ClockOutComplete s imagesList o

theorem Fate.eq_ok_iff {f : Fate} : f = .ok ↔ f.done = true ∧ f.goesOn = true := by
  cases f <;> decide

/-- Memory and records are all that `Remembers` looks at. -/
theorem Remembers.congr {s t : State} (h : Remembers s) (htime : t.clockInTime = s.clockInTime)
    (hid : t.clockInId = s.clockInId) (hrecords : t.records = s.records) : Remembers t := by
  refine ⟨?_, ?_, ?_⟩
  · rw [htime, hid]
    exact h.paired
  · simp only [IsOpen, hid, hrecords]
    exact h.open_iff
  · rw [Illustrated, hrecords]
    exact h.illustrated

@[simp] theorem stop_records (s : State) (f : Fate) (stored : Bool) :
    (stop s f stored).state.records = s.records := by
  rw [stop]
  split <;> rfl

@[simp] theorem stop_clockInTime (s : State) (f : Fate) (stored : Bool) :
    (stop s f stored).state.clockInTime = s.clockInTime := by
  rw [stop]
  split <;> rfl

@[simp] theorem stop_clockInId (s : State) (f : Fate) (stored : Bool) :
    (stop s f stored).state.clockInId = s.clockInId := by
  rw [stop]
  split <;> rfl

@[simp] theorem stop_stored (s : State) (f : Fate) (stored : Bool) :
    (stop s f stored).stored = stored := rfl

@[simp] theorem stop_message (s : State) (f : Fate) (stored : Bool) :
    (stop s f stored).message = none := rfl

/-- An operation that stored nothing, kept the preferences and said nothing of a success. -/
theorem truthful_of_unchanged {s : State} {e : Event} {r : Result} (h : Remembers s)
    (htime : r.state.clockInTime = s.clockInTime) (hid : r.state.clockInId = s.clockInId)
    (hrecords : r.state.records = s.records) (hstored : r.stored = false)
    (hmessage : ∀ m, r.message = some m → ¬ SaysSuccess m) : Truthful s e r where
  remembers := h.congr htime hid hrecords
  cleared := by
    rw [hid, hstored]
    refine iff_of_false ?_ ?_
    · rintro ⟨hsome, hnone⟩
      rw [hnone] at hsome
      cases hsome
    · exact fun hc => Bool.false_ne_true hc.2
  message m hm := by
    rw [hstored]
    exact iff_of_false (hmessage m hm) Bool.false_ne_true

theorem truthful_stop {s : State} (h : Remembers s) (e : Event) (f : Fate) :
    Truthful s e (stop s f false) :=
  truthful_of_unchanged h (stop_clockInTime s f false) (stop_clockInId s f false)
    (stop_records s f false) rfl nofun

section ClockIn

variable {s : State} {o : ClockIn} {imagesList : List String} {records : Store String Record}

/-- What `rememberClockIn` makes of the preferences, and that it tells of nothing else. -/
theorem rememberClockIn_spec (s : State) (o : ClockIn) :
    (rememberClockIn s o).state.records = s.records ∧
      (rememberClockIn s o).stored = true ∧
      (∀ m, (rememberClockIn s o).message = some m → m = clockInStored) ∧
      ((rememberClockIn s o).state.clockInTime.isSome = true ↔ s.clockInTime.isSome = true ∨
        o.getInstance = .ok ∧ o.setClockInTime.done = true) ∧
      ((rememberClockIn s o).state.clockInId.isSome = true ↔ s.clockInId.isSome = true ∨
        o.getInstance = .ok ∧ o.setClockInTime.goesOn = true ∧ o.setClockInId.done = true) := by
  rw [rememberClockIn]
  by_cases hg : o.getInstance = .ok
  · rw [if_neg (not_not.mpr hg)]
    cases hd : o.setClockInTime.done <;> cases hgo : o.setClockInTime.goesOn <;>
      cases hd' : o.setClockInId.done <;> cases hgo' : o.setClockInId.goesOn <;>
        simp [hg]
  · simp [hg]

theorem isOpen_inserted {id time : String}
    (hinsert : s.records.insert id { clock_in := time, clock_in_image := imagesList } =
      some records)
    {t : State} (ht : t.records = records) : IsOpen t id :=
  ⟨_, ht ▸ (Store.mem_insert hinsert).mpr (Or.inl ⟨rfl, rfl⟩), rfl⟩

theorem illustrated_inserted_iff {id time : String} (h : Illustrated s)
    (hinsert : s.records.insert id { clock_in := time, clock_in_image := imagesList } =
      some records)
    {t : State} (ht : t.records = records) : Illustrated t ↔ imagesList ≠ [] := by
  rw [Illustrated, ht]
  constructor
  · exact fun hall => (hall _ ((Store.mem_insert hinsert).mpr (Or.inl ⟨rfl, rfl⟩))).1
  · rintro himages ⟨j, q⟩ hq
    rcases (Store.mem_insert hinsert).mp hq with ⟨-, rfl⟩ | hq
    · exact ⟨himages, nofun⟩
    · exact h (j, q) hq

/-- An operation that added a record is truthful iff the record has an image and one is
remembered. -/
theorem truthful_inserted_iff {id time : String} {e : Event} {r : Result} (h : Remembers s)
    (hinsert : s.records.insert id { clock_in := time, clock_in_image := imagesList } =
      some records)
    (he : e.isClockOut = false) (hrecords : r.state.records = records) (hstored : r.stored = true)
    (hmessage : ∀ m, r.message = some m → m = clockInStored)
    (hkept : s.clockInId.isSome = true → r.state.clockInId.isSome = true) :
    Truthful s e r ↔ imagesList ≠ [] ∧ r.state.clockInTime.isSome = true ∧
      r.state.clockInId.isSome = true := by
  have hopen : ∃ id, IsOpen r.state id := ⟨id, isOpen_inserted hinsert hrecords⟩
  have hillustrated := illustrated_inserted_iff h.illustrated hinsert hrecords
  constructor
  · intro ht
    have hid := ht.remembers.open_iff.mpr hopen
    exact ⟨hillustrated.mp ht.remembers.illustrated, ht.remembers.paired.trans hid, hid⟩
  · rintro ⟨himages, htime, hid⟩
    refine ⟨⟨htime.trans hid.symm, ⟨fun _ => hopen, fun _ => hid⟩, hillustrated.mpr himages⟩,
      ?_, ?_⟩
    · rw [he]
      refine iff_of_false ?_ (fun hc => Bool.false_ne_true hc.1)
      rintro ⟨hsome, hnone⟩
      have := hkept hsome
      rw [hnone] at this
      cases this
    · intro m hm
      rw [hstored]
      exact iff_of_true (Or.inl (hmessage m hm)) rfl

/-- A clock-in whose photos are dealt with is truthful iff it is complete. -/
theorem truthful_saveClockInTime_iff {e : Event} {r : Result} (h : Remembers s)
    (he : e.isClockOut = false) (hr : saveClockInTime s imagesList o = some r) :
    Truthful s e r ↔ ClockInComplete s imagesList o := by
  rw [ClockInComplete]
  cases hsave : o.saveClockInData with
  | failed | exception =>
    simp only [saveClockInTime, hsave, Option.some.injEq] at hr
    subst hr
    refine iff_of_true (truthful_of_unchanged h rfl rfl rfl rfl fun m hm => ?_) nofun
    cases hm
    rw [SaysSuccess]
    decide
  | ok =>
    simp only [saveClockInTime, hsave] at hr
    obtain ⟨records, hinsert, hr⟩ := Option.bind_eq_some_iff.mp hr
    cases hr
    obtain ⟨hrecords, hstored, hmessage, htime, hid⟩ :=
      rememberClockIn_spec { s with records } o
    rw [truthful_inserted_iff h hinsert he hrecords hstored hmessage
      fun hsome => hid.mpr (Or.inl hsome), htime, hid, h.paired,
      Fate.eq_ok_iff (f := o.setClockInTime)]
    simp only [Fate.done, forall_const, true_and]
    grind
  | killed =>
    simp only [saveClockInTime, hsave] at hr
    obtain ⟨records, hinsert, hr⟩ := Option.bind_eq_some_iff.mp hr
    cases hr
    have silent : ∀ m, (stop { s with records } .killed true).message = some m →
        m = clockInStored := by
      intro m hm
      cases hm
    rw [truthful_inserted_iff h hinsert he (stop_records ..) rfl silent fun hsome => by
      rwa [stop_clockInId], stop_clockInTime, stop_clockInId, h.paired]
    simp [Fate.done]

end ClockIn

section ClockOut

variable {s : State} {o : ClockOut} {imagesList : List String} {id : String}
  {records : Store String Record}

/-- What `clearClockInTime` makes of the preferences. -/
theorem clearClockInTime_spec (s : State) (o : ClockOut) :
    (clearClockInTime s o).state.records = s.records ∧
      (clearClockInTime s o).stored = true ∧
      (∀ m, (clearClockInTime s o).message = some m → m = clockOutStored) ∧
      ((clearClockInTime s o).state.clockInTime = none ↔ s.clockInTime = none ∨
        o.getInstance = .ok ∧ o.removeClockInTime.done = true) ∧
      ((clearClockInTime s o).state.clockInId = none ↔ s.clockInId = none ∨
        o.getInstance = .ok ∧ o.removeClockInTime.goesOn = true ∧
          o.removeClockInId.done = true) := by
  rw [clearClockInTime]
  by_cases hg : o.getInstance = .ok
  · rw [if_neg (not_not.mpr hg)]
    cases hd : o.removeClockInTime.done <;> cases hgo : o.removeClockInTime.goesOn <;>
      cases hd' : o.removeClockInId.done <;> cases hgo' : o.removeClockInId.goesOn <;>
        simp [hg]
  · simp [hg]

/-- The record a clock-out closes. -/
def closed (o : ClockOut) (imagesList : List String) (r : Record) : Record :=
  { r with clock_out := some o.clockOutTime, clock_out_image := imagesList }

theorem isOpen_closed_iff (hmodify : s.records.modify id (closed o imagesList) = some records)
    {t : State} (ht : t.records = records) {other : String} :
    IsOpen t other ↔ other ≠ id ∧ IsOpen s other := by
  rw [IsOpen, ht]
  constructor
  · rintro ⟨r, hr, hopen⟩
    rcases (Store.mem_modify hmodify).mp hr with ⟨hne, hr⟩ | ⟨-, q, -, rfl⟩
    · exact ⟨hne, r, hr, hopen⟩
    · cases hopen
  · rintro ⟨hne, r, hr, hopen⟩
    exact ⟨r, (Store.mem_modify hmodify).mpr (Or.inl ⟨hne, hr⟩), hopen⟩

theorem illustrated_closed_iff (h : Illustrated s)
    (hmodify : s.records.modify id (closed o imagesList) = some records)
    {t : State} (ht : t.records = records) : Illustrated t ↔ imagesList ≠ [] := by
  obtain ⟨⟨r, hr⟩, -⟩ := Store.modify_eq_some hmodify
  have hmem := Store.get?_eq_some_iff.mp hr
  rw [Illustrated, ht]
  constructor
  · intro hall
    have := hall (id, closed o imagesList r)
      ((Store.mem_modify hmodify).mpr (Or.inr ⟨rfl, r, hmem, rfl⟩))
    exact this.2 rfl
  · rintro himages ⟨j, q⟩ hq
    rcases (Store.mem_modify hmodify).mp hq with ⟨-, hq⟩ | ⟨-, r', hr', rfl⟩
    · exact h (j, q) hq
    · exact ⟨(h (id, r') hr').1, fun _ => himages⟩

/-- An operation that closed the remembered record is truthful iff the record has an image, no
other is open and nothing is remembered. -/
theorem truthful_closed_iff {e : Event} {r : Result} (h : Remembers s)
    (hid : s.clockInId = some id)
    (hmodify : s.records.modify id (closed o imagesList) = some records)
    (he : e.isClockOut = true) (hrecords : r.state.records = records) (hstored : r.stored = true)
    (hmessage : ∀ m, r.message = some m → m = clockOutStored) :
    Truthful s e r ↔ imagesList ≠ [] ∧ (∀ other, IsOpen s other → other = id) ∧
      r.state.clockInTime = none ∧ r.state.clockInId = none := by
  have hillustrated := illustrated_closed_iff h.illustrated hmodify hrecords
  have hopen : ∀ other, IsOpen r.state other ↔ other ≠ id ∧ IsOpen s other :=
    fun other => isOpen_closed_iff hmodify hrecords
  have hsome : s.clockInId.isSome = true := by
    rw [hid]
    rfl
  constructor
  · intro ht
    have hnone : r.state.clockInId = none := (ht.cleared.mpr ⟨he, hstored⟩).2
    have hpaired := ht.remembers.paired
    have hclosed := ht.remembers.open_iff
    rw [hnone] at hpaired hclosed
    refine ⟨hillustrated.mp ht.remembers.illustrated, fun other hother => ?_,
      Option.isSome_eq_false_iff.mp hpaired |> Option.isNone_iff_eq_none.mp, hnone⟩
    by_contra hne
    exact Bool.false_ne_true (hclosed.mpr ⟨other, (hopen other).mpr ⟨hne, hother⟩⟩)
  · rintro ⟨himages, honly, htime, hnone⟩
    refine ⟨⟨?_, ?_, hillustrated.mpr himages⟩, ?_, ?_⟩
    · rw [htime, hnone]
    · rw [hnone]
      refine iff_of_false Bool.false_ne_true ?_
      rintro ⟨other, hother⟩
      obtain ⟨hne, hother⟩ := (hopen other).mp hother
      exact hne (honly other hother)
    · exact iff_of_true ⟨hsome, hnone⟩ ⟨he, hstored⟩
    · intro m hm
      rw [hstored]
      exact iff_of_true (Or.inr (hmessage m hm)) rfl

/-- The app is killed while the closed record is still remembered. -/
theorem not_truthful_killed {e : Event} (h : Remembers s) (hid : s.clockInId = some id)
    (hmodify : s.records.modify id (closed o imagesList) = some records)
    (he : e.isClockOut = true) : ¬ Truthful s e (stop { s with records } .killed true) := by
  intro ht
  have silent : ∀ m, (stop { s with records } .killed true).message = some m →
      m = clockOutStored := by
    intro m hm
    cases hm
  have hnone := ((truthful_closed_iff h hid hmodify he (stop_records ..) rfl silent).mp ht).2.2.2
  rw [stop_clockInId] at hnone
  cases hid.symm.trans hnone

theorem truthful_closeRecord_iff {e : Event} {r : Result} (h : Remembers s)
    (he : e.isClockOut = true) (hid : s.clockInId = some id)
    (hr : closeRecord s imagesList id o = some r) :
    Truthful s e r ↔ o.updateClockInData = .ok ∧ o.fetchTaskData ≠ .killed ∧ imagesList ≠ [] ∧
      (∀ other, IsOpen s other → other = id) ∧ o.getInstance = .ok ∧
        o.removeClockInTime = .ok ∧ o.removeClockInId.done = true := by
  cases hupdate : o.updateClockInData with
  | failed | exception =>
    simp only [closeRecord, hupdate, Option.some.injEq] at hr
    subst hr
    refine iff_of_false ?_ (fun hc => nomatch hc.1)
    intro ht
    exact Bool.false_ne_true ((ht.message clockOutStored rfl).mp (Or.inr rfl))
  | ok =>
    simp only [closeRecord, hupdate] at hr
    obtain ⟨records, hmodify, hr⟩ := Option.bind_eq_some_iff.mp hr
    cases hr
    by_cases hfetch : o.fetchTaskData = .killed
    · rw [if_pos hfetch]
      exact iff_of_false (not_truthful_killed h hid hmodify he) fun hc => hc.2.1 hfetch
    · rw [if_neg hfetch]
      obtain ⟨hrecords, hstored, hmessage, htime, hnone⟩ :=
        clearClockInTime_spec { s with records } o
      have remembered : s.clockInId ≠ none ∧ s.clockInTime ≠ none := by
        have hpaired := h.paired
        rw [hid] at hpaired
        exact ⟨by rw [hid]; nofun, fun ht => by rw [ht] at hpaired; cases hpaired⟩
      rw [truthful_closed_iff h hid hmodify he hrecords hstored hmessage, htime, hnone,
        or_iff_right remembered.2, or_iff_right remembered.1,
        Fate.eq_ok_iff (f := o.removeClockInTime)]
      grind
  | killed =>
    simp only [closeRecord, hupdate] at hr
    obtain ⟨records, hmodify, hr⟩ := Option.bind_eq_some_iff.mp hr
    cases hr
    exact iff_of_false (not_truthful_killed h hid hmodify he) fun hc => nomatch hc.1

/-- A clock-out whose photos are dealt with is truthful iff it is complete. -/
theorem truthful_clockOut_iff {e : Event} {r : Result} (h : Remembers s)
    (he : e.isClockOut = true) (hr : clockOut s imagesList o = some r) :
    Truthful s e r ↔ ClockOutComplete s imagesList o := by
  rw [ClockOutComplete]
  rw [clockOut] at hr
  by_cases hgetId : o.getClockInId = .ok
  · by_cases hgetTime : o.getClockInTime = .ok
    · rw [if_neg (not_not.mpr hgetId), if_neg (not_not.mpr hgetTime)] at hr
      simp only [hgetId, hgetTime, forall_const]
      cases hid : s.clockInId with
      | none =>
        simp only [hid, Option.some.injEq] at hr
        subst hr
        refine iff_of_true (truthful_of_unchanged h rfl rfl rfl rfl fun m hm => ?_) nofun
        cases hm
        rw [SaysSuccess]
        decide
      | some id =>
        simp only [hid] at hr
        simp only [Option.some.injEq, forall_eq']
        exact truthful_closeRecord_iff h he hid hr
    · rw [if_neg (not_not.mpr hgetId), if_pos hgetTime, Option.some.injEq] at hr
      subst hr
      exact iff_of_true (truthful_stop h e _) fun _ hok => absurd hok hgetTime
  · rw [if_pos hgetId, Option.some.injEq] at hr
    subst hr
    exact iff_of_true (truthful_stop h e _) fun hok => absurd hok hgetId

end ClockOut

/-- One operation, from preferences that agree with the records. -/
theorem truthful_iff {s : State} {e : Event} {r : Result} (h : Remembers s)
    (hr : operate s e = some r) : Truthful s e r ↔ Complete s e := by
  cases e with
  | updateState =>
    cases hr
    exact iff_of_true (truthful_of_unchanged h rfl rfl rfl rfl nofun) trivial
  | clockIn images o =>
    rw [operate] at hr
    split at hr
    · cases hr
    · rw [Complete]
      cases hupload : uploadImages images with
      | none =>
        rw [hupload] at hr
        cases hr
        exact iff_of_true (truthful_stop h _ _) nofun
      | some imagesList =>
        rw [hupload] at hr
        simp only [Option.some.injEq, forall_eq']
        exact truthful_saveClockInTime_iff h rfl hr
  | clockOut images o =>
    rw [operate] at hr
    split at hr
    · cases hr
    · rw [Complete]
      cases hupload : uploadImages images with
      | none =>
        rw [hupload] at hr
        cases hr
        exact iff_of_true (truthful_stop h _ _) nofun
      | some imagesList =>
        rw [hupload] at hr
        simp only [Option.some.injEq, forall_eq']
        exact truthful_clockOut_iff h rfl hr

theorem remembers_empty : Remembers {} where
  paired := rfl
  open_iff := iff_of_false Bool.false_ne_true fun ⟨_, _, hr, _⟩ => nomatch hr
  illustrated := nofun

/-- Over every run of visits, clock-ins and clock-outs from an installation on. -/
theorem tellsTruth_run_iff (es : List Event) :
    EveryStep step TellsTruth {} es ↔ EveryStep step Complete {} es := by
  refine everyStep_iff_of_inv ?_ ?_ remembers_empty es
  · intro s e t _ htells hstep
    obtain ⟨r, hr, rfl⟩ := Option.map_eq_some_iff.mp hstep
    exact (htells r hr).remembers
  · intro s e t h hstep
    obtain ⟨r, hr, rfl⟩ := Option.map_eq_some_iff.mp hstep
    constructor
    · exact fun htells => (truthful_iff h hr).mp (htells r hr)
    · intro hcomplete r' hr'
      exact (truthful_iff h hr').mpr hcomplete

/-- The update of a clock-out fails, and the dialog tells of its success. -/
theorem clock_out_fails_with_success :
    ¬ ∀ es : List Event, EveryStep step TellsTruth {} es := by
  intro claim
  have run := claim [.clockIn [{ fileId := "f1" }] { formattedTime := "08:00", clockInID := "r1" },
    .clockOut [{ fileId := "f2" }] { clockOutTime := "17:00", updateClockInData := .failed }]
  have truthful := ((run _ rfl).2 _ rfl).1 _ rfl
  exact absurd ((truthful.message clockOutStored rfl).mp (Or.inr rfl)) Bool.false_ne_true

end ManualTruth
