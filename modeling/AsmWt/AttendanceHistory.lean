import AsmWt.DateText
import AsmWt.Interleaving
import AsmWt.PendingCalls
import AsmWt.PhotoWatermark
import AsmWt.UserProfile

/-!
# The attendance history

A manual clocking writes what the clock of the device reads as a text. The
history asks for the finished records of one worker, parses the texts and
formats them anew. Over it stands a log of shifts that keeps the readings
themselves.
-/

namespace AttendanceHistory

open DocStore KeyedRecord Interleaving PendingCalls WallClock DateText
open PhotoWatermark (LocationModel)
open UserProfile (UserModel)

/-- What a field of a record holds; `D` are the coordinates. -/
inductive Value (D : Type) where
  | null
  | str (s : String)
  | numbers (l : List D)
  | texts (l : List String)

abbrev Data (D : Type) := String → Value D

/-- A confirmed sheet: what the clock of its device reads then, and what the sheet hands over. -/
structure Press (D : Type) where
  wall : Int
  position : D × D
  imagesList : List String
  locationdata : Option LocationModel := none
  userData : Option UserModel := none
  writable : Writable wall

variable {D : Type}

def Value.nullable : Option String → Value D
  | none => .null
  | some s => .str s

/-- `DateFormat(p).format` of a reading. -/
def text (p : Pattern) (wall : Int) : String := String.ofList (format p wall)

/-- The fields of the profile that both maps name. -/
def siteData (userData : Option UserModel) : List (String × Value D) :=
  [("site_th", .nullable (userData.bind (·.siteTH))),
    ("site_en", .nullable (userData.bind (·.siteEN))),
    ("section_code", .nullable (userData.bind (·.sectionCode))),
    ("section_th", .nullable (userData.bind (·.sectionTH))),
    ("section_en", .nullable (userData.bind (·.sectionEN)))]

/-- The record of `_saveClockInTime` and `saveClockInData`. -/
def clockInData (userId : String) (p : Press D) : List (String × Value D) :=
  [("emp_id", .str userId),
    ("clock_in", .str (text isoPattern p.wall)),
    ("clock_in_location", .numbers [p.position.1, p.position.2]),
    ("clock_in_image", .texts p.imagesList),
    ("clock_in_area_th", .nullable (p.locationdata.map (·.nameTh))),
    ("clock_in_area_en", .nullable (p.locationdata.map (·.nameEn)))] ++ siteData p.userData ++
  [("job_code", .nullable (p.userData.bind (·.jobCode))),
    ("site_code", .nullable (p.userData.bind (·.siteCode))),
    ("job_th", .nullable (p.userData.bind (·.jobTH))),
    ("job_en", .nullable (p.userData.bind (·.jobEN))),
    ("firstname_th", .nullable (p.userData.bind (·.firstnameTH))),
    ("firstname_en", .nullable (p.userData.bind (·.firstnameEN))),
    ("lastname_th", .nullable (p.userData.bind (·.lastnameTH))),
    ("lastname_en", .nullable (p.userData.bind (·.lastnameEN)))]

/-- The map of `_clockOut`. -/
def clockOutData (p : Press D) : List (String × Value D) :=
  [("clock_out", .str (text isoPattern p.wall)),
    ("clock_out_image", .texts p.imagesList),
    ("clock_out_location", .numbers [p.position.1, p.position.2]),
    ("clock_out_area_th", .nullable (p.locationdata.map (·.nameTh))),
    ("clock_out_area_en", .nullable (p.locationdata.map (·.nameEn)))] ++ siteData p.userData

/-- How the backend returns a date: as the text that was written, or as the instant at which UTC
has this reading. -/
structure Backend where
  returned : String → String
  keeps : ∀ wall, Writable wall →
    returned (text isoPattern wall) = text isoPattern wall ∨
      returned (text isoPattern wall) = text isoPattern wall ++ ".000+00:00"

/-- The dates as an attribute of type string. -/
def Backend.string : Backend := ⟨id, fun _ _ => Or.inl rfl⟩

/-- The dates as an attribute of type datetime. -/
def Backend.datetime : Backend := ⟨(· ++ ".000+00:00"), fun _ _ => Or.inr rfl⟩

/-- A record as it is received. -/
def Backend.receive (b : Backend) (data : Data D) : Data D := fun k =>
  match data k with
  | .str s => if k = "clock_in" ∨ k = "clock_out" then .str (b.returned s) else .str s
  | v => v

/-- The test of `Query.equal`. -/
def Value.equals (s : String) : Value D → Bool
  | .str t => t = s
  | .null | .numbers _ | .texts _ => false

def Value.isNotNull : Value D → Bool
  | .null => false
  | .str _ | .numbers _ | .texts _ => true

/-- The length of an answer to a query without a limit. -/
def defaultLimit : Nat := 25

/-- `getTaskData`, with the latest record first. -/
def getTaskData (b : Backend) (records : Store String (Data D)) (userId : String) :
    List (Data D) :=
  ((records.entries.filter fun e =>
    (e.2 "emp_id").equals userId && (e.2 "clock_out").isNotNull).map fun e =>
      b.receive e.2).take defaultLimit

/-- `DateFormat(p).format(DateTime.parse(time))`. -/
def reformat (z : Zone) (p : Pattern) (time : String) : Option String :=
  (parse time.toList).map fun t => text p (if t.isUtc then t.wall else z.wall (z.instant t.wall))

def formatTime (z : Zone) : Option String → Option String
  | none => some "--:--:--"
  | some time => reformat z timePattern time

def formatDate (z : Zone) : Option String → Option String
  | none => some "YYYY/MM/DD"
  | some time => reformat z dayPattern time

/-- The value as a `String?`. -/
def Value.string? : Value D → Option (Option String)
  | .null => some none
  | .str s => some (some s)
  | .numbers _ | .texts _ => none

def Value.numbers? : Value D → Option (List D)
  | .numbers l => some l
  | .null | .str _ | .texts _ => none

def Value.texts? : Value D → Option (List String)
  | .texts l => some l
  | .null | .str _ | .numbers _ => none

/-- What `_buildHistoryEntry` and the sheet behind it are given. -/
structure Entry (D : Type) where
  date : String
  clockIn : String
  clockOut : String
  clock_in_location : List D
  clock_out_location : List D
  clock_in_image : List String
  clock_out_image : List String

/-- The builder of `_buildAttendanceHistory`; `none` is an exception. -/
def historyEntry (z : Zone) (data : Data D) : Option (Entry D) := do
  let clock_in_location ← (data "clock_in_location").numbers?
  let clock_out_location ← (data "clock_out_location").numbers?
  let clock_in_image ← (data "clock_in_image").texts?
  let clock_out_image ← (data "clock_out_image").texts?
  let clockInTime ← (data "clock_in").string?
  let clockOutTime ← (data "clock_out").string?
  let date ← formatDate z clockInTime
  let clockIn ← formatTime z clockInTime
  let clockOut ← formatTime z clockOutTime
  return ⟨date, clockIn, clockOut, clock_in_location, clock_out_location, clock_in_image,
    clock_out_image⟩

/-- The records, latest first, the answers under way, and the fields of `TaskManualProvider`. -/
structure State (D : Type) where
  records : Store String (Data D) := ⟨[], List.nodup_nil⟩
  answers : List (List (Data D)) := []
  taskData : Option (List (Data D)) := none
  isLoading : Bool := false

/-- What devices do: a record is stored or closed, the history is asked for, and an answer arrives
or is lost. -/
inductive Event (D : Type) where
  | clockIn (userId id : String) (p : Press D)
  | clockOut (id : String) (p : Press D)
  | fetchTaskData (userId : String)
  | answered (i : Nat) (reached : Bool)

def step (b : Backend) (s : State D) : Event D → Option (State D)
  | .clockIn userId id p =>
    (s.records.insert id (update (fun _ => .null) (clockInData userId p))).map fun records =>
      { s with records }
  -- the update of a record that is not there fails
  | .clockOut id p =>
    some { s with records := s.records.modifyIfThere id fun data => update data (clockOutData p) }
  | .fetchTaskData userId =>
    some { s with
      answers := s.answers ++ [getTaskData b s.records userId]
      isLoading := true }
  | .answered i reached => do
    let (docs, rest) ← takeOut s.answers i
    return { s with
      answers := rest
      taskData := if reached then some docs else s.taskData
      isLoading := false }

/-- The list of the page. -/
def attendanceHistory (z : Zone) (s : State D) : List (Option (Entry D)) :=
  (s.taskData.getD []).map (historyEntry z)

structure Shift (D : Type) where
  id : String
  userId : String
  clockIn : Press D
  clockOut : Option (Press D) := none

/-- The date and the times as the devices read them, and what was handed over. -/
def Shift.entry (shift : Shift D) (out : Press D) : Entry D where
  date := text dayPattern shift.clockIn.wall
  clockIn := text timePattern shift.clockIn.wall
  clockOut := text timePattern out.wall
  clock_in_location := [shift.clockIn.position.1, shift.clockIn.position.2]
  clock_out_location := [out.position.1, out.position.2]
  clock_in_image := shift.clockIn.imagesList
  clock_out_image := out.imagesList

def Shift.finished (shift : Shift D) : Option (Entry D) := shift.clockOut.map shift.entry

/-- The latest finished shifts of a worker. -/
def historyOf (shifts : List (Shift D)) (userId : String) : List (Entry D) :=
  ((shifts.filter fun shift => shift.userId = userId).filterMap Shift.finished).take defaultLimit

structure Log (D : Type) where
  shifts : List (Shift D) := []
  answers : List (List (Entry D)) := []
  shown : List (Entry D) := []
  isLoading : Bool := false

def Shift.close (id : String) (p : Press D) (shift : Shift D) : Shift D :=
  if shift.id = id then { shift with clockOut := some p } else shift

def Log.step (u : Log D) : Event D → Option (Log D)
  | .clockIn userId id p => some { u with shifts := ⟨id, userId, p, none⟩ :: u.shifts }
  | .clockOut id p => some { u with shifts := u.shifts.map (Shift.close id p) }
  | .fetchTaskData userId =>
    some { u with answers := u.answers ++ [historyOf u.shifts userId], isLoading := true }
  | .answered i reached => do
    let (entries, rest) ← takeOut u.answers i
    return { u with
      answers := rest
      shown := if reached then entries else u.shown
      isLoading := false }

section Texts

variable {z : Zone}

theorem toList_text (p : Pattern) (wall : Int) : (text p wall).toList = format p wall := by
  rw [text, String.toList_ofList]

/-- Whatever the backend makes of a date, and wherever it is read. -/
theorem reformat_returned (hz : ∀ wall, z.wall (z.instant (second wall)) = second wall)
    (b : Backend) {wall : Int} (h : Writable wall) (p : Pattern) :
    reformat z p (b.returned (text isoPattern wall)) = some (text p wall) := by
  have same : text p (second wall) = text p wall := by rw [text, format_second, ← text]
  rcases b.keeps wall h with hb | hb
  · rw [hb, reformat, toList_text, parse_format_iso h]
    simp [hz, same]
  · rw [hb, reformat, String.toList_append, toList_text, parse_format_utc h]
    simp [same]

end Texts

/-- What a record of the log looks like in the store. -/
structure Stored (e : String × Data D) (shift : Shift D) : Prop where
  id : e.1 = shift.id
  userId : e.2 "emp_id" = .str shift.userId
  clock_in : e.2 "clock_in" = .str (text isoPattern shift.clockIn.wall)
  clock_in_location :
    e.2 "clock_in_location" = .numbers [shift.clockIn.position.1, shift.clockIn.position.2]
  clock_in_image : e.2 "clock_in_image" = .texts shift.clockIn.imagesList
  isOpen : shift.clockOut = none → e.2 "clock_out" = .null
  clock_out : ∀ p, shift.clockOut = some p → e.2 "clock_out" = .str (text isoPattern p.wall)
  clock_out_location : ∀ p, shift.clockOut = some p →
    e.2 "clock_out_location" = .numbers [p.position.1, p.position.2]
  clock_out_image : ∀ p, shift.clockOut = some p → e.2 "clock_out_image" = .texts p.imagesList

theorem stored_clockIn (userId id : String) (p : Press D) :
    Stored (id, update (fun _ => .null) (clockInData userId p)) ⟨id, userId, p, none⟩ where
  id := rfl
  userId := rfl
  clock_in := rfl
  clock_in_location := rfl
  clock_in_image := rfl
  isOpen _ := rfl
  clock_out _ h := nomatch h
  clock_out_location _ h := nomatch h
  clock_out_image _ h := nomatch h

/-- A clock-out leaves the clock-in as it is. -/
theorem stored_close {e : String × Data D} {shift : Shift D} (h : Stored e shift) (id : String)
    (p : Press D) : Stored (Store.replaceIn id (fun data => update data (clockOutData p)) e)
      (shift.close id p) := by
  by_cases hid : shift.id = id
  · rw [Store.replaceIn, if_pos (h.id.trans hid), Shift.close, if_pos hid]
    exact {
      id := h.id
      userId := h.userId
      clock_in := h.clock_in
      clock_in_location := h.clock_in_location
      clock_in_image := h.clock_in_image
      isOpen := by rintro ⟨⟩
      clock_out := by
        rintro _ ⟨⟩
        rfl
      clock_out_location := by
        rintro _ ⟨⟩
        rfl
      clock_out_image := by
        rintro _ ⟨⟩
        rfl }
  · rw [Store.replaceIn, if_neg fun he => hid (h.id.symm.trans he), Shift.close, if_neg hid]
    exact h

section Shown

variable {z : Zone} {b : Backend}

/-- A finished shift is shown as the log has it. -/
theorem historyEntry_stored (hz : ∀ wall, z.wall (z.instant (second wall)) = second wall)
    {e : String × Data D} {shift : Shift D} {out : Press D} (h : Stored e shift)
    (hout : shift.clockOut = some out) :
    historyEntry z (b.receive e.2) = some (shift.entry out) := by
  have clock_in : b.receive e.2 "clock_in" =
      .str (b.returned (text isoPattern shift.clockIn.wall)) := by
    simp [Backend.receive, h.clock_in]
  have clock_out : b.receive e.2 "clock_out" = .str (b.returned (text isoPattern out.wall)) := by
    simp [Backend.receive, h.clock_out out hout]
  simp only [historyEntry, clock_in, clock_out]
  simp [Backend.receive, h.clock_in_location, h.clock_in_image, h.clock_out_location out hout,
    h.clock_out_image out hout, Value.numbers?, Value.texts?, Value.string?, formatDate, formatTime,
    reformat_returned hz b shift.clockIn.writable, reformat_returned hz b out.writable,
    Shift.entry]

/-- The query finds the finished shifts of the worker. -/
theorem queried_stored {e : String × Data D} {shift : Shift D} (h : Stored e shift)
    (userId : String) :
    ((e.2 "emp_id").equals userId && (e.2 "clock_out").isNotNull) =
      (decide (shift.userId = userId) && shift.clockOut.isSome) := by
  rw [h.userId, Value.equals]
  cases hout : shift.clockOut with
  | none => rw [h.isOpen hout, Value.isNotNull, Option.isSome_none]
  | some out => rw [h.clock_out out hout, Value.isNotNull, Option.isSome_some]

/-- The documents are shown as these entries. -/
def Shows (z : Zone) (docs : List (Data D)) (entries : List (Entry D)) : Prop :=
  docs.map (historyEntry z) = entries.map some

theorem shows_getTaskData (hz : ∀ wall, z.wall (z.instant (second wall)) = second wall)
    {records : Store String (Data D)} {shifts : List (Shift D)}
    (h : List.Forall₂ Stored records.entries shifts) (userId : String) :
    Shows z (getTaskData b records userId) (historyOf shifts userId) := by
  rw [Shows, getTaskData, historyOf, List.map_take, List.map_take]
  refine congrArg (List.take defaultLimit) ?_
  generalize records.entries = entries at h
  induction h with
  | nil => rfl
  | @cons e shift entries shifts he _ ih =>
    rw [List.filter_cons, List.filter_cons, queried_stored he]
    by_cases own : shift.userId = userId
    · cases hout : shift.clockOut with
      | none => simpa [own, hout, Shift.finished] using ih
      | some out => simpa [own, hout, Shift.finished, historyEntry_stored hz he hout] using ih
    · simpa [own] using ih

/-- The app and the log after the same events. -/
structure Represents (z : Zone) (s : State D) (u : Log D) : Prop where
  records : List.Forall₂ Stored s.records.entries u.shifts
  answers : List.Forall₂ (Shows z) s.answers u.answers
  shown : Shows z (s.taskData.getD []) u.shown
  isLoading : s.isLoading = u.isLoading

theorem step_followed (hz : ∀ wall, z.wall (z.instant (second wall)) = second wall)
    {s t : State D} {u : Log D} {e : Event D} (h : Represents z s u)
    (hstep : step b s e = some t) : ∃ v, Log.step u e = some v ∧ Represents z t v := by
  cases e with
  | clockIn userId id p =>
    obtain ⟨records, hinsert, rfl⟩ := Option.map_eq_some_iff.mp hstep
    rw [Store.insert] at hinsert
    split at hinsert
    · cases hinsert
    · cases hinsert
      exact ⟨_, rfl, .cons (stored_clockIn userId id p) h.records, h.answers, h.shown,
        h.isLoading⟩
  | clockOut id p =>
    cases hstep
    refine ⟨_, rfl, ?_, h.answers, h.shown, h.isLoading⟩
    rw [Store.entries_modifyIfThere, List.forall₂_map_left_iff, List.forall₂_map_right_iff]
    exact h.records.imp fun _ _ he => stored_close he id p
  | fetchTaskData userId =>
    cases hstep
    refine ⟨_, rfl, h.records, ?_, h.shown, rfl⟩
    exact List.rel_append h.answers (.cons (shows_getTaskData hz h.records userId) .nil)
  | answered i reached =>
    obtain ⟨⟨docs, rest⟩, htake, hstep⟩ := Option.bind_eq_some_iff.mp hstep
    cases hstep
    obtain ⟨entries, rest', htake', hshows, hrest⟩ := takeOut_forall₂ h.answers htake
    refine ⟨⟨u.shifts, rest', if reached then entries else u.shown, false⟩, ?_, h.records, hrest,
      ?_, rfl⟩
    · rw [Log.step, htake']
      rfl
    · cases reached with
      | true => exact hshows
      | false => exact h.shown

end Shown

/-- After any events the page lists the latest finished shifts of the worker it asked for, as they
were in the log when the answer was put together, with the dates and times that the devices read
and the positions and images that were handed over. -/
theorem history_shows_log (z : Zone) (b : Backend)
    (hz : ∀ wall, z.wall (z.instant (second wall)) = second wall) {es : List (Event D)}
    {s : State D} (hrun : run (step b) {} es = some s) :
    ∃ u, run Log.step {} es = some u ∧ attendanceHistory z s = u.shown.map some ∧
      s.isLoading = u.isLoading := by
  have start : Represents z ({} : State D) {} := ⟨.nil, .nil, rfl, rfl⟩
  obtain ⟨u, hu, h⟩ := run_map_followed id (fun _ _ _ _ h hstep => step_followed hz h hstep) start
    hrun
  rw [List.map_id] at hu
  exact ⟨u, hu, h.shown, h.isLoading⟩

/-- The seventh of June 2024, seven o'clock. -/
def seven : Press Int where
  wall := 1717743600000000
  position := (13, 100)
  imagesList := ["profile"]
  writable := by decide

/-- A shift of one day, and the history after it. -/
def oneShift : List (Event Int) :=
  [.clockIn "w1" "r1" seven, .clockOut "r1" seven, .fetchTaskData "w1", .answered 0 true]

theorem history_shows_oneShift :
    ∃ s u, run (step Backend.datetime) {} oneShift = some s ∧ run Log.step {} oneShift = some u ∧
      attendanceHistory (Zone.fixed (7 * hourMicros)) s = u.shown.map some ∧
        s.isLoading = u.isLoading := by
  have runs : ∃ s, run (step Backend.datetime) {} oneShift = some s := ⟨_, rfl⟩
  obtain ⟨s, hs⟩ := runs
  obtain ⟨u, hu, shown, isLoading⟩ := history_shows_log (Zone.fixed (7 * hourMicros))
    Backend.datetime (fun _ => Int.sub_add_cancel _ _) hs
  exact ⟨s, u, hs, hu, shown, isLoading⟩

end AttendanceHistory
