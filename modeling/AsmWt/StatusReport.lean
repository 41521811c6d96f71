import AsmWt.Interleaving
import AsmWt.Firestore
import AsmWt.NestedRecord
import Mathlib.Tactic.IntervalCases

/-!
# The yearly report of task counts

The report document of a year holds one map for each month, and a counter call
increments one number of the map whose month its service object was built in.
The model reads the months back one by one.
-/

namespace StatusReport

open KeyedRecord Firestore Interleaving DocStore NestedRecord NestedRecord.Node

instance : Inhabited Value := ⟨.null⟩

/-- A document with maps as values. -/
abbrev Data := Node String Value
abbrev Reports := Store String Data

namespace StaticMonth

def jan := "jan"
def feb := "feb"
def mar := "mar"
def apr := "apr"
def may := "may"
def jun := "jun"
def jul := "jul"
def aug := "aug"
def sept := "sept"
def oct := "oct"
def nov := "nov"
def dec := "dec"

end StaticMonth

namespace TaskStatusReport

def completed := "completed"
def earlyFinish := "early_finish"
def lateStart := "late_start"

end TaskStatusReport

/-- The values of `DateTime.month`. -/
def IsMonth (month : Nat) : Prop := 1 ≤ month ∧ month ≤ 12

instance : DecidablePred IsMonth := fun _ => inferInstanceAs (Decidable (_ ∧ _))

/-- The month of `dateNow`, which the object keeps from its construction. -/
structure TaskStatusReportService where
  month : Nat
  isMonth : IsMonth month

def getMonthAbbreviation : Nat → String
  | 1 => StaticMonth.jan
  | 2 => StaticMonth.feb
  | 3 => StaticMonth.mar
  | 4 => StaticMonth.apr
  | 5 => StaticMonth.may
  | 6 => StaticMonth.jun
  | 7 => StaticMonth.jul
  | 8 => StaticMonth.aug
  | 9 => StaticMonth.sept
  | 10 => StaticMonth.oct
  | 11 => StaticMonth.nov
  | 12 => StaticMonth.dec
  | _ => ""

/-- `FieldValue.increment`, which creates a missing number and replaces anything else. -/
def increment (amount : Int) : Data → Data
  | .leaf (.num n) => .leaf (.num (n + amount))
  | _ => .leaf (.num amount)

/-- The names a dotted key of `update` stands for. -/
def fieldPath (key : String) : List String := (key.toList.splitOn '.').map String.ofList

/-- `FirestoreServiceImpl.updateData` with field values; `none` is the exception for a missing
document. -/
def updateData (reports : Reports) (id : String) (obj : List (String × (Data → Data))) :
    Option Reports :=
  reports.modify id fun d => obj.foldl (fun d e => modifyAt e.2 (fieldPath e.1) d) d

/-- The calls that increase a counter; `reached` tells whether the backend answers. -/
def increaseTaskByDocID (field failed : String) (service : TaskStatusReportService)
    (docID : Option String) (reached : Bool) (reports : Reports) :
    BaseService Unit × Reports :=
  match docID with
  | none => (⟨"F", "Invalid document ID", none⟩, reports)
  | some id =>
    if id = "" then (⟨"F", "Invalid document ID", none⟩, reports)
    else
      let monthNow := getMonthAbbreviation service.month
      let obj := [(monthNow ++ "." ++ field, increment 1)]
      match if reached then updateData reports id obj else none with
      | some reports => (⟨"S", "Success", none⟩, reports)
      | none => (⟨"F", failed, none⟩, reports)

def increaseCompletedTaskByDocID :=
  increaseTaskByDocID TaskStatusReport.completed "Failed to increase completed task"

def increaseEarlyFinishTaskByDocID :=
  increaseTaskByDocID TaskStatusReport.earlyFinish "Failed to increase early finish task"

def increaseLateStartTaskByDocID :=
  increaseTaskByDocID TaskStatusReport.lateStart "Failed to increase late start task"

structure TaskReportStatus where
  completed : Option Int := none
  early_finish : Option Int := none
  late_start : Option Int := none
  deriving DecidableEq

structure TaskStatusReportModel where
  repotUID : String
  orgID : Option String
  jan : Option TaskReportStatus
  feb : Option TaskReportStatus
  mar : Option TaskReportStatus
  apr : Option TaskReportStatus
  may : Option TaskReportStatus
  jun : Option TaskReportStatus
  jul : Option TaskReportStatus
  aug : Option TaskReportStatus
  sept : Option TaskReportStatus
  oct : Option TaskReportStatus
  nov : Option TaskReportStatus
  dec : Option TaskReportStatus

/-- Assigning a field to `int?`; `none` is the type error. -/
def readInt : Data → Option (Option Int)
  | .leaf .null => some none
  | .leaf (.num n) => some (some n)
  | _ => none

/-- Assigning a field to `String?`. -/
def readString : Data → Option (Option String)
  | .leaf v => Codec.string.decode v
  | .record _ => none

def TaskReportStatus.fromJson (data : String → Data) : Option TaskReportStatus := do
  let completed ← readInt (data TaskStatusReport.completed)
  let early_finish ← readInt (data TaskStatusReport.earlyFinish)
  let late_start ← readInt (data TaskStatusReport.lateStart)
  pure { completed, early_finish, late_start }

/-- One month's conditional of the factory: `null` stays `null`, anything but a map throws. -/
def readStatus : Data → Option (Option TaskReportStatus)
  | .leaf .null => some none
  | .leaf _ => none
  | .record fields => (TaskReportStatus.fromJson fields).map some

def TaskStatusReportModel.fromDocumentSnapshot (id : String) (data : Data) :
    Option TaskStatusReportModel := do
  let orgID ← readString (data.children "organization_id")
  let jan ← readStatus (data.children StaticMonth.jan)
  let feb ← readStatus (data.children StaticMonth.feb)
  let mar ← readStatus (data.children StaticMonth.mar)
  let apr ← readStatus (data.children StaticMonth.apr)
  -- the entry of March once more
  let may ← readStatus (data.children StaticMonth.mar)
  let jun ← readStatus (data.children StaticMonth.jun)
  let jul ← readStatus (data.children StaticMonth.jul)
  let aug ← readStatus (data.children StaticMonth.aug)
  let sept ← readStatus (data.children StaticMonth.sept)
  let oct ← readStatus (data.children StaticMonth.oct)
  let nov ← readStatus (data.children StaticMonth.nov)
  let dec ← readStatus (data.children StaticMonth.dec)
  pure { repotUID := id, orgID, jan, feb, mar, apr, may, jun, jul, aug, sept, oct, nov, dec }

inductive Counter where
  | completed
  | earlyFinish
  | lateStart
  deriving DecidableEq

namespace Counter

def field : Counter → String
  | completed => TaskStatusReport.completed
  | earlyFinish => TaskStatusReport.earlyFinish
  | lateStart => TaskStatusReport.lateStart

def increase : Counter → TaskStatusReportService → Option String → Bool → Reports →
    BaseService Unit × Reports
  | completed => increaseCompletedTaskByDocID
  | earlyFinish => increaseEarlyFinishTaskByDocID
  | lateStart => increaseLateStartTaskByDocID

/-- The three calls differ in their field and in the text of their failure. -/
theorem increase_eq (c : Counter) :
    ∃ failed, c.increase = increaseTaskByDocID c.field failed := by
  cases c with
  | completed | earlyFinish | lateStart => exact ⟨_, rfl⟩

/-- The number of a month's entry, with `null` as 0. -/
def number (c : Counter) (entry : Option TaskReportStatus) : Int :=
  (entry.bind fun r =>
    match c with
    | completed => r.completed
    | earlyFinish => r.early_finish
    | lateStart => r.late_start).getD 0

end Counter

def TaskStatusReportModel.month (m : TaskStatusReportModel) : Nat → Option TaskReportStatus
  | 1 => m.jan
  | 2 => m.feb
  | 3 => m.mar
  | 4 => m.apr
  | 5 => m.may
  | 6 => m.jun
  | 7 => m.jul
  | 8 => m.aug
  | 9 => m.sept
  | 10 => m.oct
  | 11 => m.nov
  | 12 => m.dec
  | _ => none

structure Call where
  counter : Counter
  service : TaskStatusReportService
  reached : Bool := true

/-- A call on the report `id` that answers `'S'`. -/
def step (id : String) (reports : Reports) (call : Call) : Option Reports :=
  match call.counter.increase call.service (some id) call.reached reports with
  | (reply, reports) => if reply.status = "S" then some reports else none

/-- The calls that increase the counter in the month. -/
def made (calls : List Call) (month : Nat) (c : Counter) : Nat :=
  calls.countP fun call => call.service.month = month ∧ call.counter = c

/-- Every month's entry can be read, and the numbers in it are `counts`. -/
def Holds (d : Data) (counts : Nat → Counter → Int) : Prop :=
  ∀ month, IsMonth month → ∃ entry,
    readStatus (d.children (getMonthAbbreviation month)) = some entry ∧
      ∀ c : Counter, c.number entry = counts month c

/-- A report document without counts. -/
structure EmptyReport (d : Data) : Prop where
  organization : ∃ org, d.children "organization_id" = .leaf (Codec.string.encode org)
  noCounts : Holds d fun _ _ => 0

/-- The model gives each month the numbers of calls made for it. -/
def ReadsBack (m : TaskStatusReportModel) (calls : List Call) : Prop :=
  ∀ month, IsMonth month → ∀ c : Counter, c.number (m.month month) = made calls month c

theorem fieldPath_append {month field : String} (hm : '.' ∉ month.toList)
    (hf : '.' ∉ field.toList) : fieldPath (month ++ "." ++ field) = [month, field] := by
  have chars : (month ++ "." ++ field).toList = month.toList ++ '.' :: field.toList := by
    simp [String.toList_append]
  rw [fieldPath, chars, List.splitOn_append_cons_self_of_not_mem hm, List.splitOn_eq_singleton hf]
  simp

theorem dot_not_mem_month (month : Nat) : '.' ∉ (getMonthAbbreviation month).toList := by
  rw [getMonthAbbreviation.eq_def]
  split <;> decide

theorem dot_not_mem_field (c : Counter) : '.' ∉ c.field.toList := by
  cases c <;> decide

theorem field_inj {c c' : Counter} : c.field = c'.field ↔ c = c' := by
  cases c <;> cases c' <;> decide

theorem getMonthAbbreviation_inj {m n : Nat} (hm : IsMonth m) (hn : IsMonth n) :
    getMonthAbbreviation m = getMonthAbbreviation n ↔ m = n := by
  have all : ∀ m ≤ 12, ∀ n ≤ 12, 1 ≤ m → 1 ≤ n →
      getMonthAbbreviation m = getMonthAbbreviation n → m = n := by decide
  constructor
  · exact all m hm.2 n hn.2 hm.1 hn.1
  · rintro rfl
    rfl

theorem getMonthAbbreviation_ne_organization (month : Nat) :
    getMonthAbbreviation month ≠ "organization_id" := by
  rw [getMonthAbbreviation.eq_def]
  split <;> decide

/-- The document after a call that increases `c` in the month. -/
def increased (month : Nat) (c : Counter) (d : Data) : Data :=
  modifyAt (increment 1) [getMonthAbbreviation month, c.field] d

/-- A successful call increases one number of the report and touches nothing else. -/
theorem step_eq_some {id : String} {reports reports' : Reports} {call : Call} {d : Data}
    (hd : reports.get? id = some d) (h : step id reports call = some reports') :
    reports'.get? id = some (increased call.service.month call.counter d) := by
  obtain ⟨failed, increase⟩ := call.counter.increase_eq
  rw [step, increase, increaseTaskByDocID] at h
  by_cases hid : id = ""
  · simp [hid] at h
  · cases hr : call.reached with
    | false => simp [hid, hr] at h
    | true =>
      obtain ⟨after, hafter, hget⟩ := Store.modify_of_get? hd fun d =>
        [(getMonthAbbreviation call.service.month ++ "." ++ call.counter.field, increment 1)].foldl
          (fun d e => modifyAt e.2 (fieldPath e.1) d) d
      rw [if_neg hid] at h
      simp only [hr, if_true, updateData, hafter, Option.some.injEq] at h
      rw [← h, hget, List.foldl_cons, List.foldl_nil,
        fieldPath_append (dot_not_mem_month _) (dot_not_mem_field _), increased]

theorem readInt_increment {n : Data} {v : Option Int} (h : readInt n = some v) :
    readInt (increment 1 n) = some (some (v.getD 0 + 1)) := by
  cases n with
  | record fields => cases h
  | leaf value =>
    cases value <;> cases h <;> rfl

theorem readStatus_record {fields : String → Data} {v : Counter → Option Int}
    (h : ∀ c : Counter, readInt (fields c.field) = some (v c)) :
    ∃ entry, readStatus (.record fields) = some entry ∧
      ∀ c : Counter, c.number entry = (v c).getD 0 := by
  refine ⟨some ⟨v .completed, v .earlyFinish, v .lateStart⟩, ?_, ?_⟩
  · have hc : readInt (fields TaskStatusReport.completed) = _ := h .completed
    have he : readInt (fields TaskStatusReport.earlyFinish) = _ := h .earlyFinish
    have hl : readInt (fields TaskStatusReport.lateStart) = _ := h .lateStart
    simp [readStatus, TaskReportStatus.fromJson, hc, he, hl]
  · intro c
    cases c <;> rfl

/-- A readable entry consists of readable numbers. -/
theorem readInt_of_readStatus {n : Data} {entry : Option TaskReportStatus}
    (h : readStatus n = some entry) : ∃ v : Counter → Option Int,
      (∀ c : Counter, readInt (n.children c.field) = some (v c)) ∧
        ∀ c : Counter, c.number entry = (v c).getD 0 := by
  cases n with
  | leaf value =>
    cases value <;> cases h
    exact ⟨fun _ => none, fun _ => rfl, fun c => by cases c <;> rfl⟩
  | record fields =>
    obtain ⟨r, hr, he⟩ := Option.map_eq_some_iff.mp h
    obtain ⟨completed, hc, hr⟩ := Option.bind_eq_some_iff.mp hr
    obtain ⟨earlyFinish, he', hr⟩ := Option.bind_eq_some_iff.mp hr
    obtain ⟨lateStart, hl, hr⟩ := Option.bind_eq_some_iff.mp hr
    cases hr
    cases he
    refine ⟨fun | .completed => completed | .earlyFinish => earlyFinish | .lateStart => lateStart,
      ?_, ?_⟩
    · intro c
      cases c
      · exact hc
      · exact he'
      · exact hl
    · intro c
      cases c <;> rfl

theorem readStatus_increment {n : Data} {entry : Option TaskReportStatus} (c : Counter)
    (h : readStatus n = some entry) :
    ∃ entry', readStatus (modifyAt (increment 1) [c.field] n) = some entry' ∧
      ∀ c' : Counter, c'.number entry' = c'.number entry + if c' = c then 1 else 0 := by
  obtain ⟨v, hv, hnumber⟩ := readInt_of_readStatus h
  have after : ∀ c' : Counter,
      readInt ((modifyAt (increment 1) [c.field] n).children c'.field) =
        some (if c' = c then some ((v c').getD 0 + 1) else v c') := by
    intro c'
    by_cases hc : c' = c
    · subst hc
      rw [children_modifyAt_self, if_pos rfl]
      exact readInt_increment (hv c')
    · rw [children_modifyAt_of_ne _ fun hf => hc (field_inj.mp hf), if_neg hc]
      exact hv c'
  obtain ⟨entry', hentry, hnumber'⟩ := readStatus_record after
  refine ⟨entry', hentry, fun c' => ?_⟩
  rw [hnumber', hnumber]
  by_cases hc : c' = c
  · simp [hc]
  · simp [hc]

/-- One call adds one to its own counter in its own month. -/
theorem Holds.increased {d : Data} {counts : Nat → Counter → Int} (h : Holds d counts)
    {month : Nat} (hmonth : IsMonth month) (c : Counter) :
    Holds (increased month c d) fun m c' =>
      counts m c' + if month = m ∧ c = c' then 1 else 0 := by
  intro m hm
  obtain ⟨entry, hentry, hnumber⟩ := h m hm
  rw [StatusReport.increased]
  by_cases hmm : month = m
  · subst hmm
    rw [children_modifyAt_self]
    obtain ⟨entry', hentry', hnumber'⟩ := readStatus_increment c hentry
    refine ⟨entry', hentry', fun c' => ?_⟩
    rw [hnumber', hnumber]
    simp [eq_comm]
  · rw [children_modifyAt_of_ne _ fun he => hmm ((getMonthAbbreviation_inj hm hmonth).mp he).symm]
    refine ⟨entry, hentry, fun c' => ?_⟩
    rw [hnumber]
    simp [hmm]

/-- The path of the number a call increases. -/
def Call.path (call : Call) : List String :=
  [getMonthAbbreviation call.service.month, call.counter.field]

/-- The calls leave every other path of the document alone. -/
theorem getAt_of_run {id : String} {calls : List Call} {reports reports' : Reports} {d d' : Data}
    (other : List String) (hd : reports.get? id = some d)
    (hrun : run (step id) reports calls = some reports') (hd' : reports'.get? id = some d')
    (hother : ∀ call ∈ calls, ¬ other <+: call.path ∧ ¬ call.path <+: other) :
    getAt other d' = getAt other d := by
  induction calls generalizing reports d with
  | nil =>
    cases hrun
    cases hd.symm.trans hd'
    rfl
  | cons call calls ih =>
    obtain ⟨next, hnext, hrun⟩ := Option.bind_eq_some_iff.mp hrun
    obtain ⟨above, below⟩ := hother call List.mem_cons_self
    have hrest := ih (step_eq_some hd hnext) hrun fun c hc => hother c (List.mem_cons_of_mem _ hc)
    exact hrest.trans (getAt_modifyAt_of_diverge above below)

theorem organization_off_path (call : Call) :
    ¬ ["organization_id"] <+: call.path ∧ ¬ call.path <+: ["organization_id"] := by
  have hne := getMonthAbbreviation_ne_organization call.service.month
  constructor
  · intro h
    exact hne (List.cons_prefix_cons.mp h).1.symm
  · intro h
    exact hne (List.cons_prefix_cons.mp h).1

theorem made_cons (call : Call) (calls : List Call) (month : Nat) (c : Counter) :
    (made (call :: calls) month c : Int) =
      (if call.service.month = month ∧ call.counter = c then 1 else 0) + made calls month c := by
  rw [made, List.countP_cons, ← made]
  by_cases h : call.service.month = month ∧ call.counter = c
  · simp [h, Int.add_comm]
  · simp [h]

/-- After the calls the document counts them all, on top of what it counted before. -/
theorem holds_of_run {id : String} {calls : List Call} {reports reports' : Reports} {d : Data}
    {counts : Nat → Counter → Int} (hd : reports.get? id = some d) (h : Holds d counts)
    (hrun : run (step id) reports calls = some reports') :
    ∃ d', reports'.get? id = some d' ∧
      Holds d' fun month c => counts month c + made calls month c := by
  induction calls generalizing reports d counts with
  | nil =>
    cases hrun
    exact ⟨d, hd, by simpa [made] using h⟩
  | cons call calls ih =>
    obtain ⟨next, hnext, hrun⟩ := Option.bind_eq_some_iff.mp hrun
    have hafter := step_eq_some hd hnext
    obtain ⟨d', hd', hholds⟩ := ih hafter (h.increased call.service.isMonth _) hrun
    refine ⟨d', hd', ?_⟩
    simpa only [made_cons, Int.add_assoc] using hholds

/-- The month whose entry the factory reads into the field of a month. -/
def readFrom (month : Nat) : Nat := if month = 5 then 3 else month

theorem fromDocumentSnapshot_of_holds (id : String) {d : Data} {counts : Nat → Counter → Int}
    (horg : ∃ org, d.children "organization_id" = .leaf (Codec.string.encode org))
    (h : Holds d counts) :
    ∃ m, TaskStatusReportModel.fromDocumentSnapshot id d = some m ∧
      ∀ month, IsMonth month → ∀ c : Counter,
        c.number (m.month month) = counts (readFrom month) c := by
  obtain ⟨org, horg⟩ := horg
  have org_reads : readString (d.children "organization_id") = some org := by
    rw [horg, readString, Codec.decode_encode]
  obtain ⟨jan, hjan, njan⟩ := h 1 (by decide)
  obtain ⟨feb, hfeb, nfeb⟩ := h 2 (by decide)
  obtain ⟨mar, hmar, nmar⟩ := h 3 (by decide)
  obtain ⟨apr, hapr, napr⟩ := h 4 (by decide)
  obtain ⟨jun, hjun, njun⟩ := h 6 (by decide)
  obtain ⟨jul, hjul, njul⟩ := h 7 (by decide)
  obtain ⟨aug, haug, naug⟩ := h 8 (by decide)
  obtain ⟨sept, hsept, nsept⟩ := h 9 (by decide)
  obtain ⟨oct, hoct, noct⟩ := h 10 (by decide)
  obtain ⟨nov, hnov, nnov⟩ := h 11 (by decide)
  obtain ⟨dec, hdec, ndec⟩ := h 12 (by decide)
  simp only [getMonthAbbreviation] at hjan hfeb hmar hapr hjun hjul haug hsept hoct hnov hdec
  refine ⟨⟨id, org, jan, feb, mar, apr, mar, jun, jul, aug, sept, oct, nov, dec⟩, ?_, ?_⟩
  · simp only [TaskStatusReportModel.fromDocumentSnapshot, org_reads, hjan, hfeb, hmar, hapr, hjun,
      hjul, haug, hsept, hoct, hnov, hdec, Option.bind_eq_bind, Option.bind_some, Option.pure_def]
  · rintro month ⟨hlow, hhigh⟩ c
    interval_cases month
    · exact njan c
    · exact nfeb c
    · exact nmar c
    · exact napr c
    · exact nmar c
    · exact njun c
    · exact njul c
    · exact naug c
    · exact nsept c
    · exact noct c
    · exact nnov c
    · exact ndec c

/-- The counted numbers come back iff as many calls were made in March as in May. -/
theorem reads_back_iff {id : String} {calls : List Call} {reports reports' : Reports} {d : Data}
    (hd : reports.get? id = some d) (hempty : EmptyReport d)
    (hrun : run (step id) reports calls = some reports') :
    (∃ m, (reports'.get? id).bind (TaskStatusReportModel.fromDocumentSnapshot id) = some m ∧
      ReadsBack m calls) ↔ ∀ c : Counter, made calls 3 c = made calls 5 c := by
  obtain ⟨d', hd', hholds⟩ := holds_of_run hd hempty.noCounts hrun
  have horg : d'.children "organization_id" = d.children "organization_id" :=
    getAt_of_run ["organization_id"] hd hrun hd' fun call _ => organization_off_path call
  obtain ⟨m, hm, hnumber⟩ :=
    fromDocumentSnapshot_of_holds id (horg ▸ hempty.organization) hholds
  rw [hd', Option.bind_some, hm]
  simp only [Int.zero_add] at hnumber
  constructor
  · rintro ⟨m', hm', hreads⟩ c
    cases hm'
    have hmay := hreads 5 (by decide) c
    rw [hnumber 5 (by decide) c] at hmay
    exact Int.ofNat.inj hmay
  · intro heq
    refine ⟨m, rfl, fun month hmonth c => ?_⟩
    rw [hnumber month hmonth c]
    by_cases hmay : month = 5
    · subst hmay
      exact congrArg Int.ofNat (heq c)
    · rw [readFrom, if_neg hmay]

def january : TaskStatusReportService := ⟨1, by decide⟩
def march : TaskStatusReportService := ⟨3, by decide⟩
def may : TaskStatusReportService := ⟨5, by decide⟩

/-- A report document as it is made for an organization. -/
def newReport : Data :=
  .record fun k => if k = "organization_id" then .leaf (.str "org1") else .leaf .null

def reports : Reports := ⟨[("org1-2024", newReport)], by decide⟩

theorem newReport_empty : EmptyReport newReport where
  organization := ⟨some "org1", rfl⟩
  noCounts month _ := by
    refine ⟨none, ?_, fun c => rfl⟩
    rw [newReport, children, if_neg (getMonthAbbreviation_ne_organization month)]
    rfl

def threeMonths : List Call :=
  [{ counter := .completed, service := january }, { counter := .lateStart, service := march },
    { counter := .lateStart, service := may }]

theorem reads_back_three_months :
    ∃ m, (((run (step "org1-2024") reports threeMonths).getD reports).get? "org1-2024").bind
      (TaskStatusReportModel.fromDocumentSnapshot "org1-2024") = some m ∧
        ReadsBack m threeMonths := by
  have hrun : run (step "org1-2024") reports threeMonths =
      some ((run (step "org1-2024") reports threeMonths).getD reports) := rfl
  refine (reads_back_iff (d := newReport) rfl newReport_empty hrun).mpr fun c => ?_
  cases c <;> decide

/-- A task completed in May. -/
theorem may_not_read_back :
    ¬ ∀ (id : String) (calls : List Call) (reports reports' : Reports) (d : Data),
      reports.get? id = some d → EmptyReport d →
      run (step id) reports calls = some reports' →
      ∃ m, (reports'.get? id).bind (TaskStatusReportModel.fromDocumentSnapshot id) = some m ∧
        ReadsBack m calls := by
  intro claim
  obtain ⟨m, hm, hreads⟩ := claim "org1-2024" [{ counter := .completed, service := may }] reports
    ((step "org1-2024" reports { counter := .completed, service := may }).getD reports)
    newReport rfl newReport_empty rfl
  have hmay := hreads 5 (by decide) .completed
  cases hm
  exact absurd hmay (by decide)

end StatusReport
