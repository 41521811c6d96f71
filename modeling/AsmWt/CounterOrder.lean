import AsmWt.StatusReport

/-!
# The counters of reports and devices

All devices of an organization increase the numbers of one report, and each new
account the number of devices of its platform. The calls go to the backend as
they come; the documents they leave do not depend on their order.
-/

namespace CounterOrder

open DocStore NestedRecord NestedRecord.Node StatusReport
open Firestore (BaseService)

/-- `Platform` of the device that calls. -/
inductive Platform where
  | android
  | ios
  | other
  deriving DecidableEq

def Platform.field : Platform → Option String
  | android => some "android"
  | ios => some "ios"
  | other => none

/-- `incrementDeviceValueByOrganizationID` and `reductionDeviceValueByOrganizationID`, which differ
in the amount and in the text of the failure; `reached` tells whether the backend answers. -/
def changeDeviceValue (amount : Int) (failed : String) (platform : Platform) (orgID : String)
    (reached : Bool) (devices : Reports) : BaseService Unit × Reports :=
  if orgID = "" then (⟨"F", "Organization ID is empty", none⟩, devices)
  else
    match platform.field with
    | none => (⟨"E", "Unsupported platform", none⟩, devices)
    | some field =>
      match if reached then updateData devices orgID [(field, increment amount)] else none with
      | some devices => (⟨"S", "Success", none⟩, devices)
      | none => (⟨"E", failed, none⟩, devices)

def incrementDeviceValueByOrganizationID :=
  changeDeviceValue 1 "Error incrementing device value"

def reductionDeviceValueByOrganizationID :=
  changeDeviceValue (-1) "Error reducing device value"

structure DevicesModel where
  devicesUID : String
  android : Option String
  ios : Option String

def DevicesModel.fromDocumentSnapshot (id : String) (data : Data) : Option DevicesModel := do
  let android ← readString (data.children "android")
  let ios ← readString (data.children "ios")
  return { devicesUID := id, android, ios }

/-- Every failure is caught and gives `null`. -/
def getAllDevicesModelByOrganizationID (devices : Reports) (orgID : String) (reached : Bool) :
    Option DevicesModel :=
  if orgID = "" ∨ ¬ reached then none
  else (devices.get? orgID).bind (DevicesModel.fromDocumentSnapshot orgID)

/-- The collections of reports and of devices. -/
structure State where
  reports : Reports
  devices : Reports

/-- A call of some device, with the month its service was built in or with its platform. -/
inductive Call where
  | increaseTask (counter : Counter) (service : TaskStatusReportService) (docID : Option String)
      (reached : Bool)
  | incrementDevice (platform : Platform) (orgID : String) (reached : Bool)
  | reductionDevice (platform : Platform) (orgID : String) (reached : Bool)

def perform (s : State) : Call → BaseService Unit × State
  | .increaseTask counter service docID reached =>
    let (reply, reports) := counter.increase service docID reached s.reports
    (reply, { s with reports })
  | .incrementDevice platform orgID reached =>
    let (reply, devices) := incrementDeviceValueByOrganizationID platform orgID reached s.devices
    (reply, { s with devices })
  | .reductionDevice platform orgID reached =>
    let (reply, devices) := reductionDeviceValueByOrganizationID platform orgID reached s.devices
    (reply, { s with devices })

/-- The documents after the calls. -/
def performAll (s : State) (calls : List Call) : State :=
  calls.foldl (fun s call => (perform s call).2) s

/-- A number in a document of the reports or of the devices. -/
@[ext] structure Place where
  toDevices : Bool
  id : String
  path : List String
  deriving DecidableEq

/-- Paths of a collection have one length. -/
def Place.WellFormed (p : Place) : Prop := p.path.length = if p.toDevices then 1 else 2

/-- What is not a number counts as 0, as it does for the next increment. -/
def numberOf : Data → Int
  | .leaf (.num n) => n
  | _ => 0

/-- The number at a place, if there is its document. -/
def Place.read (p : Place) (s : State) : Option Int :=
  ((if p.toDevices then s.devices else s.reports).get? p.id).map (numberOf <| getAt p.path ·)

/-- The number a call is about. -/
def Call.place : Call → Option Place
  | .increaseTask counter service docID _ =>
    docID.map fun id => ⟨false, id, [getMonthAbbreviation service.month, counter.field]⟩
  | .incrementDevice platform orgID _ | .reductionDevice platform orgID _ =>
    platform.field.map fun field => ⟨true, orgID, [field]⟩

def Call.amount : Call → Int
  | .increaseTask _ _ _ _ | .incrementDevice _ _ _ => 1
  | .reductionDevice _ _ _ => -1

/-- What a call that succeeds adds to the number at a place. -/
def added (s : State) (p : Place) (call : Call) : Int :=
  if (perform s call).1.status = "S" ∧ call.place = some p then call.amount else 0

/-- The documents are the same in every order of the calls, every call is answered as if it were the
first, and every number is what it was with all that the successful calls on it added. -/
structure OrderFree (s : State) (calls : List Call) : Prop where
  documents : ∀ calls', calls.Perm calls' → performAll s calls' = performAll s calls
  replies : ∀ first call rest, calls = first ++ call :: rest →
    (perform (performAll s first) call).1 = (perform s call).1
  totals : ∀ p : Place, p.WellFormed →
    p.read (performAll s calls) = (p.read s).map (· + (calls.map (added s p)).sum)

section Order

/-- A number changes by the sum, in whatever order it is added. -/
theorem increment_comm (a b : Int) (n : Data) :
    increment a (increment b n) = increment b (increment a n) := by
  cases n with
  | record fields =>
    simp only [increment]
    rw [Int.add_comm]
  | leaf v =>
    cases v with
    | num n =>
      simp only [increment]
      rw [Int.add_right_comm]
    | _ =>
      simp only [increment]
      rw [Int.add_comm]

/-- What a call changes: the amount that is added, and where. -/
structure Change extends Place where
  amount : Int

def Change.apply (c : Change) (s : State) : State :=
  let change := fun reports : Reports =>
    reports.modifyIfThere c.id fun d => modifyAt (increment c.amount) c.path d
  if c.toDevices then { s with devices := change s.devices }
  else { s with reports := change s.reports }

theorem apply_comm {c d : Change} (hc : c.WellFormed) (hd : d.WellFormed) (s : State) :
    d.apply (c.apply s) = c.apply (d.apply s) := by
  have nodes : c.path.length = d.path.length → ∀ r : Data,
      modifyAt (increment c.amount) c.path (modifyAt (increment d.amount) d.path r) =
        modifyAt (increment d.amount) d.path (modifyAt (increment c.amount) c.path r) :=
    fun length r => modifyAt_comm (fun n => increment_comm _ _ n) length r
  rw [Place.WellFormed] at hc hd
  cases hct : c.toDevices with
  | true =>
    cases hdt : d.toDevices with
    | true =>
      have length : c.path.length = d.path.length := by rw [hc, hd, hct, hdt]
      simp only [Change.apply, hct, hdt, if_true]
      rw [Store.modifyIfThere_comm fun _ => nodes length]
    | false => simp [Change.apply, hct, hdt]
  | false =>
    cases hdt : d.toDevices with
    | true => simp [Change.apply, hct, hdt]
    | false =>
      have length : c.path.length = d.path.length := by rw [hc, hd, hct, hdt]
      simp only [Change.apply, hct, hdt, Bool.false_eq_true, if_false]
      rw [Store.modifyIfThere_comm fun _ => nodes length]

/-- The change of a call that reaches the backend, and may find no document. -/
def Call.change : Call → Option Change
  | .increaseTask counter service (some id) true =>
    if id = "" then none
    else some ⟨⟨false, id, [getMonthAbbreviation service.month, counter.field]⟩, 1⟩
  | .incrementDevice platform orgID true =>
    if orgID = "" then none else platform.field.map fun field => ⟨⟨true, orgID, [field]⟩, 1⟩
  | .reductionDevice platform orgID true =>
    if orgID = "" then none else platform.field.map fun field => ⟨⟨true, orgID, [field]⟩, -1⟩
  | _ => none

theorem wellFormed_of_change {call : Call} {c : Change} (h : call.change = some c) :
    c.WellFormed := by
  unfold Call.change at h
  split at h
  · obtain ⟨-, h⟩ := Option.ite_none_left_eq_some.mp h
    cases h
    rfl
  · obtain ⟨-, h⟩ := Option.ite_none_left_eq_some.mp h
    obtain ⟨field, -, rfl⟩ := Option.map_eq_some_iff.mp h
    rfl
  · obtain ⟨-, h⟩ := Option.ite_none_left_eq_some.mp h
    obtain ⟨field, -, rfl⟩ := Option.map_eq_some_iff.mp h
    rfl
  · cases h

/-- An update of one key, passed over where it fails. -/
theorem updateData_getD (reports : Reports) (id key : String) (amount : Int) :
    (updateData reports id [(key, increment amount)]).getD reports =
      reports.modifyIfThere id fun d => modifyAt (increment amount) (fieldPath key) d := rfl

theorem fieldPath_field {platform : Platform} {field : String} (h : platform.field = some field) :
    fieldPath field = [field] := by
  have plain : '.' ∉ field.toList := by
    cases platform with
    | android =>
      cases h
      decide
    | ios =>
      cases h
      decide
    | other => cases h
  rw [fieldPath, List.splitOn_eq_singleton plain]
  simp

theorem increaseTask_documents (counter : Counter) (service : TaskStatusReportService)
    (docID : Option String) (reached : Bool) (reports : Reports) :
    (counter.increase service docID reached reports).2 =
      match docID with
      | none => reports
      | some id =>
        if id = "" ∨ reached = false then reports
        else reports.modifyIfThere id fun d =>
          modifyAt (increment 1) [getMonthAbbreviation service.month, counter.field] d := by
  obtain ⟨failed, increase⟩ := counter.increase_eq
  rw [increase]
  cases docID with
  | none => rfl
  | some id =>
    by_cases hid : id = ""
    · simp [increaseTaskByDocID, hid]
    · cases reached with
      | false => simp [increaseTaskByDocID, hid]
      | true =>
        simp only [increaseTaskByDocID, hid, if_false, if_true, false_or, Bool.true_eq_false]
        rw [← fieldPath_append (dot_not_mem_month service.month) (dot_not_mem_field counter),
          ← updateData_getD]
        cases updateData reports id
          [(getMonthAbbreviation service.month ++ "." ++ counter.field, increment 1)] with
        | none | some after => rfl

theorem changeDeviceValue_documents (amount : Int) (failed : String) (platform : Platform)
    (orgID : String) (reached : Bool) (devices : Reports) :
    (changeDeviceValue amount failed platform orgID reached devices).2 =
      match platform.field with
      | none => devices
      | some field =>
        if orgID = "" ∨ reached = false then devices
        else devices.modifyIfThere orgID fun d => modifyAt (increment amount) [field] d := by
  rw [changeDeviceValue]
  by_cases hid : orgID = ""
  · cases platform.field with
    | none | some field => simp [hid]
  · rw [if_neg hid]
    cases hfield : platform.field with
    | none => rfl
    | some field =>
      cases reached with
      | false => simp
      | true =>
        simp only [hid, if_true, false_or, Bool.true_eq_false, if_false]
        rw [← fieldPath_field hfield, ← updateData_getD]
        cases updateData devices orgID [(field, increment amount)] with
        | none | some after => rfl

theorem changeDeviceValue_state (s : State) (amount : Int) (failed : String) (platform : Platform)
    (orgID : String) (reached : Bool) :
    ({ s with devices := (changeDeviceValue amount failed platform orgID reached s.devices).2 } :
      State) =
      match if orgID = "" ∨ reached = false then none
        else platform.field.map fun field => (⟨⟨true, orgID, [field]⟩, amount⟩ : Change) with
      | none => s
      | some c => c.apply s := by
  rw [changeDeviceValue_documents]
  cases platform.field with
  | none => simp
  | some field =>
    by_cases hreached : orgID = "" ∨ reached = false
    · rw [if_pos hreached]
      simp only [if_pos hreached]
    · rw [if_neg hreached]
      simp only [if_neg hreached]
      rfl

/-- A call applies its change, if it has one. -/
theorem perform_eq (s : State) (call : Call) :
    (perform s call).2 = match call.change with | none => s | some c => c.apply s := by
  cases call with
  | increaseTask counter service docID reached =>
    simp only [perform, increaseTask_documents]
    cases docID with
    | none => rfl
    | some id =>
      by_cases hid : id = ""
      · cases reached with | true | false => simp [Call.change, hid]
      · cases reached with | true | false => simp [Call.change, hid, Change.apply]
  | incrementDevice platform orgID reached =>
    refine (changeDeviceValue_state s 1 _ platform orgID reached).trans ?_
    cases reached with | true | false => simp [Call.change]
  | reductionDevice platform orgID reached =>
    refine (changeDeviceValue_state s (-1) _ platform orgID reached).trans ?_
    cases reached with | true | false => simp [Call.change]

theorem perform_comm (s : State) (c d : Call) :
    (perform (perform s c).2 d).2 = (perform (perform s d).2 c).2 := by
  rw [perform_eq, perform_eq, perform_eq, perform_eq]
  cases hc : c.change with
  | none => rfl
  | some c' =>
    cases hd : d.change with
    | none => rfl
    | some d' => exact apply_comm (wellFormed_of_change hc) (wellFormed_of_change hd) s

/-- The documents there are. -/
def State.ids (s : State) : List String × List String :=
  (s.reports.entries.map Prod.fst, s.devices.entries.map Prod.fst)

theorem ids_perform (s : State) (call : Call) : (perform s call).2.ids = s.ids := by
  rw [perform_eq]
  cases call.change with
  | none => rfl
  | some c =>
    cases hc : c.toDevices with
    | true | false => simp [State.ids, Change.apply, hc, Store.ids_modifyIfThere]

theorem ids_performAll (s : State) (calls : List Call) : (performAll s calls).ids = s.ids := by
  induction calls generalizing s with
  | nil => rfl
  | cons call calls ih =>
    rw [performAll, List.foldl_cons, ← performAll, ih, ids_perform]

/-- An update fails or not by the documents there are. -/
theorem isSome_updateData {reports reports' : Reports}
    (h : reports.entries.map Prod.fst = reports'.entries.map Prod.fst) (id : String)
    (obj : List (String × (Data → Data))) :
    (updateData reports id obj).isSome = (updateData reports' id obj).isSome := by
  rw [updateData, updateData, Store.modify, Store.modify, h]
  split
  · rfl
  · rfl

/-- An answer tells whether the update succeeded, not what it left. -/
theorem reply_congr {success failure : BaseService Unit} {o o' : Option Reports}
    (h : o.isSome = o'.isSome) (reports reports' : Reports) :
    (match o with | some after => (success, after) | none => (failure, reports)).1 =
      (match o' with | some after => (success, after) | none => (failure, reports')).1 := by
  cases o with
  | none => cases o' with | none => rfl | some after' => cases h
  | some after => cases o' with | none => cases h | some after' => rfl

theorem increaseTask_reply {reports reports' : Reports}
    (h : reports.entries.map Prod.fst = reports'.entries.map Prod.fst) (counter : Counter)
    (service : TaskStatusReportService) (docID : Option String) (reached : Bool) :
    (counter.increase service docID reached reports).1 =
      (counter.increase service docID reached reports').1 := by
  obtain ⟨failed, increase⟩ := counter.increase_eq
  rw [increase]
  cases docID with
  | none => rfl
  | some id =>
    by_cases hid : id = ""
    · simp [increaseTaskByDocID, hid]
    · cases reached with
      | false => simp [increaseTaskByDocID, hid]
      | true =>
        have same := isSome_updateData h id
          [(getMonthAbbreviation service.month ++ "." ++ counter.field, increment 1)]
        simp only [increaseTaskByDocID, hid, if_false, if_true]
        exact reply_congr same reports reports'

theorem changeDeviceValue_reply {devices devices' : Reports}
    (h : devices.entries.map Prod.fst = devices'.entries.map Prod.fst) (amount : Int)
    (failed : String) (platform : Platform) (orgID : String) (reached : Bool) :
    (changeDeviceValue amount failed platform orgID reached devices).1 =
      (changeDeviceValue amount failed platform orgID reached devices').1 := by
  rw [changeDeviceValue, changeDeviceValue]
  by_cases hid : orgID = ""
  · simp [hid]
  · cases platform.field with
    | none => simp [hid]
    | some field =>
      cases reached with
      | false => simp [hid]
      | true =>
        have same := isSome_updateData h orgID [(field, increment amount)]
        simp only [hid, if_false, if_true]
        exact reply_congr same devices devices'

theorem reply_eq {s t : State} (h : s.ids = t.ids) (call : Call) :
    (perform s call).1 = (perform t call).1 := by
  obtain ⟨hreports, hdevices⟩ := Prod.mk.inj h
  cases call with
  | increaseTask => exact increaseTask_reply hreports _ _ _ _
  | incrementDevice => exact changeDeviceValue_reply hdevices _ _ _ _ _
  | reductionDevice => exact changeDeviceValue_reply hdevices _ _ _ _ _

theorem isSome_updateData_iff (reports : Reports) (id : String)
    (obj : List (String × (Data → Data))) :
    (updateData reports id obj).isSome ↔ (reports.get? id).isSome := by
  rw [updateData, Store.modify, Store.get?_isSome_iff]
  split
  · case isTrue h => simp [h]
  · case isFalse h => simp [h]

theorem increaseTask_succeeds_iff (counter : Counter) (service : TaskStatusReportService)
    (docID : Option String) (reached : Bool) (reports : Reports) :
    (counter.increase service docID reached reports).1.status = "S" ↔
      ∃ id, docID = some id ∧ id ≠ "" ∧ reached = true ∧ (reports.get? id).isSome := by
  obtain ⟨failed, increase⟩ := counter.increase_eq
  rw [increase]
  cases docID with
  | none => simp [increaseTaskByDocID]
  | some id =>
    by_cases hid : id = ""
    · simp [increaseTaskByDocID, hid]
    · cases reached with
      | false => simp [increaseTaskByDocID, hid]
      | true =>
        have found := isSome_updateData_iff reports id
          [(getMonthAbbreviation service.month ++ "." ++ counter.field, increment 1)]
        simp only [increaseTaskByDocID, hid, if_false, if_true, Option.some.injEq,
          exists_eq_left', ne_eq,
          not_false_eq_true, true_and, ← found]
        cases updateData reports id
          [(getMonthAbbreviation service.month ++ "." ++ counter.field, increment 1)] with
        | none | some after => simp

theorem changeDeviceValue_succeeds_iff (amount : Int) (failed : String) (platform : Platform)
    (orgID : String) (reached : Bool) (devices : Reports) :
    (changeDeviceValue amount failed platform orgID reached devices).1.status = "S" ↔
      orgID ≠ "" ∧ platform.field.isSome ∧ reached = true ∧ (devices.get? orgID).isSome := by
  rw [changeDeviceValue]
  by_cases hid : orgID = ""
  · simp [hid]
  · rw [if_neg hid]
    cases hfield : platform.field with
    | none => simp
    | some field =>
      cases reached with
      | false => simp
      | true =>
        have found := isSome_updateData_iff devices orgID [(field, increment amount)]
        simp only [if_true, hid, ne_eq, not_false_eq_true, true_and, Option.isSome_some, ← found]
        cases updateData devices orgID [(field, increment amount)] with
        | none | some after => simp

/-- A call succeeds if it has a change and its document is there. -/
theorem succeeds_iff (s : State) (call : Call) :
    (perform s call).1.status = "S" ↔
      ∃ c, call.change = some c ∧ (c.toPlace.read s).isSome := by
  cases call with
  | increaseTask counter service docID reached =>
    refine (increaseTask_succeeds_iff counter service docID reached s.reports).trans ?_
    cases docID with
    | none => simp [Call.change]
    | some id => cases reached with | true | false => simp [Call.change, Place.read]
  | incrementDevice platform orgID reached =>
    refine (changeDeviceValue_succeeds_iff 1 _ platform orgID reached s.devices).trans ?_
    cases hfield : platform.field with
    | none | some field =>
      cases reached with | true | false => simp [Call.change, Place.read, hfield, and_comm]
  | reductionDevice platform orgID reached =>
    refine (changeDeviceValue_succeeds_iff (-1) _ platform orgID reached s.devices).trans ?_
    cases hfield : platform.field with
    | none | some field =>
      cases reached with | true | false => simp [Call.change, Place.read, hfield, and_comm]

theorem place_of_change {call : Call} {c : Change} (h : call.change = some c) :
    call.place = some c.toPlace ∧ call.amount = c.amount := by
  unfold Call.change at h
  split at h
  · obtain ⟨-, h⟩ := Option.ite_none_left_eq_some.mp h
    cases h
    exact ⟨rfl, rfl⟩
  · obtain ⟨-, h⟩ := Option.ite_none_left_eq_some.mp h
    obtain ⟨field, hfield, rfl⟩ := Option.map_eq_some_iff.mp h
    exact ⟨by rw [Call.place, hfield]; rfl, rfl⟩
  · obtain ⟨-, h⟩ := Option.ite_none_left_eq_some.mp h
    obtain ⟨field, hfield, rfl⟩ := Option.map_eq_some_iff.mp h
    exact ⟨by rw [Call.place, hfield]; rfl, rfl⟩
  · cases h

/-- An increment leaves a number, whatever it is performed on. -/
theorem increment_eq_num (amount : Int) (n : Data) :
    increment amount n = .leaf (.num (numberOf n + amount)) := by
  have nothing : increment amount n = .leaf (.num amount) ∧ numberOf n = 0 →
      increment amount n = .leaf (.num (numberOf n + amount)) := by
    rintro ⟨h, hn⟩
    rw [h, hn, Int.zero_add]
  cases n with
  | record fields => exact nothing ⟨rfl, rfl⟩
  | leaf v =>
    cases v with
    | num n => rfl
    | _ => exact nothing ⟨rfl, rfl⟩

theorem numberOf_increment (amount : Int) (n : Data) :
    numberOf (increment amount n) = numberOf n + amount := by
  rw [increment_eq_num]
  rfl

/-- A change adds to the number at its place and leaves every other one. -/
theorem read_apply {c : Change} {p : Place} (hc : c.WellFormed) (hp : p.WellFormed) (s : State) :
    p.read (c.apply s) = (p.read s).map (· + if c.toPlace = p then c.amount else 0) := by
  rw [Place.WellFormed] at hc hp
  by_cases collection : c.toDevices = p.toDevices
  · have numbers : ∀ d : Data, numberOf (getAt p.path
        (if p.id = c.id then modifyAt (increment c.amount) c.path d else d)) =
          numberOf (getAt p.path d) + if c.toPlace = p then c.amount else 0 := by
      intro d
      by_cases same : c.toPlace = p
      · rw [← same, if_pos rfl, if_pos rfl, getAt_modifyAt_self, numberOf_increment]
      · rw [if_neg same, Int.add_zero]
        split
        · case isTrue hid =>
          have hpath : p.path ≠ c.path := fun h => same (Place.ext collection hid.symm h.symm)
          have length : p.path.length = c.path.length := by rw [hc, hp, collection]
          rw [getAt_modifyAt_of_diverge]
          · exact fun h => hpath (h.eq_of_length length)
          · exact fun h => hpath (h.eq_of_length length.symm).symm
        · rfl
    rw [Place.read, Place.read, Change.apply, ← collection]
    cases c.toDevices with
    | true | false =>
      simp only [if_true, Bool.false_eq_true, if_false, Store.get?_modifyIfThere, Option.map_map]
      congr 1
      funext d
      exact numbers d
  · have other : c.toPlace ≠ p := fun h => collection (h ▸ rfl)
    have unchanged : p.read (c.apply s) = p.read s := by
      rw [Place.read, Place.read, Change.apply]
      cases hct : c.toDevices with
      | true =>
        cases hpt : p.toDevices with
        | true => exact absurd (hct.trans hpt.symm) collection
        | false => rfl
      | false =>
        cases hpt : p.toDevices with
        | true => rfl
        | false => exact absurd (hct.trans hpt.symm) collection
    simp [unchanged, other]

/-- A call adds to every number what it says. -/
theorem read_perform {p : Place} (hp : p.WellFormed) (s : State) (call : Call) :
    p.read (perform s call).2 = (p.read s).map (· + added s p call) := by
  rw [perform_eq, added]
  cases hchange : call.change with
  | none =>
    have fails : ¬ (perform s call).1.status = "S" := by
      rw [succeeds_iff, hchange]
      simp
    simp [fails]
  | some c =>
    obtain ⟨hplace, hamount⟩ := place_of_change hchange
    simp only [read_apply (wellFormed_of_change hchange) hp, succeeds_iff, hplace, hamount]
    cases hread : p.read s with
    | none => rfl
    | some n =>
      by_cases same : c.toPlace = p
      · simp [same, hchange, hread]
      · simp [same]

theorem read_performAll {p : Place} (hp : p.WellFormed) (s : State) (calls : List Call) :
    p.read (performAll s calls) = (p.read s).map (· + (calls.map (added s p)).sum) := by
  induction calls generalizing s with
  | nil => simp [performAll]
  | cons call calls ih =>
    have later : ∀ d, added (perform s call).2 p d = added s p d := by
      intro d
      rw [added, added, reply_eq (ids_perform s call)]
    rw [performAll, List.foldl_cons, ← performAll, ih, read_perform hp, Option.map_map]
    simp only [List.map_cons, List.sum_cons, funext later]
    congr 1
    funext n
    exact Int.add_assoc ..

end Order

/-- However the calls of all devices interleave, no increment is lost: the documents are the same in
every order, and every call gets the answer it would have got alone. -/
theorem counters_order_free (s : State) (calls : List Call) : OrderFree s calls where
  documents _ h := h.symm.foldl_eq' (fun c _ d _ s => perform_comm s c d) s
  replies first call _ _ := reply_eq (ids_performAll s first) call
  totals _ hp := read_performAll hp s calls

section Unreadable

/-- A number of devices is no string, so the model is not read. -/
theorem fromDocumentSnapshot_of_num {platform : Platform} {field id : String} {d : Data} {k : Int}
    (hfield : platform.field = some field) (hd : d.children field = .leaf (.num k)) :
    DevicesModel.fromDocumentSnapshot id d = none := by
  have unread : readString (.leaf (.num k)) = none := rfl
  cases platform with
  | android =>
    cases hfield
    rw [DevicesModel.fromDocumentSnapshot, hd, unread]
    rfl
  | ios =>
    cases hfield
    rw [DevicesModel.fromDocumentSnapshot, hd, unread]
    cases readString (d.children "android") with
    | none | some android => rfl
  | other => cases hfield

theorem getAllDevicesModel_of_accepted {amount : Int} {failed : String} {platform : Platform}
    {orgID : String} {reached : Bool} {devices : Reports}
    (h : (changeDeviceValue amount failed platform orgID reached devices).1.status = "S")
    (reads : Bool) : getAllDevicesModelByOrganizationID
      (changeDeviceValue amount failed platform orgID reached devices).2 orgID reads = none := by
  obtain ⟨hid, hfield, rfl, found⟩ :=
    (changeDeviceValue_succeeds_iff amount failed platform orgID reached devices).mp h
  obtain ⟨field, hfield⟩ := Option.isSome_iff_exists.mp hfield
  obtain ⟨d, hd⟩ := Option.isSome_iff_exists.mp found
  obtain ⟨after, hafter, hget⟩ := Store.modify_of_get? hd fun d =>
    modifyAt (increment amount) (fieldPath field) d
  have updated : updateData devices orgID [(field, increment amount)] = some after := hafter
  have left : (changeDeviceValue amount failed platform orgID true devices).2 = after := by
    simp [changeDeviceValue, hid, hfield, updated]
  rw [left, getAllDevicesModelByOrganizationID]
  split
  · rfl
  · rw [hget, Option.bind_some, fieldPath_field hfield]
    apply fromDocumentSnapshot_of_num hfield
    rw [children_modifyAt_self, modifyAt, increment_eq_num]

end Unreadable

/-- The calls that change the numbers of an organization's devices. -/
def Call.ofDevices (orgID : String) : Call → Prop
  | .increaseTask .. => False
  | .incrementDevice _ id _ => id = orgID
  | .reductionDevice _ id _ => id = orgID

/-- Once one account was counted, or taken back, the numbers of the organization's devices are never
read again, whatever else is called before and after. -/
theorem devices_never_read (s : State) {calls : List Call} {call : Call} {orgID : String}
    (hmem : call ∈ calls) (hcall : call.ofDevices orgID)
    (accepted : (perform s call).1.status = "S") (reached : Bool) :
    getAllDevicesModelByOrganizationID (performAll s calls).devices orgID reached = none := by
  -- the order does not matter, so the call may be the last one
  obtain ⟨first, rest, rfl⟩ := List.append_of_mem hmem
  have last : (first ++ call :: rest).Perm ((first ++ rest) ++ [call]) := by
    refine List.perm_middle.trans ?_
    exact (List.perm_append_singleton call (first ++ rest)).symm
  have documents := last.symm.foldl_eq' (f := fun s c => (perform s c).2)
    (fun c _ d _ s => perform_comm s c d) s
  rw [performAll, ← documents, List.foldl_append, List.foldl_cons, List.foldl_nil, ← performAll]
  rw [← reply_eq (ids_performAll s (first ++ rest))] at accepted
  cases call with
  | increaseTask => exact absurd hcall id
  | incrementDevice platform id reached' =>
    cases hcall
    exact getAllDevicesModel_of_accepted accepted reached
  | reductionDevice platform id reached' =>
    cases hcall
    exact getAllDevicesModel_of_accepted accepted reached

/-- An organization without devices, and the first account. -/
theorem devices_never_read_first :
    getAllDevicesModelByOrganizationID
      (performAll ⟨⟨[], List.nodup_nil⟩, ⟨[("asm", .leaf .null)], by simp⟩⟩
        [.incrementDevice .ios "asm" true]).devices "asm" true = none :=
  devices_never_read _ (List.mem_singleton.mpr rfl)
    (show Call.ofDevices "asm" (.incrementDevice .ios "asm" true) from rfl) (by decide) true

end CounterOrder
