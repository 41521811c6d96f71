import AsmWt.Interleaving
import AsmWt.PendingCalls
import AsmWt.Employees

/-!
# One activated account per phone number

A registration asks for the records with its number and goes on unless the
first one returned is activated. The record itself is written after the code
was entered, at any later time and as often as codes are accepted. The models
are the objects of all devices; a press of Next changes one in place.
-/

namespace PhoneUniqueness

open KeyedRecord Firestore Employees Interleaving PendingCalls

/-- `userId` of `createUserAccount`. -/
def docId (m : EmployeeModel) : String := m.staffId.getD ""

/-- The calls in flight; `createUserAccount` has taken the payload from the model as it was. -/
inductive Call where
  | checkPhoneNumberIsExist (model : Nat) (phone : String)
  | createUserAccount (m : EmployeeModel) (now : Int)

/-- `checked` are the models with which `verifyPhone` went on to send a code. -/
structure State where
  employees : Collection
  models : List EmployeeModel := []
  checked : List Nat := []
  calls : List Call := []

inductive Event where
  | staffFound (m : EmployeeModel)
  | onNextBtnPressed (model : Nat) (email username phone : String)
  | processEmployeeSignUp (model : Nat) (device : Device) (uid : Option String) (now : Int)
  | reply (call : Nat) (ok : Bool)

/-- The documents of the query in `checkPhoneNumberIsExist`, `none` when it throws. -/
def queried (s : State) (phone : String) (ok : Bool) : Option (List (String × Doc)) :=
  if ok then some (matching s.employees "phone_number" (.str phone)) else none

/-- `res != null && res.isActivated == true`. -/
def isRegistered (docs : Option (List (String × Doc))) : Bool :=
  (replied docs).any fun res => res.isActivated = some true

/-- What a reply does once its call is no longer in flight. -/
def resume (s : State) : Call → Bool → Option State
  | .checkPhoneNumberIsExist model phone, ok =>
    if isRegistered (queried s phone ok) then some s
    else (s.models[model]?).map fun _ => { s with checked := model :: s.checked }
  | .createUserAccount m now, true => do
    let employees ← updateData s.employees (docId m) (toJson m now)
    return { s with employees := employees }
  | .createUserAccount _ _, false => some s

def step (s : State) : Event → Option State
  | .staffFound m => some { s with models := s.models ++ [m] }
  | .onNextBtnPressed model email username phone =>
    if ifStartWithZero phone then do
      let m ← s.models[model]?
      let m' := { m with
        email := some email
        username := some username
        phoneNumber := some phone }
      return { s with
        models := s.models.set model m'
        calls := .checkPhoneNumberIsExist model phone :: s.calls }
    else none
  | .processEmployeeSignUp model device uid now =>
    if model ∈ s.checked then do
      let m ← s.models[model]?
      let m' := signedUp m device uid
      return { s with
        models := s.models.set model m'
        calls := .createUserAccount m' now :: s.calls }
    else none
  | .reply call ok => do
    let (c, rest) ← takeOut s.calls call
    resume { s with calls := rest } c ok

/-- An activated employee with the number. -/
def HasNumber (d : Doc) (number : String) : Prop :=
  d "isActivated" = .bool true ∧ d "phone_number" = .str number

/-- Nobody but the employee has the number. -/
def Free (c : Collection) (id number : String) : Prop :=
  ∀ e ∈ c.entries, HasNumber e.2 number → e.1 = id

def OneAccountPerNumber (c : Collection) : Prop :=
  ∀ e ∈ c.entries, ∀ number, HasNumber e.2 number → Free c e.1 number

/-- The number of the model is free for the employee it registers. -/
def MayRegister (c : Collection) (m : EmployeeModel) : Prop :=
  ∀ number ∈ m.phoneNumber, Free c (docId m) number

def Call.writes : Call → Option EmployeeModel
  | .checkPhoneNumberIsExist _ _ => none
  | .createUserAccount m _ => some m

/-- The registrations past their check whose record may still be written. -/
def State.underway (s : State) : List EmployeeModel :=
  s.checked.filterMap (s.models[·]?) ++ s.calls.filterMap Call.writes

/-- When another activated employee has the number, the query answers and its first record is
an activated one; when a record lands, nobody else's registration of the same number is past
its check. -/
def ReplyAllowed (s : State) : Call → Bool → Prop
  | .checkPhoneNumberIsExist model phone, ok =>
    (∃ m ∈ s.models[model]?, ¬ MayRegister s.employees m) →
      isRegistered (queried s phone ok) = true
  | .createUserAccount m _, ok =>
    ok = true → ∀ m' ∈ s.underway, m'.phoneNumber.isSome = true →
      m'.phoneNumber = m.phoneNumber → docId m' = docId m

/-- Besides, a model whose registration is past its check takes no number of somebody else. -/
def Undisturbed (s : State) : Event → Prop
  | .onNextBtnPressed model _ _ phone =>
    model ∈ s.checked → ∀ m ∈ s.models[model]?, Free s.employees (docId m) phone
  | .reply call ok => ∀ x ∈ takeOut s.calls call, ReplyAllowed s x.1 ok
  | _ => True

instance (d : Doc) (number : String) : Decidable (HasNumber d number) :=
  inferInstanceAs (Decidable (d "isActivated" = .bool true ∧ d "phone_number" = .str number))

instance (c : Collection) (id number : String) : Decidable (Free c id number) :=
  inferInstanceAs (Decidable (∀ e ∈ c.entries, HasNumber e.2 number → e.1 = id))

instance (c : Collection) (m : EmployeeModel) : Decidable (MayRegister c m) :=
  inferInstanceAs (Decidable (∀ number ∈ m.phoneNumber, Free c (docId m) number))

instance (s : State) : ∀ c ok, Decidable (ReplyAllowed s c ok)
  | .checkPhoneNumberIsExist model phone, ok =>
    inferInstanceAs (Decidable ((∃ m ∈ s.models[model]?, ¬ MayRegister s.employees m) →
      isRegistered (queried s phone ok) = true))
  | .createUserAccount m _, ok =>
    inferInstanceAs (Decidable (ok = true → ∀ m' ∈ s.underway, m'.phoneNumber.isSome = true →
      m'.phoneNumber = m.phoneNumber → docId m' = docId m))

instance (s : State) : ∀ e, Decidable (Undisturbed s e)
  | .onNextBtnPressed model _ _ phone =>
    inferInstanceAs (Decidable (model ∈ s.checked →
      ∀ m ∈ s.models[model]?, Free s.employees (docId m) phone))
  | .reply call ok =>
    inferInstanceAs (Decidable (∀ x ∈ takeOut s.calls call, ReplyAllowed s x.1 ok))
  | .staffFound _ | .processEmployeeSignUp _ _ _ _ => isTrue trivial

structure Inv (s : State) : Prop where
  unique : OneAccountPerNumber s.employees
  known : ∀ i ∈ s.checked, i < s.models.length
  mayRegister : ∀ m ∈ s.underway, MayRegister s.employees m

theorem mem_underway_of_checked {s : State} {i : Nat} {m : EmployeeModel} (hi : i ∈ s.checked)
    (hm : s.models[i]? = some m) : m ∈ s.underway :=
  List.mem_append_left _ (List.mem_filterMap.mpr ⟨i, hi, hm⟩)

theorem mem_underway_of_call {s : State} {c : Call} {m : EmployeeModel} (hc : c ∈ s.calls)
    (hm : c.writes = some m) : m ∈ s.underway :=
  List.mem_append_right _ (List.mem_filterMap.mpr ⟨c, hc, hm⟩)

theorem mem_underway {s : State} {m : EmployeeModel} (h : m ∈ s.underway) :
    (∃ i ∈ s.checked, s.models[i]? = some m) ∨ ∃ c ∈ s.calls, c.writes = some m := by
  rcases List.mem_append.mp h with h | h
  · exact Or.inl (List.mem_filterMap.mp h)
  · exact Or.inr (List.mem_filterMap.mp h)

/-- The documents after a registration has landed. -/
theorem hasNumber_landed {c t : Collection} {m : EmployeeModel} {now : Int}
    (h : updateData c (docId m) (toJson m now) = some t) {e : String × Doc} (he : e ∈ t.entries)
    {number : String} (hn : HasNumber e.2 number) :
    (e.1 ≠ docId m ∧ e ∈ c.entries) ∨ (e.1 = docId m ∧ m.phoneNumber = some number) := by
  rcases (DocStore.Store.mem_modify h).mp he with hold | ⟨hid, r, -, hr⟩
  · exact Or.inl hold
  · refine Or.inr ⟨hid, ?_⟩
    have hphone := hn.2
    rw [hr, update_toJson (w := Codec.string.encode m.phoneNumber) (by simp [toJson])] at hphone
    exact Codec.string_encode_eq_str_iff.mp hphone

theorem Free.landed {c t : Collection} {m : EmployeeModel} {now : Int}
    (h : updateData c (docId m) (toJson m now) = some t) {id number : String}
    (hfree : Free c id number) (own : m.phoneNumber = some number → id = docId m) :
    Free t id number := by
  intro e he hn
  rcases hasNumber_landed h he hn with ⟨-, hold⟩ | ⟨hid, hphone⟩
  · exact hfree e hold hn
  · exact hid.trans (own hphone).symm

/-- A registration whose number is free lands without a second account. -/
theorem OneAccountPerNumber.landed {c t : Collection} {m : EmployeeModel} {now : Int}
    (hc : OneAccountPerNumber c) (h : updateData c (docId m) (toJson m now) = some t)
    (may : MayRegister c m) : OneAccountPerNumber t := by
  intro e he number hn
  rcases hasNumber_landed h he hn with ⟨hne, hold⟩ | ⟨hid, hphone⟩
  · refine (hc e hold number hn).landed h fun hphone => ?_
    exact absurd (may number hphone e hold hn) hne
  · rw [hid]
    exact (may number hphone).landed h fun _ => rfl

/-- The invariant survives every step that leaves the collection alone and adds no registration
whose number is taken. -/
theorem Inv.frame {s t : State} (h : Inv s) (same : t.employees = s.employees)
    (known : ∀ i ∈ t.checked, i < t.models.length)
    (underway : ∀ m ∈ t.underway, m ∈ s.underway ∨ MayRegister s.employees m) : Inv t := by
  refine ⟨same ▸ h.unique, known, fun m hm => ?_⟩
  rw [same]
  rcases underway m hm with hm | hm
  · exact h.mayRegister m hm
  · exact hm

/-- A model may change while its registration goes on, as long as its number stays free. -/
theorem Inv.setModel {s : State} (h : Inv s) {i : Nat} {m' : EmployeeModel} {c : Call}
    (may : i ∈ s.checked → MayRegister s.employees m')
    (writes : ∀ m ∈ c.writes, MayRegister s.employees m) :
    Inv { s with models := s.models.set i m', calls := c :: s.calls } := by
  refine h.frame rfl (fun j hj => ?_) (fun m hm => ?_)
  · rw [List.length_set]
    exact h.known j hj
  · rcases mem_underway hm with ⟨j, hj, hm⟩ | ⟨d, hd, hw⟩
    · have hm : (s.models.set i m')[j]? = some m := hm
      by_cases hij : i = j
      · subst hij
        rw [List.getElem?_set_self (h.known i hj)] at hm
        cases hm
        exact Or.inr (may hj)
      · rw [List.getElem?_set_ne hij] at hm
        exact Or.inl (mem_underway_of_checked hj hm)
    · rcases List.mem_cons.mp hd with rfl | hd
      · exact Or.inr (writes m hw)
      · exact Or.inl (mem_underway_of_call hd hw)

theorem Inv.takeOut {s : State} (h : Inv s) {i : Nat} {c : Call} {rest : List Call}
    (ht : takeOut s.calls i = some (c, rest)) :
    Inv { s with calls := rest } ∧ ∀ m ∈ c.writes, MayRegister s.employees m := by
  constructor
  · refine h.frame rfl h.known fun m hm => Or.inl ?_
    rcases mem_underway hm with ⟨j, hj, hm⟩ | ⟨d, hd, hm⟩
    · exact mem_underway_of_checked hj hm
    · exact mem_underway_of_call (mem_of_mem_rest ht hd) hm
  · exact fun m hm => h.mayRegister m (mem_underway_of_call (mem_takeOut ht) hm)

/-- A check that holds, or a record that lands alone, keeps the invariant. -/
theorem resume_inv {s t : State} (h : Inv s) {c : Call} {ok : Bool}
    (writes : ∀ m ∈ c.writes, MayRegister s.employees m) (allowed : ReplyAllowed s c ok)
    (hr : resume s c ok = some t) : Inv t := by
  cases c with
  | checkPhoneNumberIsExist i phone =>
    simp only [resume] at hr
    split at hr
    · cases hr
      exact h
    · case isFalse hnot =>
      obtain ⟨m, hm, hr⟩ := Option.map_eq_some_iff.mp hr
      cases hr
      have hi := (List.getElem?_eq_some_iff.mp hm).1
      refine h.frame rfl (fun j hj => ?_) (fun m hm => ?_)
      · rcases List.mem_cons.mp hj with rfl | hj
        · exact hi
        · exact h.known j hj
      · rcases mem_underway hm with ⟨j, hj, hm⟩ | ⟨d, hd, hw⟩
        · rcases List.mem_cons.mp hj with rfl | hj
          · right
            by_contra htaken
            exact hnot (allowed ⟨m, hm, htaken⟩)
          · exact Or.inl (mem_underway_of_checked hj hm)
        · exact Or.inl (mem_underway_of_call hd hw)
  | createUserAccount m now =>
    cases ok with
    | false =>
      cases hr
      exact h
    | true =>
      obtain ⟨employees, hupdate, hr⟩ := Option.bind_eq_some_iff.mp hr
      cases hr
      have may := writes m rfl
      refine ⟨h.unique.landed hupdate may, h.known, fun m' hm' number hn => ?_⟩
      have hm' : m' ∈ s.underway := hm'
      refine (h.mayRegister m' hm' number hn).landed hupdate fun hphone => ?_
      apply allowed rfl m' hm'
      · rw [show m'.phoneNumber = some number from hn]
        rfl
      · exact Eq.trans hn hphone.symm

/-- What is allowed with a call in flight is allowed once it is taken out. -/
theorem ReplyAllowed.takeOut {s : State} {i : Nat} {c : Call} {rest : List Call} {ok : Bool}
    (ht : takeOut s.calls i = some (c, rest)) (h : ReplyAllowed s c ok) :
    ReplyAllowed { s with calls := rest } c ok := by
  cases c with
  | checkPhoneNumberIsExist model phone => exact h
  | createUserAccount m now =>
    intro hok m' hm'
    apply h hok
    rcases mem_underway hm' with ⟨j, hj, hm⟩ | ⟨d, hd, hw⟩
    · exact mem_underway_of_checked hj hm
    · exact mem_underway_of_call (mem_of_mem_rest ht hd) hw

theorem step_inv {s t : State} {e : Event} (h : Inv s) (allowed : Undisturbed s e)
    (hstep : step s e = some t) : Inv t := by
  cases e with
  | staffFound m =>
    cases hstep
    refine h.frame rfl (fun j hj => ?_) (fun m' hm' => Or.inl ?_)
    · have hlt := h.known j hj
      rw [List.length_append]
      omega
    · rcases mem_underway hm' with ⟨j, hj, hm⟩ | ⟨d, hd, hw⟩
      · have hm : (s.models ++ [m])[j]? = some m' := hm
        rw [List.getElem?_append_left (h.known j hj)] at hm
        exact mem_underway_of_checked hj hm
      · exact mem_underway_of_call hd hw
  | onNextBtnPressed model email username phone =>
    simp only [step] at hstep
    split at hstep
    · obtain ⟨m, hm, hstep⟩ := Option.bind_eq_some_iff.mp hstep
      cases hstep
      refine h.setModel (fun hchecked number hn => ?_) (fun _ hw => nomatch hw)
      cases hn
      exact allowed hchecked m hm
    · cases hstep
  | processEmployeeSignUp model device uid now =>
    simp only [step] at hstep
    split at hstep
    · case isTrue hchecked =>
      obtain ⟨m, hm, hstep⟩ := Option.bind_eq_some_iff.mp hstep
      cases hstep
      have may : MayRegister s.employees (signedUp m device uid) :=
        h.mayRegister m (mem_underway_of_checked hchecked hm)
      refine h.setModel (fun _ => may) (fun m' hm' => ?_)
      cases hm'
      exact may
    · cases hstep
  | reply call ok =>
    obtain ⟨⟨c, rest⟩, ht, hstep⟩ := Option.bind_eq_some_iff.mp hstep
    obtain ⟨h', hwrites⟩ := h.takeOut ht
    exact resume_inv h' hwrites ((allowed (c, rest) ht).takeOut ht) hstep

/-- However registrations overlap: while the checks see every account and no two registrations
of one number are past their check, no two activated employees share a number. -/
theorem one_account_per_number {c : Collection} (initially : OneAccountPerNumber c)
    {es : List Event} (undisturbed : EveryStep step Undisturbed { employees := c } es) :
    EveryState step (fun s => OneAccountPerNumber s.employees) { employees := c } es := by
  have hinit : Inv { employees := c } :=
    ⟨initially, fun _ hi => absurd hi List.not_mem_nil, fun _ hm => absurd hm List.not_mem_nil⟩
  have hinv := everyState_of_everyStep (fun _ _ _ h hc ht => step_inv h hc ht) hinit undisturbed
  exact hinv.mono fun _ h => h.unique

/-- An employee record with a number. -/
def employee (id : String) (active : Bool) (phone : String) : String × Doc :=
  (id, update (fun _ => .null)
    [("employee_id", .str id), ("isActivated", .bool active), ("phone_number", .str phone)])

/-- Two records with the same number, of which the second is activated. -/
def preFilled : Collection :=
  ⟨[employee "e1" false "+66811111111", employee "e2" true "+66811111111",
    employee "e3" false "+66833333333"], by decide⟩

def registers (staffId phone : String) : List Event :=
  [.staffFound { staffId := some staffId }, .onNextBtnPressed 0 "" "" phone, .reply 0 true,
    .processEmployeeSignUp 0 (.android "A1") none 0, .reply 0 true]

/-- A collection without two activated records of one number, compared record by record. -/
theorem oneAccountPerNumber_of_ne {c : Collection}
    (h : ∀ e ∈ c.entries, ∀ f ∈ c.entries, e.2 "isActivated" = .bool true →
      f.2 "isActivated" = .bool true → f.2 "phone_number" = e.2 "phone_number" → f.1 = e.1) :
    OneAccountPerNumber c :=
  fun e he _ hn f hf hm => h e he f hf hn.1 hm.1 (hm.2.trans hn.2.symm)

theorem preFilled_oneAccountPerNumber : OneAccountPerNumber preFilled :=
  oneAccountPerNumber_of_ne (by decide)

theorem one_account_per_number_single :
    OneAccountPerNumber preFilled ∧
      EveryStep step Undisturbed { employees := preFilled } (registers "e3" "+66833333333") ∧
      EveryState step (fun s => OneAccountPerNumber s.employees) { employees := preFilled }
        (registers "e3" "+66833333333") ∧
      (run step { employees := preFilled } (registers "e3" "+66833333333")).any
        (fun t => ∃ e ∈ t.employees.entries, e.1 = "e3" ∧ HasNumber e.2 "+66833333333") = true := by
  have undisturbed : EveryStep step Undisturbed { employees := preFilled }
      (registers "e3" "+66833333333") := by decide
  exact ⟨preFilled_oneAccountPerNumber, undisturbed,
    one_account_per_number preFilled_oneAccountPerNumber undisturbed, by decide⟩

/-- The first record with the number is not activated, the second is: the check passes. -/
theorem preFilled_number_is_registered_again :
    ¬ ∀ (c : Collection) (es : List Event), OneAccountPerNumber c →
        EveryState step (fun s => OneAccountPerNumber s.employees) { employees := c } es := by
  intro claim
  refine not_everyState_of_run
    (fun t => ∃ e ∈ t.employees.entries, ∃ f ∈ t.employees.entries,
      HasNumber e.2 "+66811111111" ∧ HasNumber f.2 "+66811111111" ∧ f.1 ≠ e.1) ?_ ?_
    (claim preFilled (registers "e3" "+66811111111") preFilled_oneAccountPerNumber)
  · intro t hbad h
    obtain ⟨e, he, f, hf, hne, hnf, hdiff⟩ := of_decide_eq_true hbad
    exact hdiff (h e he _ hne f hf hnf)
  · decide

end PhoneUniqueness
