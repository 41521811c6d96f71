import AsmWt.Interleaving
import AsmWt.PendingCalls
import AsmWt.DeviceGate

/-!
# Which number a code was sent to and whom it signs in

`LoginController` has one `EmployeeModel` that every accepted lookup overwrites,
`RegisterStep1Controller` one for every staff record it finds, which every press
of Next overwrites. The verification callbacks and the code page hold these
objects, not copies. The code page's fields live in the singleton
`RegisterStep2Controller`, and a completed verification uses whatever they are
by then. The providers accept a code only for the verification id or token it
was issued for, and an id belongs to the number it was requested for.
-/

namespace OtpBinding

open KeyedRecord Firestore Employees DeviceGate Interleaving PendingCalls

/-- The `type` of a verification. -/
inductive Purpose where
  | login
  | register
  deriving DecidableEq

/-- The fields `RegisterStep2View.initState` gives to the controller; `otp` is the
verification id, or the token when `isThaiBulkSms` is set. -/
structure Page where
  type : Purpose
  model : Nat
  otp : Nat
  isThaiBulkSms : Bool

/-- The calls in flight. From `signInWithCredential` on, `otp` is the code that was entered. -/
inductive Call where
  | checkPhoneNumberIsExist (typed : String)
  | checkRegistered (model : Nat) (phone : String)
  | verifyPhoneNumber (type : Purpose) (model otp : Nat)
  | requestThaiBulkSmsOTP (type : Purpose) (model : Nat) (number : String)
  | signInWithCredential (type : Purpose) (otp : Nat)
  | verifyThaiBulkSmsOTP (otp : Nat)
  | signInAnonymously (otp : Nat)
  | deviceInfo (otp : Nat)
  | createUserAccount (staffId : String) (data : Payload) (otp : Nat)

inductive Completion where
  | login (staffId sentTo : String)
  | register (staffId : String) (phoneNumber : Option Value) (sentTo : String)

/-- `models` are the `EmployeeModel` objects, `LoginController`'s first; `issued` are the
numbers codes were requested for, by verification id or token; `found` are the staff ids and
numbers of the records accepted for a sign-in. -/
structure State where
  models : List EmployeeModel := [{}]
  regModel : Option Nat := none
  calls : List Call := []
  issued : List String := []
  page : Option Page := none
  pageOpen : Bool := false
  found : List (Option String × String) := []
  completed : List Completion := []

inductive Reply where
  | failed
  | ok
  | docs (docs : Option (List (String × Doc)))
  | codeSent
  | verificationFailed

inductive Event where
  | onSignInPressed (phone : String)
  | staffFound (m : EmployeeModel)
  | onNextBtnPressed (email username phone : String)
  | verifyOTPFunc
  | reply (call : Nat) (r : Reply)

namespace State

def await (s : State) (c : Call) : State := { s with calls := c :: s.calls }

def setModel (s : State) (i : Nat) (m : EmployeeModel) : State :=
  { s with models := s.models.set i m }

/-- `auth.verifyPhoneNumber`: a code is requested for the number the model has now. -/
def verifyPhoneNumber (s : State) (type : Purpose) (model : Nat) (number : String) : State :=
  State.await { s with issued := s.issued ++ [number] }
    (.verifyPhoneNumber type model s.issued.length)

def openPage (s : State) (p : Page) : State := { s with page := some p, pageOpen := true }

/-- `RegisterStep2Controller.employeeModel`. -/
def employeeModel (s : State) : Option EmployeeModel := do
  let p ← s.page
  s.models[p.model]?

/-- `processEmployeeLogin`. -/
def processEmployeeLogin (s : State) (sentTo : String) : State :=
  { s with
    completed := .login ((s.employeeModel.bind (·.staffId)).getD "") sentTo :: s.completed
    pageOpen := false }

end State

/-- The record a sign-in goes on with, when the device gate lets it. -/
def signInRecord (device : Device) (typed : String) (docs : Option (List (String × Doc))) :
    Option EmployeeModel :=
  (replied docs).filter fun res => DeviceGate.onSignInPressed res typed device = .verifyPhone

/-- The continuation of `onSignInPressed` on an accepted record. -/
def onSignInRecord (s : State) (res : EmployeeModel) : Option State := do
  let m ← s.models[0]?
  let number ← res.phoneNumber
  let m' := { m with
    username := res.username
    organization_id := res.organization_id
    staffId := res.staffId
    phoneNumber := res.phoneNumber }
  return ({ s.setModel 0 m' with found := (res.staffId, number) :: s.found }).verifyPhoneNumber
    .login 0 number

/-- What a reply does once its call is no longer in flight. -/
def resume (device : Device) (uid : Option String) (now : Int) (s : State) :
    Call → Reply → Option State
  | .checkPhoneNumberIsExist typed, .docs docs =>
    if Matches docs "phone_number" typed then
      match signInRecord device typed docs with
      | none => some s
      | some res => onSignInRecord s res
    else none
  | .checkRegistered model phone, .docs docs =>
    if Matches docs "phone_number" phone then
      if (replied docs).any fun res => res.isActivated = some true then some s
      else do
        let m ← s.models[model]?
        let number ← m.phoneNumber
        return s.verifyPhoneNumber .register model number
    else none
  | .verifyPhoneNumber type model otp, .codeSent => some (s.openPage ⟨type, model, otp, false⟩)
  | .verifyPhoneNumber type model _, .verificationFailed => do
    let m ← s.models[model]?
    return s.await (.requestThaiBulkSmsOTP type model (m.phoneNumber.getD ""))
  | .requestThaiBulkSmsOTP type model number, .ok =>
    some (State.openPage { s with issued := s.issued ++ [number] }
      ⟨type, model, s.issued.length, true⟩)
  -- the model that was verified is passed along, but the controller's field is used
  | .signInWithCredential .login otp, .ok => do
    let sentTo ← s.issued[otp]?
    return s.processEmployeeLogin sentTo
  | .signInWithCredential .register otp, .ok => some (s.await (.deviceInfo otp))
  | .verifyThaiBulkSmsOTP otp, .ok => some (s.await (.signInAnonymously otp))
  | .signInAnonymously otp, .ok => do
    let p ← s.page
    match p.type with
    | .login => do
      let sentTo ← s.issued[otp]?
      return s.processEmployeeLogin sentTo
    | .register => return s.await (.deviceInfo otp)
  | .deviceInfo otp, .ok => do
    let p ← s.page
    let m ← s.models[p.model]?
    let m' := signedUp m device uid
    return (s.setModel p.model m').await
      (.createUserAccount (m'.staffId.getD "") (toJson m' now) otp)
  | .createUserAccount staffId data otp, .ok => do
    let sentTo ← s.issued[otp]?
    return { s with
      completed := .register staffId (data.lookup "phone_number") sentTo :: s.completed
      pageOpen := false }
  | _, .failed => some s
  | _, _ => none

def step (device : Device) (uid : Option String) (now : Int) (s : State) : Event → Option State
  | .onSignInPressed phone =>
    if ifStartWithZero phone then some (s.await (.checkPhoneNumberIsExist phone)) else none
  | .staffFound m =>
    some { s with models := s.models ++ [m], regModel := some s.models.length }
  | .onNextBtnPressed email username phone =>
    if ifStartWithZero phone then do
      let i ← s.regModel
      let m ← s.models[i]?
      let m' := { m with
        email := some email
        username := some username
        phoneNumber := some phone }
      return (s.setModel i m').await (.checkRegistered i phone)
    else none
  | .verifyOTPFunc =>
    if s.pageOpen then do
      let p ← s.page
      return s.await <|
        if p.isThaiBulkSms then .verifyThaiBulkSmsOTP p.otp
        else .signInWithCredential p.type p.otp
    else none
  | .reply call r => do
    let (c, rest) ← takeOut s.calls call
    resume device uid now { s with calls := rest } c r

/-- The code that completed the operation had been sent to the employee's own number: for a
sign-in the number of an accepted record with that staff id, for a registration the number
that is stored. -/
def Completion.Bound (found : List (Option String × String)) : Completion → Prop
  | .login staffId sentTo => ∃ id, id.getD "" = staffId ∧ (id, sentTo) ∈ found
  | .register _ phoneNumber sentTo => phoneNumber = some (.str sentTo)

def OtpBound (s : State) : Prop := ∀ c ∈ s.completed, c.Bound s.found

/-- The model a call or the open page relies on, with the number its code was sent to. -/
def Call.uses (s : State) : Call → Option (Nat × String)
  | .verifyPhoneNumber _ model otp => (s.issued[otp]?).map fun number => (model, number)
  | .requestThaiBulkSmsOTP _ model number => some (model, number)
  | .signInWithCredential _ otp | .verifyThaiBulkSmsOTP otp | .signInAnonymously otp
  | .deviceInfo otp => s.page.bind fun p => (s.issued[otp]?).map fun number => (p.model, number)
  | .checkPhoneNumberIsExist _ | .checkRegistered _ _ | .createUserAccount _ _ _ => none

def State.pageUses (s : State) : Option (Nat × String) :=
  if s.pageOpen then
    s.page.bind fun p => (s.issued[p.otp]?).map fun number => (p.model, number)
  else none

def State.inUse (s : State) : List (Nat × String) :=
  s.calls.filterMap (·.uses s) ++ s.pageUses.toList

/-- A code that was entered and is being verified or acted on, with what it was entered for. -/
def Call.entered : Call → Option (Option Purpose × Nat)
  | .signInWithCredential type otp => some (some type, otp)
  | .verifyThaiBulkSmsOTP otp | .signInAnonymously otp | .deviceInfo otp => some (none, otp)
  | _ => none

/-- A model may take a number when every attempt that relies on the model is for it. -/
def MayTake (s : State) (model : Nat) (number : String) : Prop :=
  ∀ u ∈ s.inUse, u.1 = model → u.2 = number

/-- A page may open for a number when every code being verified is for it and for the same
purpose. -/
def MayOpen (s : State) (type : Purpose) (number : String) : Prop :=
  ∀ c ∈ s.calls, ∀ e ∈ c.entered, s.issued[e.2]? = some number ∧ ∀ t ∈ e.1, t = type

/-- The replies that put a number into `LoginController`'s model or open a code page. -/
def ReplyAllowed (device : Device) (s : State) : Call → Reply → Prop
  | .checkPhoneNumberIsExist typed, .docs docs =>
    (signInRecord device typed docs).isSome = true → MayTake s 0 typed
  | .verifyPhoneNumber type _ otp, .codeSent => ∀ number ∈ s.issued[otp]?, MayOpen s type number
  | .requestThaiBulkSmsOTP type _ number, .ok => MayOpen s type number
  | _, _ => True

/-- One number at a time: no accepted lookup and no press of Next puts another number into a
model that an attempt relies on, and no code page opens while a code for another number or
purpose is being verified. -/
def OneNumberAtATime (device : Device) (s : State) : Event → Prop
  | .onNextBtnPressed _ _ phone => ∀ i ∈ s.regModel, MayTake s i phone
  | .reply call r => ∀ x ∈ takeOut s.calls call, ReplyAllowed device s x.1 r
  | _ => True

instance (s : State) (model : Nat) (number : String) : Decidable (MayTake s model number) :=
  inferInstanceAs (Decidable (∀ u ∈ s.inUse, u.1 = model → u.2 = number))

instance (s : State) (type : Purpose) (number : String) : Decidable (MayOpen s type number) :=
  inferInstanceAs (Decidable (∀ c ∈ s.calls, ∀ e ∈ c.entered,
    s.issued[e.2]? = some number ∧ ∀ t ∈ e.1, t = type))

instance (device : Device) (s : State) : ∀ c r, Decidable (ReplyAllowed device s c r)
  | .checkPhoneNumberIsExist typed, .docs docs =>
    inferInstanceAs (Decidable ((signInRecord device typed docs).isSome = true → MayTake s 0 typed))
  | .verifyPhoneNumber type _ otp, .codeSent =>
    inferInstanceAs (Decidable (∀ number ∈ s.issued[otp]?, MayOpen s type number))
  | .requestThaiBulkSmsOTP type _ number, .ok =>
    inferInstanceAs (Decidable (MayOpen s type number))
  | .checkPhoneNumberIsExist _, .failed | .checkPhoneNumberIsExist _, .ok
  | .checkPhoneNumberIsExist _, .codeSent | .checkPhoneNumberIsExist _, .verificationFailed
  | .verifyPhoneNumber _ _ _, .failed | .verifyPhoneNumber _ _ _, .ok
  | .verifyPhoneNumber _ _ _, .docs _ | .verifyPhoneNumber _ _ _, .verificationFailed
  | .requestThaiBulkSmsOTP _ _ _, .failed | .requestThaiBulkSmsOTP _ _ _, .docs _
  | .requestThaiBulkSmsOTP _ _ _, .codeSent | .requestThaiBulkSmsOTP _ _ _, .verificationFailed
  | .checkRegistered _ _, _ | .signInWithCredential _ _, _ | .verifyThaiBulkSmsOTP _, _
  | .signInAnonymously _, _ | .deviceInfo _, _ | .createUserAccount _ _ _, _ => isTrue trivial

instance (device : Device) (s : State) : ∀ e, Decidable (OneNumberAtATime device s e)
  | .onNextBtnPressed _ _ phone =>
    inferInstanceAs (Decidable (∀ i ∈ s.regModel, MayTake s i phone))
  | .reply call r =>
    inferInstanceAs (Decidable (∀ x ∈ takeOut s.calls call, ReplyAllowed device s x.1 r))
  | .onSignInPressed _ | .staffFound _ | .verifyOTPFunc => isTrue trivial

/-- A model holds a number. -/
def HasPhone (s : State) (i : Nat) (number : String) : Prop :=
  ∃ m, s.models[i]? = some m ∧ m.phoneNumber = some number

/-- The model of the code page holds the number, and a sign-in page has `LoginController`'s. -/
def PageHas (s : State) (number : String) : Prop :=
  ∃ p, s.page = some p ∧ HasPhone s p.model number ∧ (p.type = .login → p.model = 0)

/-- What the code page is after a code was entered on it. -/
def Entered (s : State) (otp : Nat) : Prop :=
  ∃ number, s.issued[otp]? = some number ∧ PageHas s number

/-- What a call in flight relies on. -/
def Call.Sound (s : State) : Call → Prop
  | .checkPhoneNumberIsExist _ | .checkRegistered _ _ => True
  | .verifyPhoneNumber type model otp =>
    (type = .login → model = 0) ∧ ∃ number, s.issued[otp]? = some number ∧ HasPhone s model number
  | .requestThaiBulkSmsOTP type model number =>
    (type = .login → model = 0) ∧ HasPhone s model number
  | .signInWithCredential type otp => Entered s otp ∧ ∀ p ∈ s.page, p.type = type
  | .verifyThaiBulkSmsOTP otp | .signInAnonymously otp | .deviceInfo otp => Entered s otp
  | .createUserAccount _ data otp =>
    ∃ number, s.issued[otp]? = some number ∧ data.lookup "phone_number" = some (.str number)

structure Inv (s : State) : Prop where
  login : ∀ m, s.models[0]? = some m → ∀ n, m.phoneNumber = some n → (m.staffId, n) ∈ s.found
  register : 0 < s.models.length ∧ s.regModel ≠ some 0
  calls : ∀ c ∈ s.calls, c.Sound s
  page : s.pageOpen = true → ∃ p, s.page = some p ∧ Entered s p.otp
  completed : OtpBound s

/-- What every step leaves as it is for those who rely on it. -/
structure Frame (s t : State) : Prop where
  issued : ∀ (i : Nat) n, s.issued[i]? = some n → t.issued[i]? = some n
  page : t.page = s.page
  phones : ∀ u ∈ s.inUse, HasPhone s u.1 u.2 → HasPhone t u.1 u.2

theorem mem_inUse_of_call {s : State} {c : Call} (hc : c ∈ s.calls) {u : Nat × String}
    (hu : c.uses s = some u) : u ∈ s.inUse :=
  List.mem_append_left _ (List.mem_filterMap.mpr ⟨c, hc, hu⟩)

/-- A page that somebody relies on still has the number afterwards. -/
theorem Entered.frame {s t : State} {otp : Nat} (h : Entered s otp) (f : Frame s t)
    (used : ∀ p number, s.page = some p → s.issued[otp]? = some number →
      (p.model, number) ∈ s.inUse) : Entered t otp := by
  obtain ⟨number, hn, p, hp, hphone, hlogin⟩ := h
  refine ⟨number, f.issued _ _ hn, p, f.page.trans hp, ?_, hlogin⟩
  exact f.phones _ (used p number hp hn) hphone

theorem Call.Sound.frame {s t : State} {c : Call} (h : c.Sound s) (hc : c ∈ s.calls)
    (f : Frame s t) : c.Sound t := by
  have used : ∀ otp : Nat, c.uses s = (s.page.bind fun p =>
      (s.issued[otp]?).map fun number => (p.model, number)) →
      ∀ p number, s.page = some p → s.issued[otp]? = some number →
        (p.model, number) ∈ s.inUse := by
    intro otp hu p number hp hn
    apply mem_inUse_of_call hc
    rw [hu, hp, Option.bind_some, hn, Option.map_some]
  cases c with
  | checkPhoneNumberIsExist typed => trivial
  | checkRegistered model phone => trivial
  | verifyPhoneNumber type model otp =>
    obtain ⟨hlogin, number, hn, hphone⟩ := h
    refine ⟨hlogin, number, f.issued _ _ hn, f.phones (model, number) ?_ hphone⟩
    apply mem_inUse_of_call hc
    simp only [Call.uses, hn, Option.map_some]
  | requestThaiBulkSmsOTP type model number =>
    exact ⟨h.1, f.phones (model, number) (mem_inUse_of_call hc rfl) h.2⟩
  | signInWithCredential type otp =>
    refine ⟨h.1.frame f (used otp rfl), fun p hp => h.2 p ?_⟩
    rw [← f.page]
    exact hp
  | verifyThaiBulkSmsOTP otp => exact Entered.frame h f (used otp rfl)
  | signInAnonymously otp => exact Entered.frame h f (used otp rfl)
  | deviceInfo otp => exact Entered.frame h f (used otp rfl)
  | createUserAccount staffId data otp =>
    obtain ⟨number, hn, hdata⟩ := h
    exact ⟨number, f.issued _ _ hn, hdata⟩

/-- The invariant survives every step that keeps what is relied on. -/
theorem Inv.frame {s t : State} (h : Inv s) (f : Frame s t)
    (login : ∀ m, t.models[0]? = some m → ∀ n, m.phoneNumber = some n → (m.staffId, n) ∈ t.found)
    (register : 0 < t.models.length ∧ t.regModel ≠ some 0)
    (calls : ∀ c ∈ t.calls, c ∈ s.calls ∨ c.Sound t)
    (pageOpen : t.pageOpen = true → s.pageOpen = true)
    (completed : OtpBound t) : Inv t := by
  refine ⟨login, register, fun c hc => ?_, fun ho => ?_, completed⟩
  · rcases calls c hc with hs | hs
    · exact (h.calls c hs).frame hs f
    · exact hs
  · have ho := pageOpen ho
    obtain ⟨p, hp, hentered⟩ := h.page ho
    refine ⟨p, f.page.trans hp, hentered.frame f fun p' number hp' hn => ?_⟩
    cases hp.symm.trans hp'
    apply List.mem_append_right
    simp only [State.pageUses, ho, if_true, hp, Option.bind_some, hn, Option.map_some,
      Option.toList_some, List.mem_singleton]

theorem Inv.await {s : State} (h : Inv s) {c : Call} (hc : c.Sound (s.await c)) :
    Inv (s.await c) := by
  refine h.frame ⟨fun _ _ hn => hn, rfl, fun _ _ hp => hp⟩ h.login h.register (fun d hd => ?_)
    (fun ho => ho) h.completed
  rcases List.mem_cons.mp hd with rfl | hd
  · exact Or.inr hc
  · exact Or.inl hd

/-- A call taken out of flight was sound, and nobody else relies on less than before. -/
theorem Inv.takeOut {s : State} (h : Inv s) {i : Nat} {c : Call} {rest : List Call}
    (ht : takeOut s.calls i = some (c, rest)) :
    Inv { s with calls := rest } ∧ c.Sound { s with calls := rest } := by
  have hc := h.calls c (mem_takeOut ht)
  constructor
  · refine h.frame ⟨fun _ _ hn => hn, rfl, fun _ _ hp => hp⟩ h.login h.register (fun d hd => ?_)
      (fun ho => ho) h.completed
    exact Or.inl (mem_of_mem_rest ht hd)
  · cases c <;> exact hc

theorem hasPhone_setModel {s : State} {i : Nat} {m m' : EmployeeModel}
    (hm : s.models[i]? = some m) {j : Nat} {n : String} (h : HasPhone s j n)
    (hphone : j = i → m'.phoneNumber = some n) : HasPhone (s.setModel i m') j n := by
  obtain ⟨mj, hj, hn⟩ := h
  have hlt := (List.getElem?_eq_some_iff.mp hm).1
  by_cases hij : j = i
  · subst hij
    exact ⟨m', by simp [State.setModel, hlt], hphone rfl⟩
  · exact ⟨mj, by simpa [State.setModel, List.getElem?_set_ne (Ne.symm hij)] using hj, hn⟩

theorem hasPhone_setModel_self {s : State} {i : Nat} {m m' : EmployeeModel}
    (hm : s.models[i]? = some m) {n : String} (h : m'.phoneNumber = some n) :
    HasPhone (s.setModel i m') i n := by
  have hlt := (List.getElem?_eq_some_iff.mp hm).1
  exact ⟨m', by simp [State.setModel, hlt], h⟩

theorem issued_append {s : State} (number : String) (i : Nat) {n : String}
    (h : s.issued[i]? = some n) : (s.issued ++ [number])[i]? = some n := by
  rw [List.getElem?_append_left (List.getElem?_eq_some_iff.mp h).1]
  exact h

theorem Inv.issue {s : State} (h : Inv s) (number : String) :
    Inv { s with issued := s.issued ++ [number] } :=
  h.frame ⟨fun i _ hn => issued_append number i hn, rfl, fun _ _ hp => hp⟩ h.login h.register
    (fun _ hc => Or.inl hc) (fun ho => ho) h.completed

/-- A code is requested for the number the model holds. -/
theorem Inv.verifyPhoneNumber {s : State} (h : Inv s) {type : Purpose} {model : Nat}
    {number : String} (hlogin : type = .login → model = 0) (hphone : HasPhone s model number) :
    Inv (s.verifyPhoneNumber type model number) := by
  apply (h.issue number).await
  exact ⟨hlogin, number, by simp [State.await], hphone⟩

/-- A model takes a number nobody relying on it minds. -/
theorem Inv.setModel {s : State} (h : Inv s) {i : Nat} {m : EmployeeModel}
    (hm : s.models[i]? = some m) (m' : EmployeeModel) {number : String}
    (hnumber : m'.phoneNumber = some number) (take : MayTake s i number)
    (found : List (Option String × String)) (grows : ∀ r ∈ s.found, r ∈ found)
    (hfound : i = 0 → (m'.staffId, number) ∈ found) :
    Inv { s.setModel i m' with found := found } := by
  refine h.frame ⟨fun _ _ hn => hn, rfl, fun u hu hp => ?_⟩ (fun m0 hm0 n hn => ?_) ?_
    (fun c hc => Or.inl hc) (fun ho => ho) (fun c hc => ?_)
  · refine hasPhone_setModel hm hp fun hi => ?_
    rw [hnumber, take u hu hi]
  · have hm0 : (s.models.set i m')[0]? = some m0 := hm0
    by_cases hi : i = 0
    · subst hi
      have hlt := (List.getElem?_eq_some_iff.mp hm).1
      rw [List.getElem?_set_self hlt] at hm0
      cases hm0
      cases hnumber.symm.trans hn
      exact hfound rfl
    · rw [List.getElem?_set_ne hi] at hm0
      exact grows _ (h.login m0 hm0 n hn)
  · simpa [State.setModel] using h.register
  · have hb := h.completed c hc
    cases c with
    | login staffId sentTo =>
      obtain ⟨id, hid, hmem⟩ := hb
      exact ⟨id, hid, grows _ hmem⟩
    | register staffId phoneNumber sentTo => exact hb

theorem Call.Sound.openPage {s : State} {c : Call} (h : c.Sound s) {p : Page} {number : String}
    (hphone : HasPhone s p.model number) (hlogin : p.type = .login → p.model = 0)
    (may : ∀ e ∈ c.entered, s.issued[e.2]? = some number ∧ ∀ t ∈ e.1, t = p.type) :
    c.Sound (s.openPage p) := by
  have entered : ∀ otp : Nat, s.issued[otp]? = some number → Entered (s.openPage p) otp :=
    fun otp hn => ⟨number, hn, p, rfl, hphone, hlogin⟩
  cases c with
  | checkPhoneNumberIsExist typed => trivial
  | checkRegistered model phone => trivial
  | verifyPhoneNumber type model otp => exact h
  | requestThaiBulkSmsOTP type model number => exact h
  | signInWithCredential type otp =>
    obtain ⟨hn, htype⟩ := may (some type, otp) rfl
    refine ⟨entered otp hn, fun p' hp' => ?_⟩
    cases hp'
    exact (htype type rfl).symm
  | verifyThaiBulkSmsOTP otp => exact entered otp (may (none, otp) rfl).1
  | signInAnonymously otp => exact entered otp (may (none, otp) rfl).1
  | deviceInfo otp => exact entered otp (may (none, otp) rfl).1
  | createUserAccount staffId data otp => exact h

theorem Inv.openPage {s : State} (h : Inv s) {p : Page} {number : String}
    (hn : s.issued[p.otp]? = some number) (hphone : HasPhone s p.model number)
    (hlogin : p.type = .login → p.model = 0) (may : MayOpen s p.type number) :
    Inv (s.openPage p) :=
  ⟨h.login, h.register, fun c hc => (h.calls c hc).openPage hphone hlogin (may c hc),
    fun _ => ⟨p, rfl, number, hn, p, rfl, hphone, hlogin⟩, h.completed⟩

/-- A sign-in completes with the employee whose number the code was sent to. -/
theorem Inv.processEmployeeLogin {s : State} (h : Inv s) {otp : Nat} {sentTo : String}
    (hentered : Entered s otp) (hn : s.issued[otp]? = some sentTo)
    (hlogin : ∀ p ∈ s.page, p.type = .login) : Inv (s.processEmployeeLogin sentTo) := by
  obtain ⟨number, hnumber, p, hp, ⟨m, hm, hphone⟩, hzero⟩ := hentered
  cases hn.symm.trans hnumber
  have hmodel : s.employeeModel = some m := by
    rw [State.employeeModel, hp]
    exact hm
  rw [hzero (hlogin p hp)] at hm
  refine h.frame ⟨fun _ _ hn => hn, rfl, fun _ _ hp => hp⟩ h.login h.register
    (fun c hc => Or.inl hc) (fun ho => Bool.noConfusion ho) (fun c hc => ?_)
  rcases List.mem_cons.mp hc with rfl | hc
  · refine ⟨m.staffId, ?_, h.login m hm sentTo hphone⟩
    rw [hmodel]
    rfl
  · exact h.completed c hc

theorem lookup_phoneNumber (m : EmployeeModel) (now : Int) :
    (toJson m now).lookup "phone_number" = some (Codec.string.encode m.phoneNumber) := rfl

/-- `processEmployeeSignUp` sends the number the entered code was sent to. -/
theorem Inv.signUp {s : State} (h : Inv s) {otp : Nat} (hentered : Entered s otp) {p : Page}
    (hp : s.page = some p) {m : EmployeeModel} (hm : s.models[p.model]? = some m)
    (device : Device) (uid : Option String) (now : Int) :
    let m' := signedUp m device uid
    Inv ((s.setModel p.model m').await
      (.createUserAccount (m'.staffId.getD "") (toJson m' now) otp)) := by
  intro m'
  obtain ⟨number, hn, p', hp', ⟨n, hmn, hphone⟩, -⟩ := hentered
  cases hp.symm.trans hp'
  cases hm.symm.trans hmn
  -- signing up changes neither staff id nor number of the model
  have hset : Inv (s.setModel p.model m') := by
    refine h.frame ⟨fun _ _ hn => hn, rfl, fun u _ hu => ?_⟩ (fun m0 hm0 n hn => ?_) ?_
      (fun c hc => Or.inl hc) (fun ho => ho) h.completed
    · refine hasPhone_setModel hm hu fun hi => ?_
      obtain ⟨mu, hmu, hnu⟩ := hu
      rw [hi] at hmu
      cases hm.symm.trans hmu
      exact hnu
    · have hm0 : (s.models.set p.model m')[0]? = some m0 := hm0
      by_cases hi : p.model = 0
      · rw [hi] at hm hm0
        have hlt := (List.getElem?_eq_some_iff.mp hm).1
        rw [List.getElem?_set_self hlt] at hm0
        cases hm0
        exact h.login m hm n hn
      · rw [List.getElem?_set_ne hi] at hm0
        exact h.login m0 hm0 n hn
    · simpa [State.setModel] using h.register
  apply hset.await
  refine ⟨number, hn, ?_⟩
  rw [lookup_phoneNumber]
  exact congrArg (fun n => some (Codec.string.encode n)) hphone

/-- An accepted record carries the number that was typed. -/
theorem signInRecord_phoneNumber {device : Device} {typed : String}
    {docs : Option (List (String × Doc))} (hdocs : Matches docs "phone_number" typed)
    {res : EmployeeModel} (h : signInRecord device typed docs = some res) :
    res.phoneNumber = some typed := by
  obtain ⟨hres, -⟩ := Option.filter_eq_some_iff.mp h
  obtain ⟨doc, hdoc, hdec⟩ := mem_of_replied hres
  have hphone := hdocs doc hdoc
  rw [(fromDocumentSnapshot_eq_some hdec).phoneNumber] at hphone
  exact Codec.string_encode_eq_str_iff.mp hphone

theorem onSignInRecord_inv {s t : State} (h : Inv s) {res : EmployeeModel} {typed : String}
    (hphone : res.phoneNumber = some typed) (take : MayTake s 0 typed)
    (hr : onSignInRecord s res = some t) : Inv t := by
  obtain ⟨m, hm, hr⟩ := Option.bind_eq_some_iff.mp hr
  obtain ⟨number, hn, hr⟩ := Option.bind_eq_some_iff.mp hr
  cases hphone.symm.trans hn
  cases hr
  have hset := h.setModel hm
    { m with
      username := res.username
      organization_id := res.organization_id
      staffId := res.staffId
      phoneNumber := res.phoneNumber }
    hphone take ((res.staffId, typed) :: s.found) (fun r hr => List.mem_cons_of_mem _ hr)
    (fun _ => List.mem_cons_self)
  exact hset.verifyPhoneNumber (fun _ => rfl) (hasPhone_setModel_self hm hphone)

/-- Every allowed reply keeps the invariant. -/
theorem resume_inv {device : Device} {uid : Option String} {now : Int} {s t : State} {c : Call}
    {r : Reply} (h : Inv s) (hc : c.Sound s) (allowed : ReplyAllowed device s c r)
    (hr : resume device uid now s c r = some t) : Inv t := by
  cases r with
  | failed =>
    have ht : t = s := by
      cases c with
      | signInWithCredential type otp => cases type <;> (cases hr; rfl)
      | _ => cases hr; rfl
    rw [ht]
    exact h
  | docs docs =>
    cases c with
    | checkPhoneNumberIsExist typed =>
      simp only [resume] at hr
      split at hr
      · case isTrue hdocs =>
        cases hrec : signInRecord device typed docs with
        | none =>
          rw [hrec] at hr
          cases hr
          exact h
        | some res =>
          rw [hrec] at hr
          exact onSignInRecord_inv h (signInRecord_phoneNumber hdocs hrec)
            (allowed (by rw [hrec]; rfl)) hr
      · cases hr
    | checkRegistered model phone =>
      simp only [resume] at hr
      split at hr
      · split at hr
        · cases hr
          exact h
        · obtain ⟨m, hm, hr⟩ := Option.bind_eq_some_iff.mp hr
          obtain ⟨number, hn, hr⟩ := Option.bind_eq_some_iff.mp hr
          cases hr
          exact h.verifyPhoneNumber (fun hl => Purpose.noConfusion hl) ⟨m, hm, hn⟩
      · cases hr
    | signInWithCredential type otp => cases type <;> cases hr
    | _ => cases hr
  | codeSent =>
    cases c with
    | verifyPhoneNumber type model otp =>
      cases hr
      obtain ⟨hlogin, number, hn, hphone⟩ := hc
      exact h.openPage (p := ⟨type, model, otp, false⟩) hn hphone hlogin (allowed number hn)
    | signInWithCredential type otp => cases type <;> cases hr
    | _ => cases hr
  | verificationFailed =>
    cases c with
    | verifyPhoneNumber type model otp =>
      obtain ⟨m, hm, hr⟩ := Option.bind_eq_some_iff.mp hr
      cases hr
      obtain ⟨hlogin, number, -, m', hm', hphone⟩ := hc
      cases hm.symm.trans hm'
      rw [hphone]
      exact h.await ⟨hlogin, m, hm, hphone⟩
    | signInWithCredential type otp => cases type <;> cases hr
    | _ => cases hr
  | ok =>
    cases c with
    | requestThaiBulkSmsOTP type model number =>
      cases hr
      refine (h.issue number).openPage (p := ⟨type, model, s.issued.length, true⟩) (by simp)
        hc.2 hc.1 (fun d hd e he => ?_)
      obtain ⟨hn, htype⟩ := allowed d hd e he
      exact ⟨issued_append number _ hn, htype⟩
    | signInWithCredential type otp =>
      cases type with
      | login =>
        obtain ⟨sentTo, hn, hr⟩ := Option.bind_eq_some_iff.mp hr
        cases hr
        exact h.processEmployeeLogin hc.1 hn hc.2
      | register =>
        cases hr
        exact h.await hc.1
    | verifyThaiBulkSmsOTP otp =>
      cases hr
      exact h.await hc
    | signInAnonymously otp =>
      obtain ⟨p, hp, hr⟩ := Option.bind_eq_some_iff.mp hr
      cases htype : p.type with
      | login =>
        rw [htype] at hr
        obtain ⟨sentTo, hn, hr⟩ := Option.bind_eq_some_iff.mp hr
        cases hr
        refine h.processEmployeeLogin hc hn fun p' hp' => ?_
        cases hp.symm.trans hp'
        exact htype
      | register =>
        rw [htype] at hr
        cases hr
        exact h.await hc
    | deviceInfo otp =>
      obtain ⟨p, hp, hr⟩ := Option.bind_eq_some_iff.mp hr
      obtain ⟨m, hm, hr⟩ := Option.bind_eq_some_iff.mp hr
      cases hr
      exact h.signUp hc hp hm device uid now
    | createUserAccount staffId data otp =>
      obtain ⟨sentTo, hn, hr⟩ := Option.bind_eq_some_iff.mp hr
      cases hr
      obtain ⟨number, hnumber, hdata⟩ := hc
      cases hn.symm.trans hnumber
      refine h.frame ⟨fun _ _ hn => hn, rfl, fun _ _ hp => hp⟩ h.login h.register
        (fun c hc => Or.inl hc) (fun ho => Bool.noConfusion ho) (fun c hc => ?_)
      rcases List.mem_cons.mp hc with rfl | hc
      · exact hdata
      · exact h.completed c hc
    | _ => cases hr

/-- What is allowed with a call in flight is allowed once it is taken out. -/
theorem ReplyAllowed.takeOut {device : Device} {s : State} {i : Nat} {c : Call}
    {rest : List Call} {r : Reply} (ht : takeOut s.calls i = some (c, rest))
    (h : ReplyAllowed device s c r) : ReplyAllowed device { s with calls := rest } c r := by
  have open' : ∀ type number, MayOpen s type number →
      MayOpen { s with calls := rest } type number :=
    fun type number hopen d hd => hopen d (mem_of_mem_rest ht hd)
  have take' : ∀ i number, MayTake s i number → MayTake { s with calls := rest } i number := by
    intro i number htake u hu
    apply htake u
    rcases List.mem_append.mp hu with hu | hu
    · obtain ⟨d, hd, hdu⟩ := List.mem_filterMap.mp hu
      refine mem_inUse_of_call (mem_of_mem_rest ht hd) ?_
      rw [← hdu]
      cases d <;> rfl
    · exact List.mem_append_right _ hu
  cases c with
  | checkPhoneNumberIsExist typed =>
    cases r with
    | docs docs => exact fun hsome => take' 0 typed (h hsome)
    | _ => trivial
  | verifyPhoneNumber type model otp =>
    cases r with
    | codeSent => exact fun number hn => open' type number (h number hn)
    | _ => trivial
  | requestThaiBulkSmsOTP type model number =>
    cases r with
    | ok => exact open' type number h
    | _ => trivial
  | _ => cases r <;> trivial

theorem step_inv {device : Device} {uid : Option String} {now : Int} {s t : State} {e : Event}
    (h : Inv s) (hc : OneNumberAtATime device s e) (hstep : step device uid now s e = some t) :
    Inv t := by
  cases e with
  | onSignInPressed phone =>
    simp only [step] at hstep
    split at hstep
    · cases hstep
      exact h.await trivial
    · cases hstep
  | staffFound m =>
    cases hstep
    refine h.frame ⟨fun _ _ hn => hn, rfl, fun u _ hu => ?_⟩ (fun m0 hm0 n hn => ?_) ?_
      (fun c hc => Or.inl hc) (fun ho => ho) h.completed
    · obtain ⟨n, hn, hphone⟩ := hu
      refine ⟨n, ?_, hphone⟩
      rw [List.getElem?_append_left (List.getElem?_eq_some_iff.mp hn).1]
      exact hn
    · have hm0 : (s.models ++ [m])[0]? = some m0 := hm0
      rw [List.getElem?_append_left h.register.1] at hm0
      exact h.login m0 hm0 n hn
    · have := h.register.1
      refine ⟨by simp, ?_⟩
      intro hzero
      have hzero : s.models.length = 0 := Option.some.inj hzero
      omega
  | onNextBtnPressed email username phone =>
    simp only [step] at hstep
    split at hstep
    · obtain ⟨i, hi, hstep⟩ := Option.bind_eq_some_iff.mp hstep
      obtain ⟨m, hm, hstep⟩ := Option.bind_eq_some_iff.mp hstep
      cases hstep
      have hset := h.setModel hm
        { m with
          email := some email
          username := some username
          phoneNumber := some phone }
        rfl (hc i hi) s.found (fun _ hr => hr)
        (fun hzero => absurd (hzero ▸ hi) h.register.2)
      exact hset.await trivial
    · cases hstep
  | verifyOTPFunc =>
    simp only [step] at hstep
    split at hstep
    · case isTrue hopen =>
      obtain ⟨p, hp, hstep⟩ := Option.bind_eq_some_iff.mp hstep
      cases hstep
      obtain ⟨p', hp', hentered⟩ := h.page hopen
      cases hp.symm.trans hp'
      apply h.await
      split
      · exact hentered
      · refine ⟨hentered, fun p' hp' => ?_⟩
        cases hp.symm.trans hp'
        rfl
    · cases hstep
  | reply call r =>
    obtain ⟨⟨c, rest⟩, ht, hstep⟩ := Option.bind_eq_some_iff.mp hstep
    obtain ⟨h', hsound⟩ := h.takeOut ht
    exact resume_inv h' hsound ((hc (c, rest) ht).takeOut ht) hstep

theorem initial_inv : Inv {} :=
  ⟨fun m hm n hn => (by cases hm; cases hn), ⟨by decide, nofun⟩,
    fun _ hc => absurd hc List.not_mem_nil, fun ho => Bool.noConfusion ho,
    fun _ hc => absurd hc List.not_mem_nil⟩

/-- Whatever overlaps: with one number at a time every completed sign-in and registration was
verified by a code that had been sent to the employee's own number. -/
theorem otp_bound (device : Device) (uid : Option String) (now : Int) {es : List Event}
    (oneNumber : EveryStep (step device uid now) (OneNumberAtATime device) {} es) :
    EveryState (step device uid now) OtpBound {} es := by
  have hinv := everyState_of_everyStep (fun _ _ _ h hc ht => step_inv h hc ht) initial_inv oneNumber
  exact hinv.mono fun _ h => h.completed

/-- An activated employee record without a stored device. -/
def activeEmployee (id phone : String) : String × Doc :=
  (id, KeyedRecord.update (fun _ => .null)
    [("employee_id", .str id), ("isActivated", .bool true), ("phone_number", .str phone)])

/-- A sign-in whose code is entered after the page has opened. -/
def signIn (id phone : String) : List Event :=
  [.onSignInPressed phone, .reply 0 (.docs (some [activeEmployee id phone])), .reply 0 .codeSent,
    .verifyOTPFunc, .reply 0 .ok]

theorem otp_bound_single :
    EveryStep (step (.android "A1") none 0) (OneNumberAtATime (.android "A1")) {}
        (signIn "e1" "+66811111111") ∧
      EveryState (step (.android "A1") none 0) OtpBound {} (signIn "e1" "+66811111111") ∧
      (run (step (.android "A1") none 0) {} (signIn "e1" "+66811111111")).any
        (fun t => t.completed.length = 1) = true := by
  have oneNumber : EveryStep (step (.android "A1") none 0) (OneNumberAtATime (.android "A1")) {}
      (signIn "e1" "+66811111111") := by decide
  exact ⟨oneNumber, otp_bound _ _ _ oneNumber, by decide⟩

/-- Back closes the first attempt's overlay, and its code arrives after the lookup of the second
has overwritten the model: the code sent to the first number signs the second employee in. -/
theorem code_of_first_signs_second_in :
    ¬ ∀ (device : Device) (uid : Option String) (now : Int) (es : List Event),
        EveryState (step device uid now) OtpBound {} es := by
  intro claim
  refine not_everyState_of_run
    (fun t => t.completed.any fun
      | .login staffId sentTo => staffId = "e2" ∧ sentTo = "+66811111111" ∧
          (some "e2", "+66811111111") ∉ t.found
      | .register _ _ _ => false) ?_ ?_
    (claim (.android "A1") none 0
      [.onSignInPressed "+66811111111",
        .reply 0 (.docs (some [activeEmployee "e1" "+66811111111"])),
        .onSignInPressed "+66822222222",
        .reply 0 (.docs (some [activeEmployee "e2" "+66822222222"])),
        .reply 1 .codeSent, .verifyOTPFunc, .reply 0 .ok])
  · intro t hbad h
    obtain ⟨c, hc, hbad⟩ := List.any_eq_true.mp hbad
    cases c with
    | login staffId sentTo =>
      obtain ⟨rfl, rfl, hnot⟩ := of_decide_eq_true hbad
      obtain ⟨id, hid, hmem⟩ := h _ hc
      cases id with
      | none => exact absurd hid (by decide)
      | some id =>
        cases hid
        exact hnot hmem
    | register staffId phoneNumber sentTo => exact Bool.noConfusion hbad
  · decide

end OtpBinding
