import AsmWt.Interleaving
import AsmWt.PendingCalls
import AsmWt.Employees

/-!
# The messaging token of the device

A sign-in stores the session, invalidates the device's messaging token, asks for
a new one and saves it in the record of an employee. Any of these steps may fail
without notice. A sign-out clears the session and leaves token and record alone.
-/

namespace PushToken

open DocStore Firestore Employees Interleaving PendingCalls

/-- `signInWithPhoneAuthCredential` awaits the session before it turns to the token, the branch
of `verifyOTPFunc` for ThaiBulkSMS does not. -/
inductive Path where
  | firebase
  | thaiBulkSms
  deriving DecidableEq

/-- What is awaited. `next` is the argument of the `getUserToken` that follows, if one does. -/
inductive Call where
  | currentUser
  | signIn (path : Path) (signUp : Bool) (employeeModel : EmployeeModel) (staffId : Option String)
  | createUserAccount (employeeModel : EmployeeModel) (next : Option (Option String))
  | incrementDevice (employeeModel : EmployeeModel) (next : Option (Option String))
  | setString (next : Option (Option String))
  | deleteToken (userId : String)
  | getToken (userId : String)
  | updateData (token userId : String)
  | signOut
  | delayed
  deriving DecidableEq

/-- The records, the stored `userId`, the session, and the messaging token of the device: the
valid one, if any, and all that were ever issued. -/
structure State where
  employees : Collection
  userId : Option String := none
  loginState : Bool := false
  firebaseUser : Bool := false
  validToken : Option String := none
  issued : List String := []
  calls : List Call := []

inductive Reply where
  | ok
  | failed
  | exception
  | token (token : Option String)
  deriving DecidableEq

/-- `employeeModel` is the controller's when the credential is sent, `staffId` is what
`getUserToken` is given in the end. -/
inductive Event where
  | main
  | signIn (path : Path) (signUp : Bool) (employeeModel : EmployeeModel) (staffId : Option String)
  | onSignOutPressed
  | resume (call : Nat) (r : Reply) (now : Int)

namespace State

def await (s : State) (c : Call) : State := { s with calls := c :: s.calls }

/-- The first call of `getUserToken`, which does nothing for a missing id. -/
def getUserToken (s : State) (userId : Option String) : State :=
  match userId with
  | none => s
  | some userId => if userId = "" then s else s.await (.deleteToken userId)

def after (s : State) (next : Option (Option String)) : State :=
  match next with
  | none => s
  | some userId => s.getUserToken userId

/-- `prefs.setString('userId', employeeModel?.staffId ?? '')`, first of the stored values. -/
def storeSession (s : State) (employeeModel : EmployeeModel) (next : Option (Option String)) :
    State :=
  State.await { s with userId := some (employeeModel.staffId.getD "") } (.setString next)

/-- `processEmployeeSignUp` or `processEmployeeLogin`. -/
def processEmployee (s : State) (signUp : Bool) (employeeModel : EmployeeModel)
    (next : Option (Option String)) : State :=
  if signUp then s.await (.createUserAccount employeeModel next)
  else s.storeSession employeeModel next

/-- Whom the device has signed in. -/
def signedIn (s : State) : Option String := if s.loginState then s.userId else none

end State

/-- A token nobody has had before. -/
def Fresh (s : State) (token : String) : Prop :=
  token ∉ s.issued ∧ ∀ e ∈ s.employees.entries, e.2 "device_token" ≠ .str token

instance (s : State) (token : String) : Decidable (Fresh s token) :=
  inferInstanceAs (Decidable (token ∉ s.issued ∧
    ∀ e ∈ s.employees.entries, e.2 "device_token" ≠ .str token))

/-- What `getToken` may return. -/
def MayReturn (s : State) (token : String) : Prop :=
  s.validToken = some token ∨ s.validToken = none ∧ Fresh s token

instance (s : State) (token : String) : Decidable (MayReturn s token) :=
  inferInstanceAs (Decidable (s.validToken = some token ∨ s.validToken = none ∧ Fresh s token))

/-- What follows a call once it is no longer in flight. -/
def resume (now : Int) (s : State) : Call → Reply → Option State
  | .currentUser, .ok =>
    if s.firebaseUser then
      if s.userId.isSome then some { s with loginState := true } else some s
    else some { s with loginState := false }
  | .signIn _ _ _ _, .exception => some s
  | .signIn .firebase signUp employeeModel staffId, .ok =>
    some (State.processEmployee { s with firebaseUser := true } signUp employeeModel (some staffId))
  | .signIn .thaiBulkSms signUp employeeModel staffId, .ok =>
    some ((State.processEmployee { s with firebaseUser := true } signUp employeeModel
      none).getUserToken staffId)
  | .createUserAccount employeeModel next, .ok => do
    let employees ←
      updateData s.employees (employeeModel.staffId.getD "") (toJson employeeModel now)
    return State.await { s with employees := employees } (.incrementDevice employeeModel next)
  -- the toast that something went wrong; the token is asked for all the same
  | .createUserAccount _ next, .failed => some (s.after next)
  | .incrementDevice employeeModel next, .ok => some (s.storeSession employeeModel next)
  | .incrementDevice _ _, .exception => some s
  | .setString next, .ok => some (State.after { s with loginState := true } next)
  | .deleteToken userId, .ok => some (State.await { s with validToken := none } (.getToken userId))
  | .deleteToken _, .exception => some s
  | .getToken userId, .token (some token) =>
    if token ≠ "" ∧ MayReturn s token then
      some (State.await { s with
        validToken := some token
        issued := token :: s.issued } (.updateData token userId))
    else none
  | .getToken _, .token none | .getToken _, .exception => some s
  | .updateData token userId, .ok => do
    let employees ← updateData s.employees userId [("device_token", .str token)]
    return { s with employees := employees }
  | .updateData _ _, .exception => some s
  -- `signOut` catches its error, and the continuation does not look at the result
  | .signOut, .ok => some (State.await { s with firebaseUser := false } .delayed)
  | .signOut, .failed => some (s.await .delayed)
  | .delayed, .ok => some { s with loginState := false, userId := some "" }
  | _, _ => none

def step (s : State) : Event → Option State
  | .main => some { s with loginState := false, calls := [.currentUser] }
  | .signIn path signUp employeeModel staffId =>
    some (s.await (.signIn path signUp employeeModel staffId))
  | .onSignOutPressed => some (s.await .signOut)
  | .resume call r now => do
    let (c, rest) ← takeOut s.calls call
    resume now { s with calls := rest } c r

/-- The employee's record holds the valid token of the device. -/
def Holds (s : State) (employee : String) : Prop :=
  ∃ d token, s.employees.get? employee = some d ∧ s.validToken = some token ∧
    d "device_token" = .str token

/-- No sign-in or sign-out is in progress. -/
def Quiet (s : State) : Prop := s.calls = []

/-- Only the employee who is signed in gets the messages for the device. -/
def TokenPrivate (s : State) : Prop :=
  Quiet s → ∀ employee, Holds s employee → s.signedIn = some employee

/-- A `getUserToken` for a proper id follows. -/
def renewsNext : Option (Option String) → Bool
  | some (some userId) => userId ≠ ""
  | _ => false

/-- The call will invalidate the token unless something on the way to it fails. -/
def Call.renews : Call → Bool
  | .deleteToken _ => true
  | .createUserAccount _ next | .incrementDevice _ next | .setString next => renewsNext next
  | .currentUser | .signIn _ _ _ _ | .getToken _ | .updateData _ _ | .signOut | .delayed => false

/-- The call is followed by `loginState = true`. -/
def Call.signsIn : Call → Bool
  | .currentUser | .setString _ => true
  | _ => false

/-- The valid token is about to be invalidated. -/
def Renewing (s : State) : Prop := ∃ c ∈ s.calls, c.renews = true

/-- The employee is signed in, or about to be. -/
def InSession (s : State) (employee : String) : Prop :=
  s.userId = some employee ∧ (s.loginState = true ∨ ∃ c ∈ s.calls, c.signsIn = true)

/-- The record of the employee may hold the token. -/
def Covered (s : State) (employee : String) : Prop := InSession s employee ∨ Renewing s

/-- The session may be stored for an employee: the sign-in goes on to renew the token, or only
that employee's record holds it, or another renewal is under way. -/
def MayStore (s : State) (employee : String) (next : Option (Option String)) : Prop :=
  renewsNext next = true ∨ (∀ other, Holds s other → other = employee) ∨ Renewing s

/-- What may happen to a call; the state is the one without it. -/
def CallAllowed (s : State) : Call → Reply → Prop
  | .currentUser, _ => s.firebaseUser = true ∨ (∀ employee, ¬ Holds s employee) ∨ Renewing s
  | .signIn _ false employeeModel staffId, .ok =>
    MayStore s (employeeModel.staffId.getD "") (some staffId)
  | .incrementDevice employeeModel next, .ok => MayStore s (employeeModel.staffId.getD "") next
  | .incrementDevice _ next, .exception =>
    renewsNext next = true → ∀ employee, Holds s employee → Covered s employee
  | .deleteToken _, .exception => ∀ employee, Holds s employee → Covered s employee
  | .updateData token employee, .ok => s.validToken = some token → Covered s employee
  | .delayed, _ => (∀ employee, ¬ Holds s employee) ∨ Renewing s
  | _, _ => True

/-- The session is cleared, or found to be lost, only while no record holds the valid token; it is
stored only by a sign-in that renews the token, unless the token is the employee's already; and the
token is not left behind by a renewal that fails nor saved for anyone else. -/
def Renewed (s : State) : Event → Prop
  | .main => ∀ employee, Holds s employee → s.userId = some employee
  | .resume call r _ =>
    ∀ c rest, takeOut s.calls call = some (c, rest) → CallAllowed { s with calls := rest } c r
  | .signIn _ _ _ _ | .onSignOutPressed => True

/-- Whoever's record holds the token is signed in, or the token is about to go. -/
def Inv (s : State) : Prop := ∀ employee, Holds s employee → Covered s employee

theorem Inv.of_renewing {s : State} (h : Renewing s) : Inv s := fun _ _ => Or.inr h

theorem Inv.of_noHolder {s : State} (h : ∀ employee, ¬ Holds s employee) : Inv s :=
  fun employee he => absurd he (h employee)

/-- A step that puts the token into no record and keeps the session and the calls that count. -/
theorem Inv.frame {s t : State} (h : Inv s)
    (holds : ∀ employee, Holds t employee → Holds s employee)
    (user : t.userId = s.userId) (login : s.loginState = true → t.loginState = true)
    (calls : ∀ c ∈ s.calls, c.renews = true ∨ c.signsIn = true → c ∈ t.calls) : Inv t := by
  intro employee he
  rcases h employee (holds employee he) with ⟨hu, hl⟩ | ⟨c, hc, hr⟩
  · refine Or.inl ⟨user.trans hu, ?_⟩
    rcases hl with hl | ⟨c, hc, hs⟩
    · exact Or.inl (login hl)
    · exact Or.inr ⟨c, calls c hc (Or.inr hs), hs⟩
  · exact Or.inr ⟨c, calls c hc (Or.inl hr), hr⟩

theorem Inv.await {s : State} (h : Inv s) (c : Call) : Inv (s.await c) :=
  h.frame (fun _ he => he) rfl (fun hl => hl) fun _ hd _ => List.mem_cons_of_mem c hd

theorem Inv.getUserToken {s : State} (h : Inv s) (userId : Option String) :
    Inv (s.getUserToken userId) := by
  cases userId with
  | none => exact h
  | some userId =>
    rw [State.getUserToken]
    split
    · exact h
    · exact h.await _

theorem renewing_getUserToken {s : State} {userId : Option String}
    (h : renewsNext (some userId) = true) : Renewing (s.getUserToken userId) := by
  cases userId with
  | none => cases h
  | some userId =>
    have hne : userId ≠ "" := of_decide_eq_true h
    refine ⟨.deleteToken userId, ?_, rfl⟩
    simp [State.getUserToken, hne, State.await]

/-- The steps between a sign-in and its `getUserToken` do not lose it. -/
theorem renewing_after {s : State} {next : Option (Option String)} (h : renewsNext next = true) :
    Renewing (s.after next) := by
  cases next with
  | none => cases h
  | some userId => exact renewing_getUserToken h

theorem Inv.after {s : State} (h : Inv s) (next : Option (Option String)) : Inv (s.after next) := by
  cases next with
  | none => exact h
  | some userId => exact h.getUserToken userId

/-- A reply to a call that does not count leaves the others as they were. -/
theorem Inv.rest {s : State} (h : Inv s) {i : Nat} {c : Call} {rest : List Call}
    (ht : takeOut s.calls i = some (c, rest)) (renews : c.renews = false)
    (signsIn : c.signsIn = false) : Inv { s with calls := rest } := by
  refine h.frame (fun _ he => he) rfl (fun hl => hl) fun d hd hcounts => ?_
  rcases List.mem_cons.mp ((takeOut_perm ht).mem_iff.mp hd) with rfl | hd
  · rw [renews, signsIn] at hcounts
    simp at hcounts
  · exact hd

theorem inv_storeSession {s : State} {employeeModel : EmployeeModel} {next : Option (Option String)}
    (h : MayStore s (employeeModel.staffId.getD "") next) :
    Inv (s.storeSession employeeModel next) := by
  rcases h with hnext | only | ⟨c, hc, hr⟩
  · exact Inv.of_renewing ⟨.setString next, List.mem_cons_self, hnext⟩
  · intro employee he
    rw [only employee he]
    exact Or.inl ⟨rfl, Or.inr ⟨.setString next, List.mem_cons_self, rfl⟩⟩
  · exact Inv.of_renewing ⟨c, List.mem_cons_of_mem _ hc, hr⟩

/-- The token is asked for beside the session that is being stored. -/
theorem inv_storeSession_getUserToken {s : State} {employeeModel : EmployeeModel}
    {staffId : Option String}
    (h : MayStore s (employeeModel.staffId.getD "") (some staffId)) :
    Inv ((s.storeSession employeeModel none).getUserToken staffId) := by
  cases hnext : renewsNext (some staffId) with
  | true => exact Inv.of_renewing (renewing_getUserToken hnext)
  | false =>
    refine (inv_storeSession ?_).getUserToken staffId
    rcases h with h | h
    · cases hnext.symm.trans h
    · exact Or.inr h

/-- An update of other fields moves no token. -/
theorem holds_updateData {s : State} {employees : Collection} {id : String} {data : Payload}
    (h : updateData s.employees id data = some employees)
    (hdata : "device_token" ∉ KeyedRecord.keys data) {employee : String}
    (he : Holds { s with employees := employees } employee) : Holds s employee := by
  obtain ⟨d, token, hd, hvalid, htoken⟩ := he
  have hmem := Store.get?_eq_some_iff.mp hd
  rcases (Store.mem_modify h).mp hmem with ⟨-, hmem⟩ | ⟨rfl, r, hr, rfl⟩
  · exact ⟨d, token, Store.get?_eq_some_iff.mpr hmem, hvalid, htoken⟩
  · rw [KeyedRecord.update_of_not_mem hdata] at htoken
    exact ⟨r, token, Store.get?_eq_some_iff.mpr hr, hvalid, htoken⟩

/-- Saving a token concerns the record it is saved in. -/
theorem holds_saveToken {s : State} {employees : Collection} {id token : String}
    (h : updateData s.employees id [("device_token", .str token)] = some employees)
    {employee : String} (he : Holds { s with employees := employees } employee) :
    Holds s employee ∨ employee = id ∧ s.validToken = some token := by
  obtain ⟨d, valid, hd, hvalid, htoken⟩ := he
  have hmem := Store.get?_eq_some_iff.mp hd
  rcases (Store.mem_modify h).mp hmem with ⟨-, hmem⟩ | ⟨rfl, r, -, rfl⟩
  · exact Or.inl ⟨d, valid, Store.get?_eq_some_iff.mpr hmem, hvalid, htoken⟩
  · have hsaved : KeyedRecord.update r [("device_token", Value.str token)] "device_token" =
        .str token := rfl
    cases hsaved.symm.trans htoken
    exact Or.inr ⟨rfl, hvalid⟩

theorem deviceToken_not_mem_toJson (m : EmployeeModel) (now : Int) :
    "device_token" ∉ KeyedRecord.keys (toJson m now) := by
  have h : "device_token" ∉ ["username", "email", "phone_number", "isActivated", "profile_url",
    "device_id", "user_uid", "phone_model", "updated_at", "user_status"] := by decide
  exact h

section Resume

variable {s t : State} {i : Nat} {c : Call} {rest : List Call}

theorem renewing_rest {d : Call} (ht : takeOut s.calls i = some (c, rest))
    (hd : d ∈ s.calls) (hr : d.renews = true) (hc : c.renews = false) :
    Renewing { s with calls := rest } := by
  rcases List.mem_cons.mp ((takeOut_perm ht).mem_iff.mp hd) with rfl | hd
  · cases hr.symm.trans hc
  · exact ⟨d, hd, hr⟩

/-- A reply after which the stored employee is signed in. -/
theorem Inv.signedIn (h : Inv s) (ht : takeOut s.calls i = some (c, rest))
    (hc : c.renews = false) : Inv { s with loginState := true, calls := rest } := by
  intro employee he
  rcases h employee he with ⟨hu, -⟩ | ⟨d, hd, hr⟩
  · exact Or.inl ⟨hu, Or.inl rfl⟩
  · exact Or.inr (renewing_rest ht hd hr hc)

/-- The session check of a restarted app. -/
theorem Inv.currentUser (h : Inv s) (ht : takeOut s.calls i = some (.currentUser, rest))
    (allowed : CallAllowed { s with calls := rest } .currentUser .ok) {now : Int}
    (hr : resume now { s with calls := rest } .currentUser .ok = some t) : Inv t := by
  cases hf : s.firebaseUser with
  | true =>
    cases hu : s.userId with
    | none =>
      simp only [resume, hf, hu, if_true, Option.isSome_none, Bool.false_eq_true, if_false] at hr
      cases hr
      intro employee he
      rcases h employee he with ⟨hs, -⟩ | ⟨d, hd, hrenews⟩
      · cases hu.symm.trans hs
      · exact Or.inr (renewing_rest ht hd hrenews rfl)
    | some userId =>
      simp only [resume, hf, hu, if_true, Option.isSome_some] at hr
      cases hr
      exact (h.signedIn ht rfl).frame (fun _ he => he) hu.symm (fun hl => hl) fun _ hd _ => hd
  | false =>
    simp only [resume, hf, Bool.false_eq_true, if_false] at hr
    cases hr
    rcases allowed with hfirebase | hnone | hrenewing
    · cases hf.symm.trans hfirebase
    · exact Inv.of_noHolder hnone
    · exact Inv.of_renewing hrenewing

theorem Inv.setString (h : Inv s) {next : Option (Option String)}
    (ht : takeOut s.calls i = some (.setString next, rest)) :
    Inv (State.after { s with loginState := true, calls := rest } next) := by
  cases hnext : renewsNext next with
  | true => exact Inv.of_renewing (renewing_after hnext)
  | false => exact (h.signedIn ht hnext).after next

theorem Inv.createUserAccount (h : Inv s) {employeeModel : EmployeeModel}
    {next : Option (Option String)}
    (ht : takeOut s.calls i = some (.createUserAccount employeeModel next, rest)) {r : Reply}
    {now : Int}
    (hr : resume now { s with calls := rest } (.createUserAccount employeeModel next) r = some t) :
    Inv t := by
  cases r with
  | ok =>
    obtain ⟨employees, hupdate, hr⟩ := Option.bind_eq_some_iff.mp hr
    cases hr
    cases hnext : renewsNext next with
    | true => exact Inv.of_renewing ⟨.incrementDevice employeeModel next, List.mem_cons_self, hnext⟩
    | false =>
      have hrest := h.rest ht hnext rfl
      refine Inv.await (s := { s with employees := employees, calls := rest }) ?_ _
      exact hrest.frame (fun _ he => holds_updateData (s := { s with calls := rest }) hupdate
        (deviceToken_not_mem_toJson employeeModel now) he) rfl (fun hl => hl) fun _ hd _ => hd
  | failed =>
    cases hr
    cases hnext : renewsNext next with
    | true => exact Inv.of_renewing (renewing_after hnext)
    | false => exact (h.rest ht hnext rfl).after next
  | _ => cases hr

theorem Inv.getToken (h : Inv { s with calls := rest }) {userId : String} {r : Reply} {now : Int}
    (hr : resume now { s with calls := rest } (.getToken userId) r = some t) : Inv t := by
  cases r with
  | token token =>
    cases token with
    | none =>
      cases hr
      exact h
    | some token =>
      simp only [resume] at hr
      split at hr
      · case isTrue hmay =>
        cases hr
        refine Inv.await (s := { s with
          validToken := some token
          issued := token :: s.issued
          calls := rest }) ?_ _
        rcases hmay.2 with hvalid | ⟨-, -, hfresh⟩
        · refine h.frame (fun employee he => ?_) rfl (fun hl => hl) fun _ hd _ => hd
          obtain ⟨d, valid, hd, hv, htoken⟩ := he
          exact ⟨d, valid, hd, hvalid.trans hv, htoken⟩
        · apply Inv.of_noHolder
          rintro employee ⟨d, valid, hd, hv, htoken⟩
          cases hv
          exact hfresh _ (Store.get?_eq_some_iff.mp hd) htoken
      · cases hr
  | exception =>
    cases hr
    exact h
  | _ => cases hr

/-- Whatever a call in flight replies, the invariant holds afterwards. -/
theorem resume_inv (h : Inv s) (ht : takeOut s.calls i = some (c, rest)) {r : Reply} {now : Int}
    (allowed : CallAllowed { s with calls := rest } c r)
    (hr : resume now { s with calls := rest } c r = some t) : Inv t := by
  cases c with
  | currentUser =>
    cases r with
    | ok => exact h.currentUser ht allowed hr
    | _ => cases hr
  | signIn path signUp employeeModel staffId =>
    have hrest := h.rest ht rfl rfl
    have signedIn : Inv { s with firebaseUser := true, calls := rest } :=
      hrest.frame (fun _ he => he) rfl (fun hl => hl) fun _ hd _ => hd
    cases r with
    | ok =>
      cases signUp with
      | true =>
        cases path with
        | firebase =>
          cases hr
          exact signedIn.await _
        | thaiBulkSms =>
          cases hr
          exact (signedIn.await _).getUserToken staffId
      | false =>
        cases path with
        | firebase =>
          cases hr
          exact inv_storeSession allowed
        | thaiBulkSms =>
          cases hr
          exact inv_storeSession_getUserToken allowed
    | exception =>
      cases path <;> cases hr <;> exact hrest
    | _ => cases path <;> cases hr
  | createUserAccount employeeModel next => exact h.createUserAccount ht hr
  | incrementDevice employeeModel next =>
    cases r with
    | ok =>
      cases hr
      exact inv_storeSession allowed
    | exception =>
      cases hr
      cases hnext : renewsNext next with
      | true => exact allowed hnext
      | false => exact h.rest ht hnext rfl
    | _ => cases hr
  | setString next =>
    cases r with
    | ok =>
      cases hr
      exact h.setString ht
    | _ => cases hr
  | deleteToken userId =>
    cases r with
    | ok =>
      cases hr
      apply Inv.of_noHolder
      rintro employee ⟨d, token, -, hvalid, -⟩
      cases hvalid
    | exception =>
      cases hr
      exact allowed
    | _ => cases hr
  | getToken userId => exact (h.rest ht rfl rfl).getToken hr
  | updateData token userId =>
    have hrest := h.rest ht rfl rfl
    cases r with
    | ok =>
      obtain ⟨employees, hupdate, hr⟩ := Option.bind_eq_some_iff.mp hr
      cases hr
      intro employee he
      rcases holds_saveToken (s := { s with calls := rest }) hupdate he with he | ⟨rfl, hvalid⟩
      · exact hrest employee he
      · exact allowed hvalid
    | exception =>
      cases hr
      exact hrest
    | _ => cases hr
  | signOut =>
    have hrest := h.rest ht rfl rfl
    cases r with
    | ok =>
      cases hr
      refine Inv.await (s := { s with firebaseUser := false, calls := rest }) ?_ _
      exact hrest.frame (fun _ he => he) rfl (fun hl => hl) fun _ hd _ => hd
    | failed =>
      cases hr
      exact hrest.await _
    | _ => cases hr
  | delayed =>
    cases r with
    | ok =>
      cases hr
      rcases allowed with hnone | hrenewing
      · exact Inv.of_noHolder hnone
      · exact Inv.of_renewing hrenewing
    | _ => cases hr

end Resume

theorem step_inv {s t : State} {e : Event} (h : Inv s) (renewed : Renewed s e)
    (hstep : step s e = some t) : Inv t := by
  cases e with
  | main =>
    cases hstep
    intro employee he
    exact Or.inl ⟨renewed employee he, Or.inr ⟨.currentUser, List.mem_cons_self, rfl⟩⟩
  | signIn path signUp employeeModel staffId =>
    cases hstep
    exact h.await _
  | onSignOutPressed =>
    cases hstep
    exact h.await _
  | resume call r now =>
    obtain ⟨⟨c, rest⟩, ht, hstep⟩ := Option.bind_eq_some_iff.mp hstep
    exact resume_inv h ht (renewed c rest ht) hstep

/-- With nothing in progress, the employee whose record holds the token is signed in. -/
theorem Inv.tokenPrivate {s : State} (h : Inv s) : TokenPrivate s := by
  intro quiet employee he
  have none : ∀ c, c ∉ s.calls := by
    intro c hc
    rw [quiet] at hc
    cases hc
  rcases h employee he with ⟨hu, hl⟩ | ⟨c, hc, -⟩
  · rcases hl with hl | ⟨c, hc, -⟩
    · rw [State.signedIn, if_pos hl]
      exact hu
    · exact absurd hc (none c)
  · exact absurd hc (none c)

/-- However sign-ins, sign-outs, restarts and failures overlap: under the condition, in every state
with nothing in progress the token is at most in the record of the employee who is signed in. -/
theorem token_private {employees : Collection} {es : List Event}
    (renewed : EveryStep step Renewed { employees := employees } es) :
    EveryState step TokenPrivate { employees := employees } es := by
  have hinit : Inv { employees := employees } := by
    apply Inv.of_noHolder
    rintro employee ⟨d, token, -, hvalid, -⟩
    cases hvalid
  have hinv := everyState_of_everyStep (fun _ _ _ h hc ht => step_inv h hc ht) hinit renewed
  exact hinv.mono fun _ h => h.tokenPrivate

/-- Whether a stored record holds the valid token. -/
def holdsToken (s : State) (d : Doc) : Bool :=
  s.validToken.any fun token => d "device_token" = .str token

theorem holds_iff {s : State} {employee : String} :
    Holds s employee ↔ ∃ d, (employee, d) ∈ s.employees.entries ∧ holdsToken s d = true := by
  simp only [Holds, holdsToken, Option.any_eq_true, decide_eq_true_eq, Store.get?_eq_some_iff]
  constructor
  · rintro ⟨d, token, hd, hvalid, htoken⟩
    exact ⟨d, hd, token, hvalid, htoken⟩
  · rintro ⟨d, hd, token, hvalid, htoken⟩
    exact ⟨d, token, hd, hvalid, htoken⟩

instance decidableHolders (s : State) (p : String → Prop) [DecidablePred p] :
    Decidable (∀ employee, Holds s employee → p employee) :=
  decidable_of_iff (∀ e ∈ s.employees.entries, holdsToken s e.2 = true → p e.1) <| by
    constructor
    · intro h employee he
      obtain ⟨d, hd, ht⟩ := holds_iff.mp he
      exact h _ hd ht
    · intro h e he ht
      exact h e.1 (holds_iff.mpr ⟨e.2, he, ht⟩)

instance (s : State) : Decidable (∀ employee, ¬ Holds s employee) :=
  decidableHolders s fun _ => False

instance (s : State) : Decidable (Renewing s) :=
  inferInstanceAs (Decidable (∃ c ∈ s.calls, c.renews = true))

instance (s : State) (employee : String) : Decidable (Covered s employee) :=
  inferInstanceAs (Decidable ((s.userId = some employee ∧
    (s.loginState = true ∨ ∃ c ∈ s.calls, c.signsIn = true)) ∨ Renewing s))

instance (s : State) (employee : String) (next : Option (Option String)) :
    Decidable (MayStore s employee next) :=
  inferInstanceAs (Decidable (renewsNext next = true ∨
    (∀ other, Holds s other → other = employee) ∨ Renewing s))

instance decidableCallAllowed (s : State) : ∀ c r, Decidable (CallAllowed s c r)
  | .currentUser, _ =>
    inferInstanceAs (Decidable (s.firebaseUser = true ∨ (∀ employee, ¬ Holds s employee) ∨
      Renewing s))
  | .signIn _ false employeeModel staffId, .ok =>
    inferInstanceAs (Decidable (MayStore s (employeeModel.staffId.getD "") (some staffId)))
  | .incrementDevice employeeModel next, .ok =>
    inferInstanceAs (Decidable (MayStore s (employeeModel.staffId.getD "") next))
  | .incrementDevice _ next, .exception =>
    inferInstanceAs (Decidable (renewsNext next = true →
      ∀ employee, Holds s employee → Covered s employee))
  | .deleteToken _, .exception =>
    inferInstanceAs (Decidable (∀ employee, Holds s employee → Covered s employee))
  | .updateData token employee, .ok =>
    inferInstanceAs (Decidable (s.validToken = some token → Covered s employee))
  | .delayed, _ =>
    inferInstanceAs (Decidable ((∀ employee, ¬ Holds s employee) ∨ Renewing s))
  | .signIn _ true _ _, .ok | .signIn _ true _ _, .failed | .signIn _ true _ _, .exception
  | .signIn _ true _ _, .token _ | .signIn _ false _ _, .failed | .signIn _ false _ _, .exception
  | .signIn _ false _ _, .token _ | .createUserAccount _ _, _ | .incrementDevice _ _, .failed
  | .incrementDevice _ _, .token _ | .setString _, _ | .deleteToken _, .ok | .deleteToken _, .failed
  | .deleteToken _, .token _ | .getToken _, _ | .updateData _ _, .failed
  | .updateData _ _, .exception | .updateData _ _, .token _ | .signOut, _ => isTrue trivial

instance (s : State) : ∀ e, Decidable (Renewed s e)
  | .main => inferInstanceAs (Decidable (∀ employee, Holds s employee → s.userId = some employee))
  | .resume call r _ =>
    match h : takeOut s.calls call with
    | none => isTrue fun _ _ ht => nomatch h.symm.trans ht
    | some (c, rest) =>
      decidable_of_iff (CallAllowed { s with calls := rest } c r) <| by
        constructor
        · intro hc c' rest' ht
          cases h.symm.trans ht
          exact hc
        · exact fun hall => hall c rest h
  | .signIn _ _ _ _ | .onSignOutPressed => isTrue trivial

/-- An employee who has never signed in. -/
def newEmployee (staffId : String) : Doc :=
  KeyedRecord.update (fun _ => .null) [("employee_id", .str staffId)]

def oneEmployee : Collection := ⟨[("e1", newEmployee "e1")], by decide⟩

def twoEmployees : Collection := ⟨[("e1", newEmployee "e1"), ("e2", newEmployee "e2")], by decide⟩

/-- A sign-in in which every call succeeds up to the one that saves the token. -/
def signsIn (staffId token : String) (saved : Reply) : List Event :=
  [.signIn .firebase false { staffId := some staffId } (some staffId), .resume 0 .ok 0,
    .resume 0 .ok 0, .resume 0 .ok 0, .resume 0 (.token (some token)) 0, .resume 0 saved 0]

/-- A sign-out in which every call succeeds. -/
def signsOut : List Event := [.onSignOutPressed, .resume 0 .ok 0, .resume 0 .ok 0]

/-- The token of the first session is never saved, so its sign-out leaves it nowhere; the second
session keeps its own over a restart. -/
def secondSession : List Event :=
  signsIn "e1" "t1" .exception ++ signsOut ++ signsIn "e2" "t2" .ok ++ [.main, .resume 0 .ok 0]

theorem token_private_secondSession :
    EveryStep step Renewed { employees := twoEmployees } secondSession ∧
      EveryState step TokenPrivate { employees := twoEmployees } secondSession ∧
      (run step { employees := twoEmployees } secondSession).any
        (fun t => t.calls = [] ∧ t.signedIn = some "e2" ∧
          t.employees.entries.map (fun e => holdsToken t e.2) = [false, true]) = true := by
  have renewed : EveryStep step Renewed { employees := twoEmployees } secondSession := by
    decide +kernel
  exact ⟨renewed, token_private renewed, by decide +kernel⟩

/-- After the sign-out nobody is signed in, and the record still holds the valid token. -/
theorem signed_out_record_keeps_token :
    ¬ ∀ (employees : Collection) (es : List Event),
        EveryState step TokenPrivate { employees := employees } es := by
  intro claim
  refine not_everyState_of_run
    (fun t => t.calls = [] ∧ t.signedIn = none ∧
      t.employees.entries.any (fun e => holdsToken t e.2)) ?_ ?_
    (claim oneEmployee (signsIn "e1" "t1" .ok ++ signsOut))
  · intro t hbad h
    obtain ⟨quiet, nobody, hany⟩ := of_decide_eq_true hbad
    obtain ⟨e, he, ht⟩ := List.any_eq_true.mp hany
    have hsigned := h quiet e.1 (holds_iff.mpr ⟨e.2, he, ht⟩)
    rw [nobody] at hsigned
    cases hsigned
  · decide

end PushToken
