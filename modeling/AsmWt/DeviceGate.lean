import AsmWt.Employees

/-!
# The two device gates

`LoginController.onSignInPressed` decides whether a phone number may start a
sign-in on this device. `TasksRootView` decides, for every snapshot of the
signed-in employee, whether the session may go on. Signing in does not write
the device into the record.
-/

namespace DeviceGate

open KeyedRecord Firestore Employees

/-- What `onSignInPressed` does with the record its lookup found. -/
inductive SignInOutcome where
  | verifyPhone
  | showToast (message : String)
  deriving DecidableEq

/-- What `_validateEmployeeAndDevice` does with a snapshot; `nullCheckFails` is the exception of
`isActivated!`, which `_handleEmployeeUpdates` catches. -/
inductive Validation where
  | passes
  | authenticationFailure (messageKey : String)
  | nullCheckFails
  deriving DecidableEq

def isTestNumber (phone : Option String) : Bool :=
  phone = some "+66646666666" ∨ phone = some "+66647777777"

/-- The branches of `onSignInPressed` on the record of the number that was typed. -/
def onSignInPressed (res : EmployeeModel) (phoneNumber : String) (device : Device) :
    SignInOutcome :=
  if res.isActivated = some true then
    if res.deviceID = some device.identifier ∨ res.deviceID = none ∨
        isTestNumber (some phoneNumber) then
      .verifyPhone
    else .showToast "authentication.unrecognise_device"
  else .showToast "Please Reactivated Your Account."

/-- `_validateEmployeeAndDevice`. -/
def validateEmployeeAndDevice (employee : EmployeeModel) (device : Device) : Validation :=
  match employee.isActivated with
  | none => .nullCheckFails
  | some false => .authenticationFailure "authentication.please_register"
  | some true =>
    if isTestNumber employee.phoneNumber = false ∧
        employee.deviceID ≠ some device.identifier then
      .authenticationFailure "authentication.unrecognise_device"
    else .passes

/-- The record after `processEmployeeLogin` and `getUserToken`, which leave everything but the
token as it was. -/
def afterLogin (data : Doc) (token : Option String) : Doc := saveToken data token

/-- The gates agree on a record: who may sign in is not signed out by the snapshot that
follows, and whose snapshot passes may sign in. -/
structure GatesAgree (id : String) (data : Doc) (phoneNumber : String) (device : Device)
    (token : Option String) : Prop where
  staysSignedIn : ∀ res employee, fromDocumentSnapshot id data = some res →
    onSignInPressed res phoneNumber device = .verifyPhone →
    fromDocumentSnapshot id (afterLogin data token) = some employee →
    validateEmployeeAndDevice employee device = .passes
  maySignIn : ∀ employee, fromDocumentSnapshot id data = some employee →
    validateEmployeeAndDevice employee device = .passes →
    onSignInPressed employee phoneNumber device = .verifyPhone

theorem onSignInPressed_eq_verifyPhone_iff {res : EmployeeModel} {phoneNumber : String}
    {device : Device} :
    onSignInPressed res phoneNumber device = .verifyPhone ↔
      res.isActivated = some true ∧ (res.deviceID = some device.identifier ∨
        res.deviceID = none ∨ isTestNumber (some phoneNumber) = true) := by
  unfold onSignInPressed
  by_cases ha : res.isActivated = some true
  · rw [if_pos ha]
    by_cases hd : res.deviceID = some device.identifier ∨ res.deviceID = none ∨
        isTestNumber (some phoneNumber) = true
    · simp [ha, hd]
    · rw [if_neg hd]
      simp only [reduceCtorEq, false_iff, not_and]
      exact fun _ => hd
  · rw [if_neg ha]
    simp [ha]

theorem validate_eq_passes_iff {employee : EmployeeModel} {device : Device} :
    validateEmployeeAndDevice employee device = .passes ↔
      employee.isActivated = some true ∧ (employee.deviceID = some device.identifier ∨
        isTestNumber employee.phoneNumber = true) := by
  unfold validateEmployeeAndDevice
  cases ha : employee.isActivated with
  | none => simp
  | some active =>
    cases active with
    | false => simp
    | true =>
      by_cases hd : employee.deviceID = some device.identifier
      · simp [hd]
      · cases ht : isTestNumber employee.phoneNumber with
        | true => simp
        | false => simp [hd]

/-- The gates agree on every record but an activated one without a stored device that is not
one of the test accounts. -/
theorem gatesAgree_iff {id : String} {data : Doc} {res : EmployeeModel} {phoneNumber : String}
    (found : fromDocumentSnapshot id data = some res) (typed : res.phoneNumber = some phoneNumber)
    (device : Device) (token : Option String) :
    GatesAgree id data phoneNumber device token ↔
      ¬ (res.isActivated = some true ∧ res.deviceID = none ∧
        isTestNumber (some phoneNumber) = false) := by
  obtain ⟨deviceToken, hafter⟩ := fromDocumentSnapshot_saveToken found token
  constructor
  · rintro ⟨stays, -⟩ ⟨hactive, hdevice, htest⟩
    have haccepted : onSignInPressed res phoneNumber device = .verifyPhone :=
      onSignInPressed_eq_verifyPhone_iff.mpr ⟨hactive, Or.inr (Or.inl hdevice)⟩
    have hpasses := stays res _ found haccepted hafter
    obtain ⟨-, hd | ht⟩ := validate_eq_passes_iff.mp hpasses
    · have hd : res.deviceID = some device.identifier := hd
      rw [hdevice] at hd
      cases hd
    · have ht : isTestNumber res.phoneNumber = true := ht
      rw [typed, htest] at ht
      cases ht
  · intro hcond
    constructor
    · intro res' employee hres' haccepted hemployee
      cases found.symm.trans hres'
      cases hafter.symm.trans hemployee
      obtain ⟨hactive, hdevice⟩ := onSignInPressed_eq_verifyPhone_iff.mp haccepted
      rw [validate_eq_passes_iff]
      refine ⟨hactive, ?_⟩
      rcases hdevice with hd | hd | ht
      · exact Or.inl hd
      · right
        by_contra hne
        refine hcond ⟨hactive, hd, ?_⟩
        simpa [typed] using hne
      · right
        rw [← typed] at ht
        exact ht
    · intro employee hemployee hpasses
      cases found.symm.trans hemployee
      obtain ⟨hactive, hdevice⟩ := validate_eq_passes_iff.mp hpasses
      rw [onSignInPressed_eq_verifyPhone_iff]
      refine ⟨hactive, ?_⟩
      rcases hdevice with hd | ht
      · exact Or.inl hd
      · rw [typed] at ht
        exact Or.inr (Or.inr ht)

/-- An activated employee whose device was released, so that none is stored. -/
def releasedDevice : Doc :=
  update (fun _ => .null)
    [("employee_id", .str "e1"), ("isActivated", .bool true), ("phone_number", .str "+66811111111")]

def releasedEmployee : EmployeeModel :=
  { employeeID := some "e1"
    staffId := some "e1"
    isActivated := some true
    phoneNumber := some "+66811111111" }

theorem gatesAgree_iff_released :
    GatesAgree "e1" releasedDevice "+66811111111" (.android "A1") none ↔
      ¬ (releasedEmployee.isActivated = some true ∧ releasedEmployee.deviceID = none ∧
        isTestNumber (some "+66811111111") = false) :=
  gatesAgree_iff rfl rfl (.android "A1") none

/-- The login accepts the unset device and the snapshot that follows signs the worker out. -/
theorem released_device_is_signed_out :
    ¬ ∀ (id : String) (data : Doc) (res : EmployeeModel) (phoneNumber : String)
        (device : Device) (token : Option String), fromDocumentSnapshot id data = some res →
        res.phoneNumber = some phoneNumber →
          GatesAgree id data phoneNumber device token := by
  intro claim
  have agree := claim "e1" releasedDevice releasedEmployee "+66811111111" (.android "A1") none
    rfl rfl
  have passes := agree.staysSignedIn releasedEmployee releasedEmployee rfl (by decide) rfl
  exact absurd passes (by decide)

end DeviceGate
