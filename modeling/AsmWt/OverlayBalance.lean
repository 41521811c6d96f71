import AsmWt.PhoneVerification
import AsmWt.TodayTask

/-!
# The flows that show the loading overlay

Every flow is its source with what becomes of the calls it awaits. The
conditions under which it ends without an overlay of its own, and hides nothing
else on the way, are read off these calls.
-/

namespace OverlayBalance

open ClockProcess TodayTask LoadingOverlay PhoneVerification

structure Accept where
  userModel : Bool := true
  getUserDataByUserId : Outcome := .success
  updateTaskStatusByTaskId : Outcome := .success
  createNewFeeds : Outcome := .success
  createMaintenanceNotification : Outcome := .success

def onAcceptPressed (o : Accept) : Dart Unit := do
  showOverlay
  unless o.userModel do
    discard <| await o.getUserDataByUserId
  if ← await o.updateTaskStatusByTaskId then
    discard <| await o.createNewFeeds
    discard <| await o.createMaintenanceNotification
    hide
    pop

/-- `ntpNow` is `none` when the time server does not answer. -/
structure Clock where
  fromCalendar : Bool := false
  inGeofence : Bool := true
  planned : Option Int
  ntpNow : Option Int
  increase : Outcome := .success
  updateTaskStatusByTaskId : Outcome := .success
  increaseCompletedTaskByDocID : Outcome := .success
  createNewFeeds : Outcome := .success

def clockProcess (kind : ClockEvent) (o : Clock) : Dart Unit := do
  showOverlay
  frame
  match o.ntpNow, o.planned with
  | some serverTimeNow, some planned =>
    if offTime kind planned serverTimeNow then
      discard <| await o.increase
    if ← await o.updateTaskStatusByTaskId then
      if kind = .clockOut then
        discard <| await o.increaseCompletedTaskByDocID
      discard <| await o.createNewFeeds
      if o.fromCalendar then pop
    hide
  | _, _ => throw .other

/-- The process as the confirm button calls it, from the sheet or from the dialog over it. -/
def onConfirmPressed (process : Clock → Dart Unit) (o : Clock) : Dart Unit := do
  process o
  pop
  unless o.inGeofence do pop

def clockInProcess := clockProcess .clockIn
def clockOutProcess := clockProcess .clockOut

/-- `valid` says whether the entries of the form pass. -/
structure SignIn where
  valid : Bool := true
  phonenumberReg : Bool := true
  deviceInfo : Outcome := .success
  checkPhoneNumberIsExist : PhoneNumber := .activated
  verification : Verification

def onSignInPressed (o : SignIn) : Dart Unit := do
  if o.valid then
    showOverlay
    if o.phonenumberReg then
      discard <| await o.deviceInfo
      frame
      match o.checkPhoneNumberIsExist with
      | .exception => throw .other
      | .activated => verifyPhone true .activated o.verification
      | .otherDevice | .notActivated | .notFound => hide
    else hide

structure Register where
  valid : Bool := true
  checkPhoneNumberIsExist : PhoneNumber := .notActivated
  verification : Verification

/-- `RegisterStep1Controller.onNextBtnPressed`. -/
def onNextBtnPressed (o : Register) : Dart Unit := do
  if o.valid then
    showOverlay
    verifyPhone false o.checkPhoneNumberIsExist o.verification

inductive AuthType where
  | login
  | register
  | reset
  deriving DecidableEq

/-- The preferences a session is stored in. -/
structure StoredSession where
  userId : Outcome := .success
  organizationId : Outcome := .success
  username : Outcome := .success
  tracking : Outcome := .success
  bioScan : Outcome := .success

/-- The calls that follow a code. `processFirst` tells whether a process that nobody waits for ends
before the flow that has begun it. -/
structure Code where
  type : AuthType
  deviceInfo : Outcome := .success
  createUserAccount : Outcome := .success
  incrementDevice : Outcome := .success
  session : StoredSession := {}
  getUserToken : Outcome := .success
  processFirst : Bool := false

/-- The stored session and the page it leads to. -/
def enterSession (o : StoredSession) : Dart Unit := do
  discard <| await o.userId
  discard <| await o.organizationId
  discard <| await o.username
  discard <| await o.tracking
  discard <| await o.bioScan
  pushReplacementNamed "todayTask"
  hide

def processEmployeeSignUp (o : Code) : Dart Unit := do
  discard <| await o.deviceInfo
  if ← await o.createUserAccount then
    discard <| await o.incrementDevice
    enterSession o.session
  else hide

def processEmployeeLogin (o : Code) : Dart Unit := enterSession o.session

def processEmployee (o : Code) : Dart Unit :=
  if o.type = .login then processEmployeeLogin o else processEmployeeSignUp o

inductive Credential where
  | user
  | noUser
  | firebaseAuthException
  | exception
  deriving DecidableEq

def signInWithPhoneAuthCredential (credential : Credential) (o : Code) : Dart Unit := do
  try
    showOverlay
    frame
    match credential with
    | .firebaseAuthException => throw .firebaseAuth
    | .exception => throw .other
    | .noUser => pure ()
    | .user =>
      if o.type ≠ .reset then
        processEmployee o
        discard <| await o.getUserToken
  catch
    | .firebaseAuth => hide
    | .other => throw .other

structure ThaiBulk where
  verifyThaiBulkSmsOTP : Outcome := .success
  signInAnonymously : Outcome := .success
  code : Code

/-- The process of the employee is begun. -/
def ThaiBulk.begins (o : ThaiBulk) : Bool :=
  o.verifyThaiBulkSmsOTP = .success ∧ o.signInAnonymously ≠ .exception

/-- The other branch of `verifyOTPFunc`. -/
def verifyOTPFunc (o : ThaiBulk) : Dart Unit := do
  showOverlay
  whenComplete (do
    if ← await o.verifyThaiBulkSmsOTP then
      discard <| await o.signInAnonymously
      if o.code.processFirst then spawn (processEmployee o.code)
      discard <| await o.code.getUserToken) (do
    hide
    if o.begins ∧ !o.code.processFirst then spawn (processEmployee o.code))

/-- `confirmed` tells a sign-out of the user from one that the app makes. -/
structure SignOut where
  confirmed : Bool := true
  getInstance : Outcome := .success
  signOut : Outcome := .success

def onSignOutPressed (o : SignOut) : Dart Unit := do
  showOverlay
  discard <| await o.getInstance
  discard <| await o.signOut
  -- `Future.delayed`
  frame
  hide
  pushReplacementNamed "/"

/-- A flow with what becomes of its calls. -/
inductive Flow where
  | accept (o : Accept)
  | clockIn (o : Clock)
  | clockOut (o : Clock)
  | signIn (o : SignIn)
  | register (o : Register)
  | verifyOTP (credential : Credential) (o : Code)
  | verifyThaiBulkSmsOTP (o : ThaiBulk)
  | signOut (o : SignOut)

namespace Flow

/-- The routes from the one with the button down to its page. -/
def start : Flow → List Other
  | accept _ => [.page "tasks_detail"]
  | clockIn o | clockOut o =>
    let page := .page (if o.fromCalendar then "tasks_detail" else "todayTask")
    if o.inGeofence then [.sheet, page] else [.dialog, .sheet, page]
  | signIn _ => [.page "/"]
  | register _ => [.page "register"]
  | verifyOTP _ _ | verifyThaiBulkSmsOTP _ => [.page "register2"]
  | signOut o => if o.confirmed then [.dialog, .page "todayTask"] else [.page "todayTask"]

def code : Flow → Dart Unit
  | accept o => onAcceptPressed o
  | clockIn o => onConfirmPressed clockInProcess o
  | clockOut o => onConfirmPressed clockOutProcess o
  | signIn o => onSignInPressed o
  | register o => onNextBtnPressed o
  | verifyOTP credential o => signInWithPhoneAuthCredential credential o
  | verifyThaiBulkSmsOTP o => verifyOTPFunc o
  | signOut o => onSignOutPressed o

end Flow

/-- A number is found to belong to the device, and a code is asked for. -/
def SignIn.verifies (o : SignIn) : Bool :=
  o.valid ∧ o.phonenumberReg ∧ o.deviceInfo ≠ .exception ∧ o.checkPhoneNumberIsExist = .activated

def Register.verifies (o : Register) : Bool :=
  o.valid ∧ (o.checkPhoneNumberIsExist = .notFound ∨ o.checkPhoneNumberIsExist = .notActivated)

/-- What happens to a flow after its own code. -/
def Flow.later : Flow → List Happening
  | signIn o => if o.verifies then o.verification.after else []
  | register o => if o.verifies then o.verification.after else []
  | _ => []

/-- The navigation when a flow has ended, over any routes below. -/
def Flow.ended (f : Flow) (below : List Other) : Nav :=
  (f.later.foldl Happening.handle
    (LoadingOverlay.ended f.code { stack := (f.start ++ below).map .other })).frame

/-- The task is stored, and nothing throws. -/
structure Accept.Clean (o : Accept) : Prop where
  getUserDataByUserId : o.userModel = true ∨ o.getUserDataByUserId ≠ .exception
  updateTaskStatusByTaskId : o.updateTaskStatusByTaskId = .success
  createNewFeeds : o.createNewFeeds ≠ .exception
  createMaintenanceNotification : o.createMaintenanceNotification ≠ .exception

/-- The counter of a clocking that is off its time does not throw. -/
def Clock.Counts (kind : ClockEvent) (o : Clock) : Prop :=
  ∃ serverTimeNow planned, o.ntpNow = some serverTimeNow ∧ o.planned = some planned ∧
    (offTime kind planned serverTimeNow → o.increase ≠ .exception)

/-- Nothing throws, and a task that is stored is not clocked from the calendar. -/
structure Clock.Clean (kind : ClockEvent) (o : Clock) : Prop where
  counts : o.Counts kind
  updateTaskStatusByTaskId : o.updateTaskStatusByTaskId ≠ .exception
  stored : o.updateTaskStatusByTaskId = .success →
    (kind = .clockOut → o.increaseCompletedTaskByDocID ≠ .exception) ∧
      o.createNewFeeds ≠ .exception ∧ o.fromCalendar = false

structure SignIn.Clean (o : SignIn) : Prop where
  answered : o.valid = true → o.phonenumberReg = true →
    o.deviceInfo ≠ .exception ∧ o.checkPhoneNumberIsExist ≠ .exception
  verification : o.verifies = true → o.verification.Clean

structure Register.Clean (o : Register) : Prop where
  verifies : o.valid = true → o.verifies = true
  verification : o.verifies = true → o.verification.Clean

def StoredSession.Stored (o : StoredSession) : Prop :=
  o.userId ≠ .exception ∧ o.organizationId ≠ .exception ∧ o.username ≠ .exception ∧
    o.tracking ≠ .exception ∧ o.bioScan ≠ .exception

/-- The process of the employee gets to its end. -/
def Code.Ends (o : Code) : Prop :=
  if o.type = .login then o.session.Stored
  else o.deviceInfo ≠ .exception ∧ o.createUserAccount ≠ .exception ∧
    (o.createUserAccount = .success → o.incrementDevice ≠ .exception ∧ o.session.Stored)

/-- The conditions under which a flow leaves no overlay and hides nothing else. -/
def Flow.Clean : Flow → Prop
  | accept o => o.Clean
  | clockIn o => o.Clean .clockIn
  | clockOut o => o.Clean .clockOut
  | signIn o => o.Clean
  | register o => o.Clean
  | verifyOTP credential o => credential = .firebaseAuthException ∨
      credential = .user ∧ o.type ≠ .reset ∧ o.Ends
  -- the process hides the overlay once, and the flow that does not wait for it once more
  | verifyThaiBulkSmsOTP o => o.begins = true → ¬ o.code.Ends
  | signOut o => o.getInstance ≠ .exception ∧ o.signOut ≠ .exception

section Accept

variable {o : Accept} (stack : List Route)

theorem onAcceptPressed_of_clean (h : o.Clean) :
    ended (onAcceptPressed o) { stack } = { stack := stack.tail } := by
  obtain ⟨huser, hupdate, hfeed, hnotification⟩ := h
  rcases huser with huser | huser <;>
    simp [onAcceptPressed, ended, huser, hupdate, hfeed, hnotification]

theorem onAcceptPressed_of_not_clean (h : ¬ o.Clean) :
    ended (onAcceptPressed o) { stack } = { stack := .overlay :: stack } := by
  by_cases huser : o.userModel = true ∨ o.getUserDataByUserId ≠ .exception
  · cases hupdate : o.updateTaskStatusByTaskId with
    | success =>
      by_cases hfeed : o.createNewFeeds = .exception
      · rcases huser with huser | huser <;>
          simp [onAcceptPressed, ended, huser, hupdate, hfeed]
      · by_cases hnotification : o.createMaintenanceNotification = .exception
        · rcases huser with huser | huser <;>
            simp [onAcceptPressed, ended, huser, hupdate, hfeed, hnotification]
        · exact absurd ⟨huser, hupdate, hfeed, hnotification⟩ h
    | failure | exception =>
      rcases huser with huser | huser <;>
        simp [onAcceptPressed, ended, huser, hupdate]
  · obtain ⟨hmissing, hthrows⟩ := not_or.mp huser
    simp [onAcceptPressed, ended, hmissing, not_not.mp hthrows]

end Accept

section Clock

variable {kind : ClockEvent} {o : Clock} (stack : List Route)

/-- What the process awaits before the task is written. -/
theorem clockProcess_of_counts (h : o.Counts kind) : clockProcess kind o { stack } =
    (do
      if ← await o.updateTaskStatusByTaskId then
        if kind = .clockOut then
          discard <| await o.increaseCompletedTaskByDocID
        discard <| await o.createNewFeeds
        if o.fromCalendar then pop
      hide : Dart Unit) { stack := .overlay :: stack } := by
  obtain ⟨serverTimeNow, planned, hntp, hplanned, hcounter⟩ := h
  by_cases hoff : offTime kind planned serverTimeNow
  · simp [clockProcess, hntp, hplanned, hoff, hcounter hoff]
  · simp [clockProcess, hntp, hplanned, hoff]

theorem clockProcess_of_not_counts (h : ¬ o.Counts kind) :
    clockProcess kind o { stack } = .error .other { stack := .overlay :: stack } := by
  cases hntp : o.ntpNow with
  | none => simp [clockProcess, hntp]
  | some serverTimeNow =>
    cases hplanned : o.planned with
    | none => simp [clockProcess, hntp, hplanned]
    | some planned =>
      by_cases hoff : offTime kind planned serverTimeNow
      · by_cases hcounter : o.increase = .exception
        · simp [clockProcess, hntp, hplanned, hoff, hcounter]
        · exact absurd ⟨serverTimeNow, planned, hntp, hplanned, fun _ => hcounter⟩ h
      · exact absurd ⟨serverTimeNow, planned, hntp, hplanned, fun hs => absurd hs hoff⟩ h

theorem clockProcess_of_clean (h : o.Clean kind) :
    clockProcess kind o { stack } = .ok () { stack } := by
  rw [clockProcess_of_counts stack h.counts]
  cases hupdate : o.updateTaskStatusByTaskId with
  | success =>
    obtain ⟨hcompleted, hfeed, hcalendar⟩ := h.stored hupdate
    by_cases hkind : kind = .clockOut
    · simp [hkind, hcompleted hkind, hfeed, hcalendar]
    · simp [hkind, hfeed, hcalendar]
  | failure => simp
  | exception => exact absurd hupdate h.updateTaskStatusByTaskId

/-- The process throws under its overlay, or it pops the overlay and hides what was below. -/
theorem clockProcess_of_not_clean (h : ¬ o.Clean kind) :
    clockProcess kind o { stack } = .error .other { stack := .overlay :: stack } ∨
      clockProcess kind o { stack } =
        .ok () { stack := stack.tail, hidOther := !stack.head?.any Route.isOverlay } := by
  by_cases hcounts : o.Counts kind
  · rw [clockProcess_of_counts stack hcounts]
    cases hupdate : o.updateTaskStatusByTaskId with
    | success =>
      by_cases hcompleted : kind = .clockOut ∧ o.increaseCompletedTaskByDocID = .exception
      · exact Or.inl (by simp [hcompleted])
      · have hcount : kind = .clockOut → o.increaseCompletedTaskByDocID ≠ .exception :=
          fun hkind hthrows => hcompleted ⟨hkind, hthrows⟩
        by_cases hfeed : o.createNewFeeds = .exception
        · by_cases hkind : kind = .clockOut
          · exact Or.inl (by simp [hkind, hcount hkind, hfeed])
          · exact Or.inl (by simp [hkind, hfeed])
        · cases hcalendar : o.fromCalendar with
          | true =>
            by_cases hkind : kind = .clockOut
            · exact Or.inr (by simp [hkind, hcount hkind, hfeed])
            · exact Or.inr (by simp [hkind, hfeed])
          | false =>
            refine absurd ⟨hcounts, ?_, fun _ => ⟨hcount, hfeed, hcalendar⟩⟩ h
            rw [hupdate]
            nofun
    | failure =>
      refine absurd ⟨hcounts, ?_, fun hs => ?_⟩ h
      · rw [hupdate]
        nofun
      · cases hupdate.symm.trans hs
    | exception => exact Or.inl (by simp)
  · exact Or.inl (clockProcess_of_not_counts stack hcounts)

theorem clock_balanced_iff (top : Other) (htop : top ≠ .overlay) (below : List Other) :
    Balanced (ended (onConfirmPressed (clockProcess kind) o)
      { stack := (top :: below).map .other }).frame ↔ o.Clean kind := by
  by_cases h : o.Clean kind
  · refine iff_of_true ?_ h
    have run := clockProcess_of_clean (.other top :: below.map .other) h
    cases hin : o.inGeofence with
    | true =>
      refine balanced_of_below below ?_ ?_
      · simp [ended, onConfirmPressed, run, hin]
      · simp [ended, onConfirmPressed, run, hin]
    | false =>
      refine balanced_of_below below.tail ?_ ?_
      · simp [ended, onConfirmPressed, run, hin]
      · simp [ended, onConfirmPressed, run, hin]
  · refine iff_of_false ?_ h
    rcases clockProcess_of_not_clean (.other top :: below.map .other) h with run | run
    · refine not_balanced_of_top ((top :: below).map .other) ?_
      simp [ended, onConfirmPressed, run]
    · have other : (Route.other top).isOverlay = false := by
        cases top with
        | overlay => exact absurd rfl htop
        | page name | sheet | dialog => rfl
      refine not_balanced_of_hidOther ?_
      cases hin : o.inGeofence with
      | true | false => simp [ended, onConfirmPressed, run, hin, other]

end Clock

section Code

variable (stack : List Route) (hidOther : Bool)

theorem enterSession_of_stored {o : StoredSession} (h : o.Stored) :
    enterSession o { stack, hidOther } = .ok () {
      stack := stack.tail
      replacements := ["todayTask"]
      hidOther := hidOther || !stack.head?.any Route.isOverlay } := by
  obtain ⟨huserId, horganizationId, husername, htracking, hbioScan⟩ := h
  simp [enterSession, huserId, horganizationId, husername, htracking, hbioScan]

theorem enterSession_of_not_stored {o : StoredSession} (h : ¬ o.Stored) :
    enterSession o { stack, hidOther } = .error .other { stack, hidOther } := by
  by_cases huserId : o.userId = .exception
  · simp [enterSession, huserId]
  · by_cases horganizationId : o.organizationId = .exception
    · simp [enterSession, huserId, horganizationId]
    · by_cases husername : o.username = .exception
      · simp [enterSession, huserId, horganizationId, husername]
      · by_cases htracking : o.tracking = .exception
        · simp [enterSession, huserId, horganizationId, husername, htracking]
        · by_cases hbioScan : o.bioScan = .exception
          · simp [enterSession, huserId, horganizationId, husername, htracking, hbioScan]
          · exact absurd ⟨huserId, horganizationId, husername, htracking, hbioScan⟩ h

/-- A process that ends hides once. -/
theorem processEmployee_of_ends {o : Code} (h : o.Ends) : ∃ replacements,
    processEmployee o { stack, hidOther } = .ok () {
      stack := stack.tail
      replacements
      hidOther := hidOther || !stack.head?.any Route.isOverlay } := by
  rw [Code.Ends] at h
  split at h
  · case isTrue hlogin =>
    refine ⟨["todayTask"], ?_⟩
    simp [processEmployee, hlogin, processEmployeeLogin, enterSession_of_stored _ _ h]
  · case isFalse hlogin =>
    obtain ⟨hdevice, hcreate, hstored⟩ := h
    cases haccount : o.createUserAccount with
    | success =>
      obtain ⟨hincrement, hsession⟩ := hstored haccount
      refine ⟨["todayTask"], ?_⟩
      simp [processEmployee, hlogin, processEmployeeSignUp, hdevice, haccount, hincrement,
        enterSession_of_stored _ _ hsession]
    | failure =>
      refine ⟨[], ?_⟩
      simp [processEmployee, hlogin, processEmployeeSignUp, hdevice, haccount]
    | exception => exact absurd haccount hcreate

/-- A process that does not end hides nothing. -/
theorem processEmployee_of_not_ends {o : Code} (h : ¬ o.Ends) :
    processEmployee o { stack, hidOther } = .error .other { stack, hidOther } := by
  rw [Code.Ends] at h
  split at h
  · case isTrue hlogin =>
    simp [processEmployee, hlogin, processEmployeeLogin, enterSession_of_not_stored _ _ h]
  · case isFalse hlogin =>
    by_cases hdevice : o.deviceInfo = .exception
    · simp [processEmployee, hlogin, processEmployeeSignUp, hdevice]
    · cases haccount : o.createUserAccount with
      | success =>
        by_cases hincrement : o.incrementDevice = .exception
        · simp [processEmployee, hlogin, processEmployeeSignUp, hdevice, haccount, hincrement]
        · have hsession : ¬ o.session.Stored := by
            intro hsession
            refine h ⟨hdevice, ?_, fun _ => ⟨hincrement, hsession⟩⟩
            rw [haccount]
            nofun
          simp [processEmployee, hlogin, processEmployeeSignUp, hdevice, haccount, hincrement,
            enterSession_of_not_stored _ _ hsession]
      | failure =>
        refine absurd ⟨hdevice, ?_, fun hs => ?_⟩ h
        · rw [haccount]
          nofun
        · cases haccount.symm.trans hs
      | exception => simp [processEmployee, hlogin, processEmployeeSignUp, hdevice, haccount]

theorem verifyOTP_balanced_iff (credential : Credential) (o : Code) (below : List Other) :
    Balanced (ended (signInWithPhoneAuthCredential credential o)
      { stack := below.map .other }).frame ↔ (Flow.verifyOTP credential o).Clean := by
  rw [Flow.Clean]
  cases credential with
  | firebaseAuthException =>
    refine iff_of_true (balanced_of_below below ?_ ?_) (Or.inl rfl)
    · simp [ended, signInWithPhoneAuthCredential]
    · simp [ended, signInWithPhoneAuthCredential]
  | exception | noUser =>
    refine iff_of_false (not_balanced_of_top (below.map .other) ?_) (by simp)
    simp [ended, signInWithPhoneAuthCredential]
  | user =>
    by_cases htype : o.type = .reset
    · refine iff_of_false (not_balanced_of_top (below.map .other) ?_) (by simp [htype])
      simp [ended, signInWithPhoneAuthCredential, htype]
    · by_cases hends : o.Ends
      · obtain ⟨replacements, run⟩ :=
          processEmployee_of_ends (.overlay :: below.map .other) false hends
        have hended : ended (signInWithPhoneAuthCredential .user o) { stack := below.map .other } =
            Nav.frame { stack := below.map .other, replacements } := by
          by_cases htoken : o.getUserToken = .exception
          · simp [ended, signInWithPhoneAuthCredential, htype, run, htoken]
          · simp [ended, signInWithPhoneAuthCredential, htype, run, htoken]
        refine iff_of_true ?_ (by simp [htype, hends])
        rw [hended]
        exact (balanced_of_below _ rfl rfl).frame.frame
      · have run := processEmployee_of_not_ends (.overlay :: below.map .other) false hends
        refine iff_of_false (not_balanced_of_top (below.map .other) ?_) (by simp [hends])
        simp [ended, signInWithPhoneAuthCredential, htype, run]

section ThaiBulk

variable {o : ThaiBulk}

theorem begins_iff : o.begins = true ↔
    o.verifyThaiBulkSmsOTP = .success ∧ o.signInAnonymously ≠ .exception := by
  rw [ThaiBulk.begins, decide_eq_true_iff]

/-- Without a process the flow hides its own overlay. -/
theorem verifyOTPFunc_of_not_begins (h : o.begins = false) :
    ended (verifyOTPFunc o) { stack } = { stack } := by
  cases hverify : o.verifyThaiBulkSmsOTP with
  | success =>
    have hsignIn : o.signInAnonymously = .exception := by
      simpa [ThaiBulk.begins, hverify] using h
    simp [ended, verifyOTPFunc, whenComplete, hverify, hsignIn, h]
  | failure | exception => simp [ended, verifyOTPFunc, whenComplete, hverify, h]

/-- The process ends first, and the flow hides what is then on top. -/
theorem verifyOTPFunc_of_first {n : Nav} (h : o.begins = true)
    (hfirst : o.code.processFirst = true)
    (hn : ended (processEmployee o.code) { stack := .overlay :: stack } = n) :
    ended (verifyOTPFunc o) { stack } = { n.frame with
      stack := n.frame.stack.tail
      hidOther := n.hidOther || !n.frame.stack.head?.any Route.isOverlay } := by
  obtain ⟨hverify, hsignIn⟩ := begins_iff.mp h
  rw [← hn]
  by_cases htoken : o.code.getUserToken = .exception
  · simp [ended, verifyOTPFunc, whenComplete, hverify, hsignIn, h, hfirst, htoken]
  · simp [ended, verifyOTPFunc, whenComplete, hverify, hsignIn, h, hfirst, htoken]

/-- The flow hides its overlay, and the process goes on without. -/
theorem verifyOTPFunc_of_later (h : o.begins = true) (hfirst : o.code.processFirst = false) :
    ended (verifyOTPFunc o) { stack } = ended (processEmployee o.code) { stack } := by
  obtain ⟨hverify, hsignIn⟩ := begins_iff.mp h
  by_cases htoken : o.code.getUserToken = .exception
  · simp [ended, verifyOTPFunc, whenComplete, hverify, hsignIn, h, hfirst, htoken]
  · simp [ended, verifyOTPFunc, whenComplete, hverify, hsignIn, h, hfirst, htoken]

/-- The flow hides its own overlay, so a process that ends hides what is below. -/
theorem verifyThaiBulkSmsOTP_balanced_iff (name : String) (below : List Other) :
    Balanced (ended (verifyOTPFunc o)
      { stack := .other (.page name) :: below.map .other }).frame ↔
        (Flow.verifyThaiBulkSmsOTP o).Clean := by
  have balanced : Balanced { stack := .other (.page name) :: below.map .other } :=
    balanced_of_below (.page name :: below) rfl rfl
  rw [Flow.Clean]
  cases hbegins : o.begins with
  | false =>
    rw [verifyOTPFunc_of_not_begins _ hbegins]
    exact iff_of_true balanced nofun
  | true =>
    cases hfirst : o.code.processFirst with
    | true =>
      by_cases hends : o.code.Ends
      · obtain ⟨replacements, run⟩ := processEmployee_of_ends
          (.overlay :: .other (.page name) :: below.map .other) false hends
        have top := frame_top
          (n := ⟨.other (.page name) :: below.map .other, replacements, false⟩) rfl
        refine iff_of_false (not_balanced_of_hidOther ?_) fun h => h rfl hends
        rw [verifyOTPFunc_of_first _ hbegins hfirst (by rw [ended, run])]
        simp [top]
      · have run := processEmployee_of_not_ends
          (.overlay :: .other (.page name) :: below.map .other) false hends
        rw [verifyOTPFunc_of_first _ hbegins hfirst (by rw [ended, run])]
        exact iff_of_true balanced fun _ => hends
    | false =>
      rw [verifyOTPFunc_of_later _ hbegins hfirst]
      by_cases hends : o.code.Ends
      · obtain ⟨replacements, run⟩ := processEmployee_of_ends
          (.other (.page name) :: below.map .other) false hends
        refine iff_of_false (not_balanced_of_hidOther ?_) fun h => h rfl hends
        rw [ended, run]
        rfl
      · have run := processEmployee_of_not_ends
          (.other (.page name) :: below.map .other) false hends
        rw [ended, run]
        exact iff_of_true balanced fun _ => hends

end ThaiBulk

theorem signOut_balanced_iff (o : SignOut) (below : List Other) :
    Balanced (ended (onSignOutPressed o) { stack := below.map .other }).frame ↔
      (Flow.signOut o).Clean := by
  rw [Flow.Clean]
  by_cases hinstance : o.getInstance = .exception
  · refine iff_of_false (not_balanced_of_top (below.map .other) ?_) fun h => h.1 hinstance
    simp [ended, onSignOutPressed, hinstance]
  · by_cases hsignOut : o.signOut = .exception
    · refine iff_of_false (not_balanced_of_top (below.map .other) ?_)
        fun h => h.2 hsignOut
      simp [ended, onSignOutPressed, hinstance, hsignOut]
    · refine iff_of_true ?_ ⟨hinstance, hsignOut⟩
      have hended : ended (onSignOutPressed o) { stack := below.map .other } =
          { stack := below.map .other, replacements := ["/"] } := by
        simp [ended, onSignOutPressed, hinstance, hsignOut]
      rw [hended]
      exact (balanced_of_below _ rfl rfl).frame

end Code

theorem SignIn.verifies_iff {o : SignIn} : o.verifies = true ↔ o.valid = true ∧
    o.phonenumberReg = true ∧ o.deviceInfo ≠ .exception ∧
      o.checkPhoneNumberIsExist = .activated := by
  rw [SignIn.verifies, decide_eq_true_iff]

theorem Register.verifies_iff {o : Register} : o.verifies = true ↔ o.valid = true ∧
    (o.checkPhoneNumberIsExist = .notFound ∨ o.checkPhoneNumberIsExist = .notActivated) := by
  rw [Register.verifies, decide_eq_true_iff]

/-- A sign-in that does not get to a code hides its overlay unless a call throws. -/
theorem onSignInPressed_of_not_verifies {o : SignIn} (stack : List Route)
    (h : o.verifies = false) :
    (o.Clean → ended (onSignInPressed o) { stack } = { stack }) ∧
      (¬ o.Clean → ended (onSignInPressed o) { stack } = { stack := .overlay :: stack }) := by
  have vacuous : o.verifies = true → o.verification.Clean :=
    fun hv => absurd (h.symm.trans hv) Bool.false_ne_true
  cases hvalid : o.valid with
  | false =>
    have clean : o.Clean := by
      refine ⟨fun hv => ?_, vacuous⟩
      cases hvalid.symm.trans hv
    exact ⟨fun _ => by simp [ended, onSignInPressed, hvalid], fun hn => absurd clean hn⟩
  | true =>
    cases hreg : o.phonenumberReg with
    | false =>
      have clean : o.Clean := by
        refine ⟨fun _ hr => ?_, vacuous⟩
        cases hreg.symm.trans hr
      exact ⟨fun _ => by simp [ended, onSignInPressed, hvalid, hreg], fun hn => absurd clean hn⟩
    | true =>
      by_cases hdevice : o.deviceInfo = .exception
      · refine ⟨fun hc => absurd hdevice (hc.answered hvalid hreg).1, fun _ => ?_⟩
        simp [ended, onSignInPressed, hvalid, hreg, hdevice]
      · cases hcheck : o.checkPhoneNumberIsExist with
        | exception =>
          refine ⟨fun hc => absurd hcheck (hc.answered hvalid hreg).2, fun _ => ?_⟩
          simp [ended, onSignInPressed, hvalid, hreg, hdevice, hcheck]
        | notFound | notActivated | otherDevice =>
          have clean : o.Clean := by
            refine ⟨fun _ _ => ⟨hdevice, ?_⟩, vacuous⟩
            rw [hcheck]
            decide
          refine ⟨fun _ => ?_, fun hn => absurd clean hn⟩
          simp [ended, onSignInPressed, hvalid, hreg, hdevice, hcheck]
        | activated =>
          exact absurd (SignIn.verifies_iff.mpr ⟨hvalid, hreg, hdevice, hcheck⟩)
            (Bool.eq_false_iff.mp h)

theorem signIn_balanced_iff (o : SignIn) (below : List Other) :
    Balanced ((Flow.signIn o).ended below) ↔ o.Clean := by
  cases hv : o.verifies with
  | true =>
    obtain ⟨hvalid, hreg, hdevice, hcheck⟩ := SignIn.verifies_iff.mp hv
    have run (stack : List Route) : ended (onSignInPressed o) { stack } =
        ended (whenComplete (verifyPhoneNumber o.verification) hide)
          { stack := .overlay :: .overlay :: stack } := by
      simp [ended, onSignInPressed, verifyPhone, hvalid, hreg, hdevice, hcheck]
    have clean_iff : o.Clean ↔ o.verification.Clean := by
      refine ⟨fun hc => hc.verification hv, fun hc => ⟨fun _ _ => ⟨hdevice, ?_⟩, fun _ => hc⟩⟩
      rw [hcheck]
      decide
    rw [clean_iff, ← verification_balanced_iff o.verification "/" below, ← run, Flow.ended,
      Flow.later, if_pos hv]
    rfl
  | false =>
    obtain ⟨clean, left⟩ :=
      onSignInPressed_of_not_verifies (((Flow.signIn o).start ++ below).map .other) hv
    rw [Flow.ended, Flow.later, hv, Flow.code]
    by_cases hclean : o.Clean
    · rw [clean hclean]
      exact iff_of_true (balanced_of_below _ rfl rfl) hclean
    · rw [left hclean]
      exact iff_of_false (not_balanced_of_top _ rfl) hclean

/-- The overlay of the first step of a registration is never hidden by it. -/
theorem onNextBtnPressed_of_not_verifies {o : Register} (stack : List Route)
    (hvalid : o.valid = true) (h : o.verifies = false) :
    ended (onNextBtnPressed o) { stack } = { stack := .overlay :: stack } := by
  have hcheck : o.checkPhoneNumberIsExist ≠ .notFound ∧
      o.checkPhoneNumberIsExist ≠ .notActivated := by
    refine not_or.mp fun hc => ?_
    exact absurd (Register.verifies_iff.mpr ⟨hvalid, hc⟩) (Bool.eq_false_iff.mp h)
  cases hfound : o.checkPhoneNumberIsExist with
  | notFound => exact absurd hfound hcheck.1
  | notActivated => exact absurd hfound hcheck.2
  | exception | otherDevice | activated =>
    simp [ended, onNextBtnPressed, verifyPhone, whenComplete, hvalid, hfound]

theorem register_balanced_iff (o : Register) (below : List Other) :
    Balanced ((Flow.register o).ended below) ↔ o.Clean := by
  cases hv : o.verifies with
  | true =>
    obtain ⟨hvalid, hcheck⟩ := Register.verifies_iff.mp hv
    have run (stack : List Route) : ended (onNextBtnPressed o) { stack } =
        ended (whenComplete (verifyPhoneNumber o.verification) hide)
          { stack := .overlay :: .overlay :: stack } := by
      rcases hcheck with hcheck | hcheck <;>
        simp [ended, onNextBtnPressed, verifyPhone, whenComplete, hvalid, hcheck]
    have clean_iff : o.Clean ↔ o.verification.Clean :=
      ⟨fun hc => hc.verification hv, fun hc => ⟨fun _ => hv, fun _ => hc⟩⟩
    rw [clean_iff, ← verification_balanced_iff o.verification "register" below, ← run, Flow.ended,
      Flow.later, if_pos hv]
    rfl
  | false =>
    rw [Flow.ended, Flow.later, hv, Flow.code]
    cases hvalid : o.valid with
    | false =>
      have quiet (stack : List Route) : ended (onNextBtnPressed o) { stack } = { stack } := by
        simp [ended, onNextBtnPressed, hvalid]
      rw [quiet]
      refine iff_of_true (balanced_of_below _ rfl rfl) ⟨fun h => ?_, fun h => ?_⟩
      · cases hvalid.symm.trans h
      · cases hv.symm.trans h
    | true =>
      rw [onNextBtnPressed_of_not_verifies _ hvalid hv]
      refine iff_of_false (not_balanced_of_top _ rfl) fun hc => ?_
      cases hv.symm.trans (hc.verifies hvalid)

/-- What a flow leaves behind, over any routes below. -/
theorem balanced_iff (f : Flow) (below : List Other) : Balanced (f.ended below) ↔ f.Clean := by
  cases f with
  | accept o =>
    rw [Flow.ended, Flow.Clean]
    by_cases h : o.Clean
    · exact iff_of_true (onAcceptPressed_of_clean _ h ▸ balanced_of_below _ rfl rfl) h
    · exact iff_of_false (onAcceptPressed_of_not_clean _ h ▸ not_balanced_of_top _ rfl) h
  | clockIn o | clockOut o =>
    rw [Flow.ended, Flow.Clean, Flow.start]
    cases o.inGeofence with
    | true => exact clock_balanced_iff .sheet nofun _
    | false => exact clock_balanced_iff .dialog nofun _
  | signIn o => exact signIn_balanced_iff o below
  | register o => exact register_balanced_iff o below
  | verifyOTP credential o => exact verifyOTP_balanced_iff credential o _
  | verifyThaiBulkSmsOTP o => exact verifyThaiBulkSmsOTP_balanced_iff "register2" below
  | signOut o => exact signOut_balanced_iff o ((Flow.signOut o).start ++ below)

/-- The task cannot be stored, and the overlay of the accept button stays. -/
theorem accept_fails_under_overlay :
    ¬ ∀ (f : Flow) (below : List Other), Balanced (f.ended below) := by
  intro claim
  have left := (claim (.accept { updateTaskStatusByTaskId := .failure }) []).gone
  exact left (by decide)

end OverlayBalance
