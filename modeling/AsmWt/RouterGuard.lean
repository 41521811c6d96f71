import AsmWt.Interleaving
import Mathlib.Data.List.Basic

/-!
# The redirect of the router

Every navigation asks the redirect about the location it names, and so does
every notification of `AppService` about the location shown. A redirect to
another location is asked again, up to the limit of the router.
-/

namespace RouterGuard

open Interleaving

namespace RouteNames

def root := "/"
def register := "register"
def register2 := "register2"
def todayTask := "todayTask"
def myAccount := "my_account"
def tasksDetail := "tasks_detail"
def taskCalendar := "task_calendar"
def notification := "notification"
def qrCodeScan := "qr_code_scan"
def accountSetting := "account_setting"

end RouteNames

inductive Page where
  | login
  | registerStep1
  | registerStep2
  | tasksRoot
  | tasksDetail
  | notification
  | accountSetting
  | qrCode
  deriving DecidableEq

structure GoRoute where
  name : String
  path : String
  page : Page

/-- The routes at the top with the routes inside them. -/
def routes : List (GoRoute × List GoRoute) :=
  [(⟨RouteNames.root, "/", .login⟩,
      [⟨RouteNames.register, RouteNames.register, .registerStep1⟩,
        ⟨RouteNames.register2, RouteNames.register2 ++ "/:type/:verID/:isThaiBulkSms/:token",
          .registerStep2⟩]),
    (⟨RouteNames.todayTask, "/" ++ RouteNames.todayTask, .tasksRoot⟩,
      [⟨RouteNames.tasksDetail, RouteNames.tasksDetail, .tasksDetail⟩,
        ⟨RouteNames.notification, RouteNames.notification ++ "/:userId", .notification⟩]),
    (⟨RouteNames.taskCalendar, "/" ++ RouteNames.todayTask ++ "/" ++ RouteNames.taskCalendar,
        .tasksRoot⟩, []),
    (⟨RouteNames.myAccount, "/" ++ RouteNames.todayTask ++ "/" ++ RouteNames.taskCalendar ++ "/" ++
        RouteNames.myAccount, .tasksRoot⟩,
      [⟨RouteNames.accountSetting, RouteNames.accountSetting, .accountSetting⟩,
        ⟨RouteNames.qrCodeScan, RouteNames.qrCodeScan ++ "/:id", .qrCode⟩])]

/-- A route inside another one continues its path. -/
def inside (parent : GoRoute) (r : GoRoute) : GoRoute :=
  { r with path := (if parent.path = "/" then "" else parent.path) ++ "/" ++ r.path }

/-- Every route with its whole path. -/
def allRoutes : List GoRoute := routes.flatMap fun r => r.1 :: r.2.map (inside r.1)

/-- `state.namedLocation` of a route without parameters. -/
def namedLocation (name : String) : String :=
  ((allRoutes.find? fun r => r.name = name).map (·.path)).getD ""

/-- `String.startsWith`. -/
def startsWith (s pre : String) : Bool := pre.toList.isPrefixOf s.toList

/-- The fields of `AppService` that the redirect reads. -/
structure AppService where
  loginState : Bool := false
  initialized : Bool := false
  deriving DecidableEq

def redirect (appService : AppService) (matchedLocation : String) : Option String :=
  let taskLocation := namedLocation RouteNames.todayTask
  let loginLocation := namedLocation RouteNames.root
  let isLogedIn := appService.loginState
  let isInitialized := appService.initialized
  if startsWith matchedLocation ("/" ++ RouteNames.todayTask) then none
  else if matchedLocation = "/" ++ RouteNames.register then none
  else if startsWith matchedLocation ("/" ++ RouteNames.register2) then none
  else if !isInitialized && isLogedIn then some taskLocation
  else if !isInitialized && !isLogedIn then some loginLocation
  else none

/-- A location as a navigation or a link names it. -/
structure Uri where
  path : String
  query : String := ""
  deriving DecidableEq

/-- The redirects from a location; `none` is the error of too many of them. -/
def follow (appService : AppService) : Nat → Uri → Option Uri
  | 0, _ => none
  | limit + 1, uri =>
    match redirect appService uri.path with
    | none => some uri
    | some location =>
      -- a redirect to the location itself is none
      if ({ path := location } : Uri) = uri then some uri
      else follow appService limit { path := location }

/-- The default of `GoRouter.redirectLimit`. -/
def redirectLimit : Nat := 5

structure State where
  appService : AppService := {}
  location : Uri := { path := RouteNames.root }
  deriving DecidableEq

/-- What makes the router ask; `notify` stands for the setters of `AppService` that the redirect
does not read. -/
inductive Event where
  | navigate (uri : Uri)
  | setLoginState (state : Bool)
  | setInitialized (value : Bool)
  | notify

/-- `AppService` when the redirect runs. -/
def serviceAfter (s : State) : Event → AppService
  | .navigate _ => s.appService
  | .setLoginState state => { s.appService with loginState := state }
  | .setInitialized value => { s.appService with initialized := value }
  | .notify => s.appService

/-- The location the redirect is asked about. -/
def asked (s : State) : Event → Uri
  | .navigate uri => uri
  | _ => s.location

/-- The location the router ends at, `none` if the redirects do not end. -/
def reached (s : State) (e : Event) : Option Uri :=
  follow (serviceAfter s e) redirectLimit (asked s e)

def step (s : State) (e : Event) : Option State :=
  some ⟨serviceAfter s e, (reached s e).getD (asked s e)⟩

/-- The location is the given one or lies below it. -/
def Under (parent location : String) : Prop :=
  location = parent ∨ startsWith location (parent ++ "/") = true

def Registration (location : String) : Prop :=
  location = "/" ++ RouteNames.register ∨
    startsWith location ("/" ++ RouteNames.register2) = true

instance (parent : String) : DecidablePred (Under parent) := fun _ =>
  inferInstanceAs (Decidable (_ ∨ _))

instance : DecidablePred Registration := fun _ => inferInstanceAs (Decidable (_ ∨ _))

/-- The redirects end, under `/todayTask` only with a session, not at the login with one, and
where they began for a registration. -/
def Guarded (s : State) (e : Event) : Prop :=
  ∃ final, reached s e = some final ∧
    (Under ("/" ++ RouteNames.todayTask) final.path → (serviceAfter s e).loginState = true) ∧
    ((serviceAfter s e).loginState = true → (serviceAfter s e).initialized = false →
      final.path ≠ namedLocation RouteNames.root) ∧
    (Registration (asked s e).path → final = asked s e)

/-- The redirect is not asked about a page under `/todayTask` without a session. -/
def AskedWithSession (s : State) (e : Event) : Prop :=
  Under ("/" ++ RouteNames.todayTask) (asked s e).path → (serviceAfter s e).loginState = true

instance (s : State) (e : Event) : Decidable (AskedWithSession s e) :=
  inferInstanceAs (Decidable (_ → _))

theorem namedLocation_todayTask :
    namedLocation RouteNames.todayTask = "/" ++ RouteNames.todayTask := by decide

theorem namedLocation_root : namedLocation RouteNames.root = "/" := by decide

/-- The pages behind a session are exactly those whose routes lie under `/todayTask`. -/
theorem under_todayTask_iff : ∀ r ∈ allRoutes, Under ("/" ++ RouteNames.todayTask) r.path ↔
    r.page ∉ [Page.login, .registerStep1, .registerStep2] := by decide

theorem startsWith_of_under {parent location : String} (h : Under parent location) :
    startsWith location parent = true := by
  rcases h with rfl | h
  · exact List.isPrefixOf_iff_prefix.mpr (List.prefix_refl _)
  · rw [startsWith, List.isPrefixOf_iff_prefix] at h ⊢
    rw [String.toList_append] at h
    exact (List.prefix_append _ _).trans h

/-- A location that the tests of the redirect leave alone. -/
def LeftAlone (location : String) : Prop :=
  startsWith location ("/" ++ RouteNames.todayTask) = true ∨ Registration location

instance : DecidablePred LeftAlone := fun _ => inferInstanceAs (Decidable (_ ∨ _))

theorem redirect_of_leftAlone (appService : AppService) {location : String}
    (h : LeftAlone location) : redirect appService location = none := by
  rw [redirect]
  rcases h with h | h | h
  · rw [if_pos h]
  · simp only [h, if_true]
    split <;> rfl
  · simp only [h, if_true]
    split
    · rfl
    · split <;> rfl

theorem redirect_of_not_leftAlone (appService : AppService) {location : String}
    (h : ¬ LeftAlone location) :
    redirect appService location =
      if appService.initialized then none
      else if appService.loginState then some ("/" ++ RouteNames.todayTask) else some "/" := by
  simp only [LeftAlone, Registration, not_or] at h
  rw [redirect, if_neg h.1, if_neg h.2.1, if_neg h.2.2, namedLocation_todayTask,
    namedLocation_root]
  cases appService.initialized <;> cases appService.loginState <;> rfl

theorem not_leftAlone_root : ¬ LeftAlone "/" := by decide

theorem leftAlone_todayTask : LeftAlone ("/" ++ RouteNames.todayTask) := by decide

/-- Where the redirects end. -/
theorem follow_redirectLimit (appService : AppService) (uri : Uri) :
    follow appService redirectLimit uri =
      some (if LeftAlone uri.path ∨ appService.initialized = true then uri
        else { path := if appService.loginState then "/" ++ RouteNames.todayTask else "/" }) := by
  rw [redirectLimit, follow]
  by_cases alone : LeftAlone uri.path
  · simp [redirect_of_leftAlone appService alone, alone]
  · rw [redirect_of_not_leftAlone appService alone]
    cases hi : appService.initialized with
    | true => simp
    | false =>
      have moves : ¬ (LeftAlone uri.path ∨ false = true) := by simp [alone]
      rw [if_neg moves]
      cases hl : appService.loginState with
      | true =>
        have other : ({ path := "/" ++ RouteNames.todayTask } : Uri) ≠ uri := by
          rintro rfl
          exact alone leftAlone_todayTask
        simp [other, follow, redirect_of_leftAlone appService leftAlone_todayTask]
      | false =>
        by_cases same : ({ path := "/" } : Uri) = uri
        · simp [same]
        · simp [same, follow, redirect_of_not_leftAlone appService not_leftAlone_root, hi, hl]

/-- One question is answered as it should be iff no page behind a session is named without one. -/
theorem guarded_iff (s : State) (e : Event) : Guarded s e ↔ AskedWithSession s e := by
  rw [Guarded, reached, follow_redirectLimit]
  constructor
  · rintro ⟨final, hfinal, session, -, -⟩ hasked
    have alone : LeftAlone (asked s e).path := Or.inl (startsWith_of_under hasked)
    rw [if_pos (Or.inl alone)] at hfinal
    cases hfinal
    exact session hasked
  · intro hasked
    refine ⟨_, rfl, ?_, ?_, ?_⟩
    · split
      · exact hasked
      · cases hl : (serviceAfter s e).loginState with
        | true => exact fun _ => rfl
        | false => exact fun hunder => absurd hunder (by decide)
    · intro hl hi
      split
      · case isTrue h =>
        have alone := h.resolve_right (by simp [hi])
        intro hroot
        rw [hroot] at alone
        exact absurd alone (by decide)
      · decide
    · intro hregistration
      have alone : LeftAlone (asked s e).path := Or.inr hregistration
      rw [if_pos (Or.inl alone)]

/-- Over whole runs of navigations, links and changes of the session. -/
theorem guarded_run_iff (s : State) (es : List Event) :
    EveryStep step Guarded s es ↔ EveryStep step AskedWithSession s es :=
  everyStep_congr (fun s e _ _ => guarded_iff s e) s es

/-- A link to the detail page right after the start of the app, without a session. -/
theorem link_without_session :
    ¬ ∀ (s : State) (es : List Event), EveryStep step Guarded s es := by
  intro claim
  have hguarded := (claim {} [.navigate { path := "/todayTask/tasks_detail" }] _ rfl).1
  obtain ⟨final, hfinal, session, -, -⟩ := hguarded
  have stays : reached {} (.navigate { path := "/todayTask/tasks_detail" }) =
      some { path := "/todayTask/tasks_detail" } := by decide
  cases stays.symm.trans hfinal
  exact absurd (session (by decide)) (by decide)

end RouterGuard
