import AsmWt.Interleaving
import AsmWt.PendingCalls

/-!
# The position listener of `main`

`main` reads the stored tracking flag and employee id when the process starts
and, when the flag is on, listens to positions until the process ends. Signing
in, signing out and the switch in the settings change the stored values; none
of them reaches the listener.
-/

namespace Tracking

open Interleaving PendingCalls

/-- What is awaited: the session check of `initState`, the stored `userId` and `tracking` on the
way to `loginState`, and the two waits of a sign-out. -/
inductive Call where
  | currentUser
  | setString
  | setBool
  | signOut
  | delayed
  deriving DecidableEq

/-- `userId` and `tracking` are the stored preferences and `firebaseUser` says whether Firebase
keeps a user; the rest ends with the process. `listener` is the `driverId` it captured, and
`reports` are the ids under which `current_location` was written. -/
structure State where
  userId : Option String := none
  tracking : Option Bool := none
  firebaseUser : Bool := false
  loginState : Bool := false
  listener : Option (Option String) := none
  calls : List Call := []
  reports : List (Option String) := []

/-- `storeSession` is the end both of `processEmployeeLogin` and of a successful
`processEmployeeSignUp`. -/
inductive Event where
  | main
  | signInWithCredential
  | storeSession (staffId : String)
  | onSignOutPressed
  | onTrackingChanged (val : Bool)
  | resume (call : Nat) (ok : Bool)
  | position

namespace State

def await (s : State) (c : Call) : State := { s with calls := c :: s.calls }

/-- The callback that `onSignOutPressed` delays. -/
def clearSession (s : State) : State :=
  { s with loginState := false, userId := some "", tracking := some false }

end State

/-- What follows a call once it is no longer in flight. -/
def resume (s : State) : Call → Bool → Option State
  | .currentUser, true =>
    if s.firebaseUser then
      if s.userId.isSome then some { s with loginState := true } else some s
    else some { s with loginState := false }
  | .setString, true => some (State.await { s with tracking := some true } .setBool)
  | .setBool, true => some { s with loginState := true }
  -- `signOut` catches its error, and the continuation does not look at the result
  | .signOut, ok => some (State.await { s with firebaseUser := s.firebaseUser && !ok } .delayed)
  | .delayed, true => some s.clearSession
  | .currentUser, false | .setString, false | .setBool, false | .delayed, false => none

def step (s : State) : Event → Option State
  | .main =>
    some { s with
      loginState := false
      listener := if s.tracking.getD false then some s.userId else none
      calls := [.currentUser] }
  | .signInWithCredential => some { s with firebaseUser := true }
  | .storeSession staffId => some (State.await { s with userId := some staffId } .setString)
  | .onSignOutPressed => some (s.await .signOut)
  | .onTrackingChanged val => some { s with tracking := some val }
  | .resume call ok => do
    let (c, rest) ← takeOut s.calls call
    resume { s with calls := rest } c ok
  | .position => do
    let driverId ← s.listener
    return { s with reports := driverId :: s.reports }

/-- The employee is the one signed in, with tracking on. -/
def InSession (s : State) (employee : String) : Prop :=
  employee ≠ "" ∧ s.loginState = true ∧ s.userId = some employee ∧ s.tracking = some true

/-- Every report of the step is one of the employee signed in. -/
def ReportsInSession (s t : State) : Prop :=
  t.reports = s.reports ∨
    ∃ employee, t.reports = some employee :: s.reports ∧ InSession s employee

/-- What may happen to a call while a listener runs. -/
def CallAllowed (s : State) : Call → Prop
  | .currentUser => s.firebaseUser = true
  | .delayed => False
  | .setString | .setBool | .signOut => True

/-- The listener starts for a stored employee whom Firebase still has signed in, no position
comes before that was checked, and while it runs no sign-out completes, the switch is not
turned off and nobody else signs in. -/
def OneSession (s : State) : Event → Prop
  | .main => s.tracking = some true → ∃ employee ∈ s.userId, employee ≠ ""
  | .storeSession staffId => s.listener.isSome = true → s.userId = some staffId
  | .onTrackingChanged val => s.listener.isSome = true → val = true
  | .resume call _ =>
    s.listener.isSome = true → ∀ x ∈ takeOut s.calls call, CallAllowed s x.1
  | .position => .currentUser ∉ s.calls
  | .signInWithCredential | .onSignOutPressed => True

/-- The listener reports for the employee that is stored, who is signed in once the session
check is done. -/
def Inv (s : State) : Prop :=
  ∀ driverId ∈ s.listener, ∃ employee, driverId = some employee ∧ employee ≠ "" ∧
    s.userId = some employee ∧ s.tracking = some true ∧
      (s.loginState = true ∨ .currentUser ∈ s.calls)

theorem isSome_listener {s : State} {driverId : Option String} (h : driverId ∈ s.listener) :
    s.listener.isSome = true := by
  rw [Option.mem_def.mp h]
  rfl

/-- A running listener outlives every change that keeps the stored session. -/
theorem Inv.frame {s t : State} (h : Inv s) (listener : t.listener = s.listener)
    (session : s.listener.isSome = true → s.userId.isSome = true → s.tracking = some true →
      t.userId = s.userId ∧ t.tracking = some true)
    (login : s.listener.isSome = true → s.userId.isSome = true →
      (s.loginState = true ∨ .currentUser ∈ s.calls) →
        t.loginState = true ∨ .currentUser ∈ t.calls) : Inv t := by
  intro driverId hl
  rw [listener] at hl
  have hsome := isSome_listener hl
  obtain ⟨employee, hid, hne, huser, htracking, hlogin⟩ := h driverId hl
  have hstored : s.userId.isSome = true := by
    rw [huser]
    rfl
  obtain ⟨huser', htracking'⟩ := session hsome hstored htracking
  exact ⟨employee, hid, hne, huser'.trans huser, htracking', login hsome hstored hlogin⟩

theorem Inv.await {s : State} (h : Inv s) (c : Call) : Inv (s.await c) :=
  h.frame rfl (fun _ _ ht => ⟨rfl, ht⟩) fun _ _ hl => hl.imp id (List.mem_cons_of_mem c)

theorem mem_rest {calls rest : List Call} {i : Nat} {c d : Call}
    (h : takeOut calls i = some (c, rest)) (hd : d ∈ calls) (hne : d ≠ c) : d ∈ rest := by
  rcases List.mem_cons.mp ((takeOut_perm h).mem_iff.mp hd) with hdc | hd
  · exact absurd hdc hne
  · exact hd

/-- Every call that is allowed keeps the invariant. -/
theorem resume_inv {s t : State} (h : Inv s) {i : Nat} {c : Call} {rest : List Call} {ok : Bool}
    (ht : takeOut s.calls i = some (c, rest))
    (allowed : s.listener.isSome = true → CallAllowed s c)
    (hr : resume { s with calls := rest } c ok = some t) : Inv t := by
  -- any other call leaves the session check in flight
  have without : c ≠ .currentUser → Inv { s with calls := rest } := fun hne =>
    h.frame rfl (fun _ _ ht => ⟨rfl, ht⟩) fun _ _ hl => hl.imp id fun hm => mem_rest ht hm hne.symm
  cases c with
  | currentUser =>
    cases ok with
    | false => cases hr
    | true =>
      have hlistener : t.listener = s.listener ∧ t.userId = s.userId ∧ t.tracking = s.tracking := by
        simp only [resume] at hr
        split at hr
        · split at hr <;> cases hr <;> exact ⟨rfl, rfl, rfl⟩
        · cases hr
          exact ⟨rfl, rfl, rfl⟩
      obtain ⟨hl, hu, htr⟩ := hlistener
      refine h.frame hl (fun _ _ htracking => ⟨hu, htr.trans htracking⟩) fun hsome hstored _ => ?_
      have hfirebase : s.firebaseUser = true := allowed hsome
      simp only [resume, hfirebase, hstored, if_true] at hr
      cases hr
      exact Or.inl rfl
  | setString =>
    cases ok with
    | false => cases hr
    | true =>
      cases hr
      refine Inv.await ?_ _
      exact (without nofun).frame rfl (fun _ _ _ => ⟨rfl, rfl⟩) fun _ _ hl => hl
  | setBool =>
    cases ok with
    | false => cases hr
    | true =>
      cases hr
      exact (without nofun).frame rfl (fun _ _ ht => ⟨rfl, ht⟩) fun _ _ _ => Or.inl rfl
  | signOut =>
    cases hr
    refine Inv.await ?_ _
    exact (without nofun).frame rfl (fun _ _ ht => ⟨rfl, ht⟩) fun _ _ hl => hl
  | delayed =>
    cases ok with
    | false => cases hr
    | true =>
      cases hr
      intro driverId hl
      exact (allowed (isSome_listener hl)).elim

theorem step_inv {s t : State} {e : Event} (h : Inv s) (allowed : OneSession s e)
    (hstep : step s e = some t) : Inv t := by
  cases e with
  | main =>
    cases hstep
    intro driverId hl
    have hl : (if s.tracking.getD false then some s.userId else none) = some driverId := hl
    split at hl
    · case isTrue hon =>
      cases hl
      have htracking : s.tracking = some true := by
        cases htr : s.tracking with
        | none =>
          rw [htr] at hon
          cases hon
        | some b =>
          rw [htr] at hon
          rw [show b = true from hon]
      obtain ⟨employee, huser, hne⟩ := allowed htracking
      exact ⟨employee, huser, hne, huser, htracking, Or.inr List.mem_cons_self⟩
    · cases hl
  | signInWithCredential =>
    cases hstep
    exact h.frame rfl (fun _ _ ht => ⟨rfl, ht⟩) fun _ _ hl => hl
  | storeSession staffId =>
    cases hstep
    refine Inv.await ?_ _
    exact h.frame rfl (fun hsome _ ht => ⟨(allowed hsome).symm, ht⟩) fun _ _ hl => hl
  | onSignOutPressed =>
    cases hstep
    exact h.await _
  | onTrackingChanged val =>
    cases hstep
    refine h.frame rfl (fun hsome _ _ => ⟨rfl, ?_⟩) fun _ _ hl => hl
    rw [← allowed hsome]
  | resume call ok =>
    obtain ⟨⟨c, rest⟩, ht, hstep⟩ := Option.bind_eq_some_iff.mp hstep
    exact resume_inv h ht (fun hsome => allowed hsome (c, rest) ht) hstep
  | position =>
    obtain ⟨driverId, hl, hstep⟩ := Option.bind_eq_some_iff.mp hstep
    cases hstep
    exact h.frame rfl (fun _ _ ht => ⟨rfl, ht⟩) fun _ _ hl => hl

theorem resume_reports {s t : State} {c : Call} {ok : Bool} (h : resume s c ok = some t) :
    t.reports = s.reports := by
  cases c with
  | currentUser =>
    cases ok with
    | false => cases h
    | true =>
      simp only [resume] at h
      split at h
      · split at h <;> cases h <;> rfl
      · cases h
        rfl
  | signOut =>
    cases h
    rfl
  | _ =>
    cases ok with
    | false => cases h
    | true =>
      cases h
      rfl

/-- Only a position is reported, for the employee the listener was started for. -/
theorem step_reports {s t : State} {e : Event} (h : Inv s) (allowed : OneSession s e)
    (hstep : step s e = some t) : ReportsInSession s t := by
  cases e with
  | position =>
    obtain ⟨driverId, hl, hstep⟩ := Option.bind_eq_some_iff.mp hstep
    cases hstep
    obtain ⟨employee, rfl, hne, huser, htracking, hlogin⟩ := h driverId hl
    have hin : s.loginState = true := hlogin.resolve_right allowed
    exact Or.inr ⟨employee, rfl, hne, hin, huser, htracking⟩
  | resume call ok =>
    obtain ⟨⟨c, rest⟩, -, hstep⟩ := Option.bind_eq_some_iff.mp hstep
    exact Or.inl (resume_reports (s := { s with calls := rest }) hstep)
  | _ =>
    cases hstep
    exact Or.inl rfl

/-- Whatever the order of starts, sessions, switches and positions: when no session ends or
changes under a running listener, every report is one of the employee signed in. -/
theorem reports_in_session {es : List Event} (oneSession : EveryStep step OneSession {} es) :
    EveryStep step (Moves step ReportsInSession) {} es := by
  refine everyStep_of_everyStep (fun _ _ _ (h : Inv _) hc ht => step_inv h hc ht)
    (fun s e t h hc ht => ?_) nofun oneSession
  exact (moves_iff ht).mpr (step_reports h hc ht)

instance (s : State) : ∀ c, Decidable (CallAllowed s c)
  | .currentUser => inferInstanceAs (Decidable (s.firebaseUser = true))
  | .delayed => isFalse id
  | .setString | .setBool | .signOut => isTrue trivial

instance (s : State) : ∀ e, Decidable (OneSession s e)
  | .main =>
    inferInstanceAs (Decidable (s.tracking = some true → ∃ employee ∈ s.userId, employee ≠ ""))
  | .storeSession staffId =>
    inferInstanceAs (Decidable (s.listener.isSome = true → s.userId = some staffId))
  | .onTrackingChanged val => inferInstanceAs (Decidable (s.listener.isSome = true → val = true))
  | .resume call _ =>
    inferInstanceAs (Decidable (s.listener.isSome = true →
      ∀ x ∈ takeOut s.calls call, CallAllowed s x.1))
  | .position => inferInstanceAs (Decidable (.currentUser ∉ s.calls))
  | .signInWithCredential | .onSignOutPressed => isTrue trivial

/-- The employee signs in and the app is started again, which starts the listener. -/
def signedIn (staffId : String) : List Event :=
  [.main, .resume 0 true, .signInWithCredential, .storeSession staffId, .resume 0 true,
    .resume 0 true, .main, .resume 0 true]

theorem reports_in_session_single :
    EveryStep step OneSession {} (signedIn "e1" ++ [.position]) ∧
      EveryStep step (Moves step ReportsInSession) {} (signedIn "e1" ++ [.position]) ∧
      (run step {} (signedIn "e1" ++ [.position])).any
        (fun t => t.reports = [some "e1"]) = true := by
  have oneSession : EveryStep step OneSession {} (signedIn "e1" ++ [.position]) := by decide
  exact ⟨oneSession, reports_in_session oneSession, by decide⟩

/-- After the employee has signed out, the next position is still written to their record. -/
theorem signed_out_employee_is_reported :
    ¬ ∀ es : List Event, EveryStep step (Moves step ReportsInSession) {} es := by
  intro claim
  refine not_everyStep_of_run
    (fun s t => s.loginState = false ∧ t.reports.length = s.reports.length + 1) ?_ ?_
    (claim (signedIn "e1" ++ [.onSignOutPressed, .resume 0 true, .resume 0 true] ++ [.position]))
  · intro s t ht hbad hmoves
    obtain ⟨hlogin, hlength⟩ := of_decide_eq_true hbad
    rcases (moves_iff ht).mp hmoves with hsame | ⟨employee, -, -, hin, -⟩
    · rw [hsame] at hlength
      omega
    · rw [hlogin] at hin
      cases hin
  · decide

end Tracking
