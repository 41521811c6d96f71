import AsmWt.Interleaving
import AsmWt.PendingCalls

/-!
# The session and the worker it names

A session is rebuilt at the start of the app from what Firebase and the
preferences kept. The two are written by different steps of signing in and
signing out, and the app can be killed between any two of them.
-/

namespace SessionStart

open Interleaving PendingCalls

/-- An employee who can sign in. -/
structure Worker where
  staffId : String
  nonempty : staffId ≠ ""
  deriving DecidableEq

/-- What is awaited: the code of either provider, the steps of a registration, the stored `userId`
and the other values of a session, of which `left` are still to come after this one, and the two
waits of a sign-out. -/
inductive Call where
  | signInWithCredential (signUp : Bool) (w : Worker)
  | verifyThaiBulkSmsOTP (signUp : Bool) (w : Worker)
  | signInAnonymously (signUp : Bool) (w : Worker)
  | deviceInfo (w : Worker)
  | createUserAccount (w : Worker)
  | incrementDevice (w : Worker)
  | setUserId (w : Worker)
  | setString (left : Nat)
  | signOut
  | delayed
  deriving DecidableEq

/-- `userId` is the stored preference and `firebaseUser` says whether Firebase keeps a user; the
rest ends with the process. -/
structure State where
  userId : Option String := none
  firebaseUser : Bool := false
  loginState : Bool := false
  calls : List Call := []

/-- `main` is a start of the app, after a kill at any moment; `verifyOTPFunc` is a code sent to
ThaiBulkSMS or to Firebase. -/
inductive Event where
  | main
  | verifyOTPFunc (isThaiBulkSms signUp : Bool) (w : Worker)
  | onSignOutPressed
  | resume (call : Nat) (ok : Bool)

namespace State

def await (s : State) (c : Call) : State := { s with calls := c :: s.calls }

/-- The check of `initState`. `currentUser` does not leave the process, so nothing comes between
the start and what is done with its answer. -/
def checkSession (s : State) : State :=
  if s.firebaseUser then
    if s.userId.isSome then { s with loginState := true } else s
  else { s with loginState := false }

/-- `processEmployeeSignUp` or `processEmployeeLogin`. -/
def processEmployee (s : State) (signUp : Bool) (w : Worker) : State :=
  if signUp then s.await (.deviceInfo w) else s.await (.setUserId w)

end State

/-- What follows a call once it is no longer in flight; `false` is an error or a refusal. -/
def resume (s : State) : Call → Bool → Option State
  | .signInWithCredential signUp w, true =>
    some (State.processEmployee { s with firebaseUser := true } signUp w)
  | .verifyThaiBulkSmsOTP signUp w, true => some (s.await (.signInAnonymously signUp w))
  | .signInAnonymously signUp w, true =>
    some (State.processEmployee { s with firebaseUser := true } signUp w)
  | .deviceInfo w, true => some (s.await (.createUserAccount w))
  | .createUserAccount w, true => some (s.await (.incrementDevice w))
  | .incrementDevice w, true => some (s.await (.setUserId w))
  | .signInWithCredential _ _, false | .verifyThaiBulkSmsOTP _ _, false
  | .signInAnonymously _ _, false | .deviceInfo _, false | .createUserAccount _, false
  | .incrementDevice _, false => some s
  -- four more values follow
  | .setUserId w, true => some (State.await { s with userId := some w.staffId } (.setString 3))
  | .setString 0, true => some { s with loginState := true }
  | .setString (left + 1), true => some (s.await (.setString left))
  -- `signOut` catches its error, and the continuation does not look at the result
  | .signOut, ok => some (State.await { s with firebaseUser := s.firebaseUser && !ok } .delayed)
  | .delayed, true => some { s with loginState := false, userId := some "" }
  | .setUserId _, false | .setString _, false | .delayed, false => none

def step (s : State) : Event → Option State
  | .main => some (State.checkSession { s with loginState := false, calls := [] })
  | .verifyOTPFunc isThaiBulkSms signUp w =>
    some (s.await (if isThaiBulkSms then .verifyThaiBulkSmsOTP signUp w
      else .signInWithCredential signUp w))
  | .onSignOutPressed => some (s.await .signOut)
  | .resume call ok => do
    let (c, rest) ← takeOut s.calls call
    resume { s with calls := rest } c ok

/-- A session names a worker. -/
def NamesWorker (s : State) : Prop :=
  s.loginState = true → ∃ userId, s.userId = some userId ∧ userId ≠ ""

/-- Firebase keeps a user and the preferences name nobody. -/
def Unnamed (s : State) : Prop := s.firebaseUser = true ∧ s.userId = some ""

/-- The app does not start while Firebase keeps a user for nobody, and no sign-out takes the name
away from a sign-in that is storing its session. -/
def StartsNamed (s : State) : Event → Prop
  | .main => ¬ Unnamed s
  | .resume call _ => ∀ c rest, takeOut s.calls call = some (c, rest) → c = .setString 0 →
      ∃ userId, s.userId = some userId ∧ userId ≠ ""
  | .verifyOTPFunc _ _ _ | .onSignOutPressed => True

theorem processEmployee_eq (s : State) (signUp : Bool) (w : Worker) :
    ∃ c, s.processEmployee signUp w = s.await c := by
  cases signUp with
  | true => exact ⟨_, rfl⟩
  | false => exact ⟨_, rfl⟩

/-- The start finds a session without a name iff Firebase keeps a user for nobody. -/
theorem namesWorker_checkSession_iff (s : State) :
    NamesWorker (State.checkSession { s with loginState := false, calls := [] }) ↔ ¬ Unnamed s := by
  rw [State.checkSession, Unnamed]
  cases hf : s.firebaseUser with
  | false => simp [NamesWorker]
  | true =>
    cases hu : s.userId with
    | none => simp [NamesWorker]
    | some userId => simp [NamesWorker]

/-- What follows a call keeps the name, but for the end of a sign-in, which needs one. -/
theorem namesWorker_resume_iff {s t : State} (h : NamesWorker s) {c : Call} {ok : Bool}
    (hr : resume s c ok = some t) :
    NamesWorker t ↔ (c = .setString 0 → ∃ userId, s.userId = some userId ∧ userId ≠ "") := by
  have other : c ≠ .setString 0 → NamesWorker t →
      (NamesWorker t ↔ (c = .setString 0 → ∃ userId, s.userId = some userId ∧ userId ≠ "")) :=
    fun hne ht => iff_of_true ht fun hc => absurd hc hne
  cases c with
  | signInWithCredential signUp w | signInAnonymously signUp w =>
    refine other nofun ?_
    cases ok <;> cases hr
    · exact h
    · obtain ⟨c, hc⟩ := processEmployee_eq { s with firebaseUser := true } signUp w
      rw [hc]
      exact h
  | verifyThaiBulkSmsOTP signUp w | deviceInfo w | createUserAccount w | incrementDevice w =>
    refine other nofun ?_
    cases ok <;> cases hr
    · exact h
    · exact h
  | setUserId w =>
    refine other nofun ?_
    cases ok <;> cases hr
    exact fun _ => ⟨w.staffId, rfl, w.nonempty⟩
  | setString left =>
    cases left with
    | zero =>
      cases ok <;> cases hr
      exact ⟨fun ht _ => ht rfl, fun hc _ => hc rfl⟩
    | succ left =>
      refine other nofun ?_
      cases ok <;> cases hr
      exact h
  | signOut =>
    cases hr
    exact other nofun h
  | delayed =>
    refine other nofun ?_
    cases ok <;> cases hr
    exact fun hl => absurd hl Bool.false_ne_true

theorem namesWorker_step_iff {s t : State} {e : Event} (h : NamesWorker s)
    (hstep : step s e = some t) : NamesWorker t ↔ StartsNamed s e := by
  cases e with
  | main =>
    cases hstep
    exact namesWorker_checkSession_iff s
  | verifyOTPFunc isThaiBulkSms signUp w =>
    cases hstep
    exact iff_of_true h trivial
  | onSignOutPressed =>
    cases hstep
    exact iff_of_true h trivial
  | resume call ok =>
    obtain ⟨⟨c, rest⟩, htake, hr⟩ := Option.bind_eq_some_iff.mp hstep
    rw [StartsNamed, forall_takeOut_iff (p := fun c _ => c = .setString 0 → _) htake]
    exact namesWorker_resume_iff (s := { s with calls := rest }) h hr

/-- The cut points: a user is kept for nobody only after a sign-out that Firebase did not carry out
and after a sign-in whose `userId` is not stored yet. -/
theorem unnamed_step {s t : State} {e : Event} (hstep : step s e = some t) (h : ¬ Unnamed s)
    (ht : Unnamed t) : ∃ call ok c rest, e = .resume call ok ∧
      takeOut s.calls call = some (c, rest) ∧
        (c = .delayed ∧ s.firebaseUser = true ∨ s.userId = some "" ∧
          ∃ signUp w, c = .signInWithCredential signUp w ∨ c = .signInAnonymously signUp w) := by
  cases e with
  | main =>
    refine absurd ?_ h
    cases hstep
    rw [State.checkSession] at ht
    split at ht
    · split at ht <;> exact ht
    · exact ht
  | verifyOTPFunc isThaiBulkSms signUp w =>
    cases hstep
    exact absurd ht h
  | onSignOutPressed =>
    cases hstep
    exact absurd ht h
  | resume call ok =>
    obtain ⟨⟨c, rest⟩, htake, hr⟩ := Option.bind_eq_some_iff.mp hstep
    refine ⟨call, ok, c, rest, rfl, htake, ?_⟩
    cases c with
    | signInWithCredential signUp w =>
      cases ok <;> cases hr
      · exact absurd ht h
      · obtain ⟨c, hc⟩ := processEmployee_eq
          { s with firebaseUser := true, calls := rest } signUp w
        have hu : Unnamed (State.await { s with firebaseUser := true, calls := rest } c) := hc ▸ ht
        exact Or.inr ⟨hu.2, signUp, w, Or.inl rfl⟩
    | signInAnonymously signUp w =>
      cases ok <;> cases hr
      · exact absurd ht h
      · obtain ⟨c, hc⟩ := processEmployee_eq
          { s with firebaseUser := true, calls := rest } signUp w
        have hu : Unnamed (State.await { s with firebaseUser := true, calls := rest } c) := hc ▸ ht
        exact Or.inr ⟨hu.2, signUp, w, Or.inr rfl⟩
    | verifyThaiBulkSmsOTP signUp w | deviceInfo w | createUserAccount w | incrementDevice w =>
      cases ok <;> cases hr
      · exact absurd ht h
      · exact absurd ht h
    | setUserId w =>
      cases ok <;> cases hr
      exact absurd (Option.some.inj ht.2) w.nonempty
    | setString left =>
      cases left with
      | zero =>
        cases ok <;> cases hr
        exact absurd ht h
      | succ left =>
        cases ok <;> cases hr
        exact absurd ht h
    | signOut =>
      cases hr
      have hu : (s.firebaseUser && !ok) = true ∧ s.userId = some "" := ht
      exact absurd ⟨(Bool.and_eq_true_iff.mp hu.1).1, hu.2⟩ h
    | delayed =>
      cases ok <;> cases hr
      exact Or.inl ⟨rfl, ht.1⟩

/-- Over every run from an installation on. -/
theorem namesWorker_run_iff (es : List Event) :
    EveryState step NamesWorker {} es ↔ EveryStep step StartsNamed {} es :=
  everyState_iff_everyStep (fun _ _ _ h hstep => namesWorker_step_iff h hstep)
    (fun hl => absurd hl Bool.false_ne_true) es

/-- Firebase fails to sign a worker out, and the app is started again. -/
theorem start_after_failed_signOut :
    ¬ ∀ es : List Event, EveryState step NamesWorker {} es := by
  intro claim
  refine not_everyState_of_run (fun t => t.loginState && t.userId == some "") ?_ ?_
    (claim [.main, .verifyOTPFunc false false ⟨"e1", by decide⟩, .resume 0 true, .resume 0 true,
      .resume 0 true, .resume 0 true, .resume 0 true, .resume 0 true, .onSignOutPressed,
      .resume 0 false, .resume 0 true, .main])
  · intro t hbad hnamed
    obtain ⟨hl, hu⟩ := Bool.and_eq_true_iff.mp hbad
    obtain ⟨userId, huser, hne⟩ := hnamed hl
    rw [huser] at hu
    exact hne (Option.some.inj (eq_of_beq hu))
  · decide

end SessionStart
