import AsmWt.Interleaving
import AsmWt.PendingCalls
import AsmWt.DeviceGate

/-!
# The sign-out that a failed check starts

Every `TasksRootView` listens to the record of the employee it was opened for
and never stops. A snapshot is checked once the device is known; a record that
fails starts a sign-out, which clears the session after a delay. Neither the
listener nor the sign-out looks at who is signed in by then.
-/

namespace ForcedSignOut

open Firestore Employees DeviceGate Interleaving PendingCalls

/-- A `TasksRootView` with its listener, which outlives the page. -/
structure Page where
  employee : String
  mounted : Bool := true

/-- What is awaited: the device on the way to the check of a snapshot, the end of a sign-in, and
the three waits of a sign-out. -/
inductive Call where
  | getDeviceInfo (page : Nat) (docs : List (String × Doc))
  | setString
  | getInstance
  | signOut
  | delayed

/-- A sign-out that was started: by the failed snapshot of an employee or by the button, and who
was signed in. -/
structure SignOut where
  failed : Option String
  signedIn : Option String
  deriving DecidableEq

/-- `signOuts` are those of the current session, from one sign-in to the next. -/
structure State where
  userId : Option String := none
  loginState : Bool := false
  pages : List Page := []
  calls : List Call := []
  signOuts : List SignOut := []

inductive Event where
  | storeSession (staffId : String)
  | openPage
  | dispose (page : Nat)
  | snapshot (page : Nat) (docs : List (String × Doc))
  | onSignOutPressed
  | resume (call : Nat) (ok : Bool)

namespace State

def await (s : State) (c : Call) : State := { s with calls := c :: s.calls }

/-- Whom the device has signed in. -/
def signedIn (s : State) : Option String := if s.loginState then s.userId else none

/-- `MyAccountController.onSignOutPressed`. -/
def onSignOutPressed (s : State) (failed : Option String) : State :=
  State.await { s with signOuts := ⟨failed, s.signedIn⟩ :: s.signOuts } .getInstance

end State

/-- The loop of `_handleEmployeeUpdates` with `_validateEmployeeAndDevice`. An exception ends it:
of the decoding, of `isActivated!`, or of the `context` of a page that is gone. -/
def handleEmployeeUpdates (device : Device) (page : Page) : List (String × Doc) → State → State
  | [], s => s
  | doc :: docs, s =>
    match fromDocumentSnapshot doc.1 doc.2 with
    | none => s
    | some employee =>
      match validateEmployeeAndDevice employee device with
      | .passes => handleEmployeeUpdates device page docs s
      | .authenticationFailure _ =>
        if page.mounted then
          handleEmployeeUpdates device page docs (s.onSignOutPressed (some page.employee))
        else s
      | .nullCheckFails => s

/-- What follows a call once it is no longer in flight. -/
def resume (device : Device) (s : State) : Call → Bool → Option State
  | .getDeviceInfo page docs, true =>
    (s.pages[page]?).map fun p => handleEmployeeUpdates device p docs s
  | .getDeviceInfo _ _, false => some s
  | .setString, true => some { s with loginState := true, signOuts := [] }
  | .getInstance, true => some (s.await .signOut)
  -- `signOut` catches its error, and the continuation does not look at the result
  | .signOut, _ => some (s.await .delayed)
  | .delayed, true => some { s with loginState := false, userId := some "" }
  -- the context of the page the sign-out was started from
  | .delayed, false => some s
  | .setString, false | .getInstance, false => none

def step (device : Device) (s : State) : Event → Option State
  | .storeSession staffId => some (State.await { s with userId := some staffId } .setString)
  | .openPage => do
    let employee ← s.signedIn
    return { s with pages := s.pages ++ [{ employee }] }
  | .dispose page =>
    some { s with pages := s.pages.modify page fun p => { p with mounted := false } }
  | .snapshot page docs => do
    let p ← s.pages[page]?
    if Matches (some docs) "employee_id" p.employee then
      return if docs.isEmpty then s else s.await (.getDeviceInfo page docs)
    else none
  | .onSignOutPressed => some (s.onSignOutPressed none)
  | .resume call ok => do
    let (c, rest) ← takeOut s.calls call
    resume device { s with calls := rest } c ok

/-- At most one sign-out was started in the session, and one that a failed check started was
started while the employee that failed it was signed in. -/
structure BoundToSession (s : State) : Prop where
  one : s.signOuts.length ≤ 1
  own : ∀ x ∈ s.signOuts, ∀ employee, x.failed = some employee → x.signedIn = some employee

/-- How many records of a snapshot fail the check before one that cannot be checked. -/
def failures (device : Device) : List (String × Doc) → Nat
  | [] => 0
  | doc :: docs =>
    match (fromDocumentSnapshot doc.1 doc.2).map fun employee =>
      validateEmployeeAndDevice employee device with
    | some .passes => failures device docs
    | some (.authenticationFailure _) => failures device docs + 1
    | some .nullCheckFails | none => 0

/-- What a snapshot may bring when it is checked on a page: no failing record, or a single one
that belongs to the employee signed in, before any sign-out of the session. -/
def MayCheck (device : Device) (s : State) (page : Page) (docs : List (String × Doc)) : Prop :=
  page.mounted = true → failures device docs = 0 ∨
    failures device docs = 1 ∧ s.signOuts = [] ∧ s.signedIn = some page.employee

def CallAllowed (device : Device) (s : State) : Call → Bool → Prop
  | .getDeviceInfo page docs, true => ∀ p, s.pages[page]? = some p → MayCheck device s p docs
  | _, _ => True

/-- A failing record is checked, on a page that is still there, only while its employee is signed
in and no sign-out was started in the session, and the button is not pressed after one. -/
def InSession (device : Device) (s : State) : Event → Prop
  | .onSignOutPressed => s.signOuts = []
  | .resume call ok =>
    ∀ c rest, takeOut s.calls call = some (c, rest) →
      CallAllowed device { s with calls := rest } c ok
  | .storeSession _ | .openPage | .dispose _ | .snapshot _ _ => True

theorem failures_cons (device : Device) (doc : String × Doc) (docs : List (String × Doc)) :
    failures device (doc :: docs) =
      match (fromDocumentSnapshot doc.1 doc.2).map fun employee =>
        validateEmployeeAndDevice employee device with
      | some .passes => failures device docs
      | some (.authenticationFailure _) => failures device docs + 1
      | some .nullCheckFails | none => 0 := rfl

@[simp] theorem signedIn_onSignOutPressed (s : State) (failed : Option String) :
    (s.onSignOutPressed failed).signedIn = s.signedIn := rfl

/-- A page that is there starts one sign-out for each failing record. -/
theorem handle_signOuts (device : Device) {page : Page} (mounted : page.mounted = true)
    (docs : List (String × Doc)) (s : State) :
    (handleEmployeeUpdates device page docs s).signOuts =
      List.replicate (failures device docs) ⟨some page.employee, s.signedIn⟩ ++ s.signOuts := by
  induction docs generalizing s with
  | nil => rfl
  | cons doc docs ih =>
    rw [handleEmployeeUpdates, failures_cons]
    cases fromDocumentSnapshot doc.1 doc.2 with
    | none => rfl
    | some employee =>
      simp only [Option.map_some]
      cases validateEmployeeAndDevice employee device with
      | passes => exact ih s
      | authenticationFailure messageKey =>
        simp only [mounted, if_true]
        rw [ih, signedIn_onSignOutPressed, List.replicate_succ', List.append_assoc]
        rfl
      | nullCheckFails => rfl

/-- A page that is gone starts none. -/
theorem handle_unmounted (device : Device) {page : Page} (unmounted : page.mounted = false)
    (docs : List (String × Doc)) (s : State) : handleEmployeeUpdates device page docs s = s := by
  induction docs with
  | nil => rfl
  | cons doc docs ih =>
    rw [handleEmployeeUpdates]
    cases fromDocumentSnapshot doc.1 doc.2 with
    | none => rfl
    | some employee =>
      simp only []
      cases validateEmployeeAndDevice employee device with
      | passes => exact ih
      | authenticationFailure messageKey => simp [unmounted]
      | nullCheckFails => rfl

/-- The property is about the sign-outs of the session only. -/
theorem BoundToSession.congr {s t : State} (h : BoundToSession s) (hs : t.signOuts = s.signOuts) :
    BoundToSession t := by
  obtain ⟨one, own⟩ := h
  rw [← hs] at one own
  exact ⟨one, own⟩

theorem boundToSession_nil {s : State} (hs : s.signOuts = []) : BoundToSession s := by
  constructor
  · rw [hs]
    exact Nat.zero_le 1
  · intro x hx
    rw [hs] at hx
    cases hx

/-- Some equal sign-outs more are allowed if there is at most one, rightly started. -/
theorem boundToSession_replicate_iff {s t : State} (h : BoundToSession s) {n : Nat} {x : SignOut}
    (hs : t.signOuts = List.replicate n x ++ s.signOuts) :
    BoundToSession t ↔ n = 0 ∨ n = 1 ∧ s.signOuts = [] ∧
      ∀ employee, x.failed = some employee → x.signedIn = some employee := by
  have hlength : t.signOuts.length = n + s.signOuts.length := by
    rw [hs, List.length_append, List.length_replicate]
  constructor
  · rintro ⟨one, own⟩
    by_cases hn : n = 0
    · exact Or.inl hn
    · refine Or.inr ⟨by omega, List.eq_nil_of_length_eq_zero (by omega), own x ?_⟩
      rw [hs]
      exact List.mem_append_left _ (List.mem_replicate.mpr ⟨hn, rfl⟩)
  · rintro (rfl | ⟨rfl, hnil, hx⟩)
    · exact h.congr hs
    · rw [hnil, List.append_nil] at hs
      constructor
      · rw [hs]
        exact Nat.le_refl 1
      · intro y hy
        rw [hs] at hy
        rw [List.mem_singleton.mp hy]
        exact hx

theorem handle_bound_iff {device : Device} {s : State} (h : BoundToSession s) (page : Page)
    (docs : List (String × Doc)) :
    BoundToSession (handleEmployeeUpdates device page docs s) ↔ MayCheck device s page docs := by
  cases hm : page.mounted with
  | false =>
    rw [handle_unmounted device hm]
    exact ⟨fun _ hmounted => absurd (hm.symm.trans hmounted) (by decide), fun _ => h⟩
  | true =>
    rw [boundToSession_replicate_iff h (handle_signOuts device hm docs s)]
    simp [MayCheck, hm]

theorem resume_bound_iff {device : Device} {s t : State} (h : BoundToSession s) {c : Call}
    {ok : Bool} (hr : resume device s c ok = some t) :
    BoundToSession t ↔ CallAllowed device s c ok := by
  cases c with
  | getDeviceInfo page docs =>
    cases ok with
    | false =>
      cases hr
      exact iff_of_true h trivial
    | true =>
      obtain ⟨p, hp, rfl⟩ := Option.map_eq_some_iff.mp hr
      rw [handle_bound_iff h]
      constructor
      · intro hmay q hq
        cases hp.symm.trans hq
        exact hmay
      · exact fun hall => hall p hp
  | setString =>
    cases ok with
    | false => cases hr
    | true =>
      cases hr
      exact iff_of_true (boundToSession_nil rfl) trivial
  | getInstance =>
    cases ok with
    | false => cases hr
    | true =>
      cases hr
      exact iff_of_true (h.congr rfl) trivial
  | signOut =>
    cases hr
    exact iff_of_true (h.congr rfl) trivial
  | delayed =>
    cases ok with
    | false =>
      cases hr
      exact iff_of_true h trivial
    | true =>
      cases hr
      exact iff_of_true (h.congr rfl) trivial

theorem step_bound_iff {device : Device} {s t : State} {e : Event} (h : BoundToSession s)
    (hstep : step device s e = some t) : BoundToSession t ↔ InSession device s e := by
  cases e with
  | storeSession staffId =>
    cases hstep
    exact iff_of_true (h.congr rfl) trivial
  | openPage =>
    obtain ⟨employee, -, hstep⟩ := Option.bind_eq_some_iff.mp hstep
    cases hstep
    exact iff_of_true (h.congr rfl) trivial
  | dispose page =>
    cases hstep
    exact iff_of_true (h.congr rfl) trivial
  | snapshot page docs =>
    obtain ⟨p, -, hstep⟩ := Option.bind_eq_some_iff.mp hstep
    refine ⟨fun _ => trivial, fun _ => h.congr ?_⟩
    split at hstep
    · cases hstep
      split <;> rfl
    · cases hstep
  | onSignOutPressed =>
    cases hstep
    rw [boundToSession_replicate_iff h (n := 1) (x := ⟨none, s.signedIn⟩) rfl]
    simp [InSession]
  | resume call ok =>
    obtain ⟨⟨c, rest⟩, ht, hstep⟩ := Option.bind_eq_some_iff.mp hstep
    have hrest : BoundToSession { s with calls := rest } := h.congr rfl
    rw [resume_bound_iff hrest hstep]
    exact (forall_takeOut_iff
      (p := fun c rest => CallAllowed device { s with calls := rest } c ok) ht).symm

/-- The forced sign-outs are bound to their sessions in every state of a run exactly when failing
records are checked in time. -/
theorem boundToSession_iff (device : Device) (es : List Event) :
    EveryState (step device) BoundToSession {} es ↔
      EveryStep (step device) (InSession device) {} es :=
  everyState_iff_everyStep (fun _ _ _ h hstep => step_bound_iff h hstep) (boundToSession_nil rfl) es

/-- An employee whose account was deactivated. -/
def deactivated : String × Doc :=
  ("e1", KeyedRecord.update (fun _ => .null)
    [("employee_id", .str "e1"), ("isActivated", .bool false)])

/-- The employee signs in, the page opens, and the record is delivered and fails its check. -/
def failsCheck : List Event :=
  [.storeSession "e1", .resume 0 true, .openPage, .snapshot 0 [deactivated], .resume 0 true]

/-- The record changes again while the sign-out that its first change started waits. -/
theorem second_snapshot_starts_second_sign_out :
    ¬ ∀ (device : Device) (es : List Event),
        EveryState (step device) BoundToSession {} es := by
  intro claim
  refine not_everyState_of_run (fun t => t.signOuts.length = 2) ?_ ?_
    (claim (.android "A1") (failsCheck ++ [.snapshot 0 [deactivated], .resume 0 true]))
  · intro t hbad h
    have two : t.signOuts.length = 2 := of_decide_eq_true hbad
    have one := h.one
    omega
  · decide

end ForcedSignOut
