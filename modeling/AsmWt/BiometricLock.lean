import AsmWt.Interleaving
import AsmWt.PendingCalls

/-!
# The biometric lock

A start of the app with a stored session shows its pages at once or, if the
preferences ask for it, after a scan; a scan that fails ends the app. Signing in
opens the pages too, and switches the scan off for the starts to come.
-/

namespace BiometricLock

open Interleaving PendingCalls

/-- What is awaited: the session check, the scan, the stored values of a sign-in, of which `left`
are still to come before the one that switches the scan off, and the two waits of a sign-out. -/
inductive Call where
  | currentUser
  | authenticate
  | setUserId (staffId : String)
  | setString (left : Nat)
  | setBioScan
  | signOut
  | delayed
  deriving DecidableEq

/-- `userId` and `bioScan` are the stored preferences and `firebaseUser` says whether Firebase keeps
a user; the rest ends with the process. Beside them, what has opened the pages in this process, what
the session check found under `bioScan`, and whether anybody signed in in an earlier process. -/
structure State where
  userId : Option String := none
  bioScan : Option Bool := none
  firebaseUser : Bool := false
  running : Bool := false
  loginState : Bool := false
  bioAuth : Bool := false
  calls : List Call := []
  scanned : Bool := false
  signedIn : Bool := false
  found : Option Bool := none
  signedInBefore : Bool := false

/-- `main` is a start of the app, after a kill at any moment; `storeSession` is the end both of
`processEmployeeLogin` and of a successful `processEmployeeSignUp`. -/
inductive Event where
  | main
  | signInWithCredential
  | storeSession (staffId : String)
  | onSignOutPressed
  | resume (call : Nat) (ok : Bool)

namespace State

def await (s : State) (c : Call) : State := { s with calls := c :: s.calls }

/-- The process ends, by `exit` or from outside. -/
def exit (s : State) : State :=
  { s with
    running := false
    loginState := false
    bioAuth := false
    calls := []
    scanned := false
    signedIn := false
    found := none
    signedInBefore := s.signedInBefore || s.signedIn }

/-- The check of `initState`. -/
def checkSession (s : State) : State :=
  if s.firebaseUser then
    if s.userId.isSome then
      if s.bioScan.getD false then
        State.await { s with loginState := true, found := some true } .authenticate
      else { s with loginState := true, bioAuth := true, found := some false }
    else s
  else { s with loginState := false }

end State

/-- What follows a call once it is no longer in flight; `false` is an error or a refusal. -/
def resume (s : State) : Call → Bool → Option State
  | .currentUser, true => some s.checkSession
  | .authenticate, true => some { s with bioAuth := true, scanned := true }
  | .authenticate, false => some s.exit
  | .setUserId staffId, true => some (State.await { s with userId := some staffId } (.setString 2))
  | .setString 0, true => some (s.await .setBioScan)
  | .setString (left + 1), true => some (s.await (.setString left))
  | .setBioScan, true =>
    some { s with bioScan := some false, bioAuth := true, loginState := true, signedIn := true }
  -- `signOut` catches its error, and the continuation does not look at the result
  | .signOut, ok => some (State.await { s with firebaseUser := s.firebaseUser && !ok } .delayed)
  | .delayed, true => some { s with loginState := false, userId := some "" }
  | .currentUser, false | .setUserId _, false | .setString _, false | .setBioScan, false
  | .delayed, false => none

def step (s : State) : Event → Option State
  | .main => some (State.await { s.exit with running := true } .currentUser)
  | .signInWithCredential => if s.running then some { s with firebaseUser := true } else none
  | .storeSession staffId => if s.running then some (s.await (.setUserId staffId)) else none
  | .onSignOutPressed => if s.running then some (s.await .signOut) else none
  | .resume call ok => do
    let (c, rest) ← takeOut s.calls call
    resume { s with calls := rest } c ok

/-- `TasksRootView` shows its pages. -/
def State.shown (s : State) : Bool := s.running && s.bioAuth

/-- The pages are open for a reason found in this process; a session without open pages waits for
its scan; and a scan is asked for only where it was asked for from the beginning and nobody has
signed in since. -/
structure Locked (initial : Option Bool) (s : State) : Prop where
  opened : s.shown = true → s.scanned = true ∨ s.signedIn = true ∨ s.found = some false
  waits : s.loginState = true → s.bioAuth = true ∨ .authenticate ∈ s.calls
  asked : s.found = some true → initial = some true ∧ s.signedInBefore = false
  scans : .authenticate ∈ s.calls → s.found = some true

section Run

variable {initial : Option Bool} {s t : State}

/-- The check is made once in a process, before anything is found; and a stored `true` is the one
from the beginning, with no sign-in since. -/
structure Inv (initial : Option Bool) (s : State) : Prop extends Locked initial s where
  stored : s.bioScan = some true →
    initial = some true ∧ s.signedIn = false ∧ s.signedInBefore = false
  unchecked : .currentUser ∈ s.calls → s.found = none
  once : s.calls.countP (· = .currentUser) ≤ 1

theorem Inv.await (h : Inv initial s) {c : Call} (hscan : c ≠ .authenticate)
    (hcheck : c ≠ .currentUser) : Inv initial (s.await c) where
  opened := h.opened
  waits := fun hlogin => (h.waits hlogin).imp_right (List.mem_cons_of_mem c)
  asked := h.asked
  scans := fun hmem => h.scans (List.mem_of_ne_of_mem hscan.symm hmem)
  stored := h.stored
  unchecked := fun hmem => h.unchecked (List.mem_of_ne_of_mem hcheck.symm hmem)
  once := by
    rw [State.await, List.countP_cons_of_neg (by simpa using hcheck)]
    exact h.once

/-- The check is not asked for again by an answer, and not at all by its own. -/
theorem Inv.once_answered (h : Inv initial s) {i : Nat} {c : Call} {rest : List Call}
    (htake : takeOut s.calls i = some (c, rest)) :
    rest.countP (· = .currentUser) + (if c = .currentUser then 1 else 0) ≤ 1 := by
  have hcount := countP_takeOut (· = .currentUser) htake
  have honce := h.once
  simp only [decide_eq_true_eq] at hcount
  omega

/-- An answer other than the scan's takes no reason to wait away. -/
theorem Inv.answered (h : Inv initial s) {i : Nat} {c : Call} {rest : List Call}
    (htake : takeOut s.calls i = some (c, rest)) (hscan : c ≠ .authenticate) :
    Inv initial { s with calls := rest } where
  opened := h.opened
  waits := fun hlogin => by
    refine (h.waits hlogin).imp_right fun hmem => ?_
    exact List.mem_of_ne_of_mem hscan.symm ((takeOut_perm htake).mem_iff.mp hmem)
  asked := h.asked
  scans := fun hmem => h.scans (mem_of_mem_rest htake hmem)
  stored := h.stored
  unchecked := fun hmem => h.unchecked (mem_of_mem_rest htake hmem)
  once := Nat.le_trans (Nat.le_add_right _ _) (h.once_answered htake)

theorem Inv.exit (h : Inv initial s) : Inv initial s.exit where
  opened := fun hshown => nomatch hshown
  waits := fun hlogin => nomatch hlogin
  asked := fun hfound => nomatch hfound
  scans := fun hmem => nomatch hmem
  stored := fun hscan => by
    obtain ⟨hinitial, hnow, hbefore⟩ := h.stored hscan
    exact ⟨hinitial, rfl, by rw [State.exit, hnow, hbefore]; rfl⟩
  unchecked := fun hmem => nomatch hmem
  once := Nat.zero_le 1

theorem Inv.main (h : Inv initial s) :
    Inv initial (State.await { s.exit with running := true } .currentUser) where
  opened := fun hshown => nomatch hshown
  waits := fun hlogin => nomatch hlogin
  asked := fun hfound => nomatch hfound
  scans := fun hmem => by cases List.mem_singleton.mp hmem
  stored := h.exit.stored
  unchecked := fun _ => rfl
  once := Nat.le_refl 1

/-- What the check finds is what the preferences hold at that moment. -/
theorem Inv.checkSession (h : Inv initial s) (hfound : s.found = none)
    (hcalls : .currentUser ∉ s.calls) : Inv initial s.checkSession := by
  have noScan : .authenticate ∉ s.calls := fun hmem => by
    cases hfound.symm.trans (h.scans hmem)
  have opened : s.shown = true → s.scanned = true ∨ s.signedIn = true := fun hshown => by
    have hreason := h.opened hshown
    rw [hfound] at hreason
    simpa using hreason
  rw [State.checkSession]
  split
  · split
    · split
      · case isTrue hscan =>
        have hstored : s.bioScan = some true := by
          cases hb : s.bioScan with
          | none => rw [hb] at hscan; cases hscan
          | some b => rw [hb] at hscan; exact congrArg some hscan
        obtain ⟨hinitial, -, hbefore⟩ := h.stored hstored
        exact
          { opened := fun hshown => (opened hshown).imp_right Or.inl
            waits := fun _ => Or.inr List.mem_cons_self
            asked := fun _ => ⟨hinitial, hbefore⟩
            scans := fun _ => rfl
            stored := h.stored
            unchecked := fun hmem =>
              absurd (List.mem_of_ne_of_mem (by decide) hmem) hcalls
            once := by
              rw [State.await, List.countP_cons_of_neg (by decide)]
              exact h.once }
      · exact
          { opened := fun _ => Or.inr (Or.inr rfl)
            waits := fun _ => Or.inl rfl
            asked := fun hasked => nomatch hasked
            scans := fun hmem => absurd hmem noScan
            stored := h.stored
            unchecked := fun hmem => absurd hmem hcalls
            once := h.once }
    · exact h
  · exact { h with waits := fun hlogin => nomatch hlogin }

/-- The check is under way once only. -/
theorem Inv.not_mem_currentUser (h : Inv initial s) {i : Nat} {rest : List Call}
    (htake : takeOut s.calls i = some (.currentUser, rest)) : .currentUser ∉ rest := by
  intro hmem
  have hpos : 0 < rest.countP (· = .currentUser) :=
    List.countP_pos_iff.mpr ⟨_, hmem, by decide⟩
  have honce := h.once_answered htake
  rw [if_pos rfl] at honce
  omega

theorem Inv.scanned (h : Inv initial s) {i : Nat} {rest : List Call}
    (htake : takeOut s.calls i = some (.authenticate, rest)) :
    Inv initial { s with calls := rest, bioAuth := true, scanned := true } where
  opened := fun _ => Or.inl rfl
  waits := fun _ => Or.inl rfl
  asked := h.asked
  scans := fun hmem => h.scans (mem_of_mem_rest htake hmem)
  stored := h.stored
  unchecked := fun hmem => h.unchecked (mem_of_mem_rest htake hmem)
  once := Nat.le_trans (Nat.le_add_right _ _) (h.once_answered htake)

theorem Inv.signedIn (h : Inv initial s) :
    Inv initial { s with
      bioScan := some false, bioAuth := true, loginState := true, signedIn := true } where
  opened := fun _ => Or.inr (Or.inl rfl)
  waits := fun _ => Or.inl rfl
  asked := h.asked
  scans := h.scans
  stored := fun hstored => nomatch hstored
  unchecked := h.unchecked
  once := h.once

theorem resume_inv (h : Inv initial s) {i : Nat} {c : Call} {rest : List Call} {ok : Bool}
    (htake : takeOut s.calls i = some (c, rest))
    (hresume : resume { s with calls := rest } c ok = some t) : Inv initial t := by
  cases c with
  | currentUser =>
    have hcalls := h.not_mem_currentUser htake
    cases ok with
    | true =>
      cases hresume
      exact (h.answered htake (by decide)).checkSession (h.unchecked (mem_takeOut htake)) hcalls
    | false => cases hresume
  | authenticate =>
    cases ok with
    | true =>
      cases hresume
      exact h.scanned htake
    | false =>
      cases hresume
      exact h.exit
  | setUserId staffId =>
    have hrest := h.answered htake (by nofun)
    cases ok with
    | true =>
      cases hresume
      exact (show Inv initial { s with calls := rest, userId := some staffId } from
        { hrest with }).await (by decide) (by decide)
    | false => cases hresume
  | setString left =>
    have hrest := h.answered htake (by nofun)
    cases ok with
    | true =>
      cases left with
      | zero =>
        cases hresume
        exact hrest.await (by decide) (by decide)
      | succ left =>
        cases hresume
        exact hrest.await (by nofun) (by nofun)
    | false => cases left <;> cases hresume
  | setBioScan =>
    have hrest := h.answered htake (by decide)
    cases ok with
    | true =>
      cases hresume
      exact hrest.signedIn
    | false => cases hresume
  | signOut =>
    cases hresume
    exact (show Inv initial { s with calls := rest, firebaseUser := s.firebaseUser && !ok } from
      { h.answered htake (by decide) with }).await (by decide) (by decide)
  | delayed =>
    have hrest := h.answered htake (by decide)
    cases ok with
    | true =>
      cases hresume
      exact { hrest with waits := fun hlogin => nomatch hlogin }
    | false => cases hresume

theorem step_inv {e : Event} (h : Inv initial s) (hstep : step s e = some t) : Inv initial t := by
  cases e with
  | main =>
    cases hstep
    exact h.main
  | signInWithCredential =>
    obtain ⟨-, hstep⟩ := Option.ite_none_right_eq_some.mp hstep
    cases hstep
    exact { h with }
  | storeSession staffId =>
    obtain ⟨-, hstep⟩ := Option.ite_none_right_eq_some.mp hstep
    cases hstep
    exact h.await (by nofun) (by nofun)
  | onSignOutPressed =>
    obtain ⟨-, hstep⟩ := Option.ite_none_right_eq_some.mp hstep
    cases hstep
    exact h.await (by decide) (by decide)
  | resume call ok =>
    obtain ⟨⟨c, rest⟩, htake, hresume⟩ := Option.bind_eq_some_iff.mp hstep
    exact resume_inv h htake hresume

end Run

/-- However starts, kills, answers, sign-ins and sign-outs follow each other, the pages are open
only after a scan, a sign-in or a check that asked for no scan, and the first sign-in is the end of
the scans: nothing asks for one in a later process. -/
theorem locked_run (userId : Option String) (bioScan : Option Bool) (firebaseUser : Bool)
    (es : List Event) :
    EveryState step (Locked bioScan) { userId, bioScan, firebaseUser } es := by
  have start : Inv bioScan { userId, bioScan, firebaseUser } :=
    { opened := fun hshown => nomatch hshown
      waits := fun hlogin => nomatch hlogin
      asked := fun hfound => nomatch hfound
      scans := fun hmem => nomatch hmem
      stored := fun hstored => ⟨hstored, rfl, rfl⟩
      unchecked := fun hmem => nomatch hmem
      once := Nat.zero_le 1 }
  have always : EveryState step (Inv bioScan) { userId, bioScan, firebaseUser } es :=
    everyState_of_inv (fun _ _ _ h hstep => step_inv h hstep) start es
  exact always.mono fun _ h => h.toLocked

end BiometricLock
