import AsmWt.Interleaving
import AsmWt.PendingCalls
import AsmWt.TodayTask

/-!
# The organization a session works with

The stored preferences name the organization of the session; geofences and news
feeds are read off them at every use. The report document and the settings stay
in the controller, which outlives the session: the document is named when the
page of today is shown, and the settings come with a reply.
-/

namespace OwnOrganization

open Interleaving PendingCalls ClockProcess WallClock StatusReport ClockingScreens TodayTask

/-- A clock-in or clock-out, with the planned time of its task and the organization of the worker
in whose session it was pressed. -/
structure Clocking where
  kind : ClockEvent
  planned : Option Int
  organizationId : String
  deriving DecidableEq

/-- What is waited for: the stored values of a sign-in, the end of a sign-out, the settings of an
organization, the sheet that asks for a confirmation, and the calls of a clocking. -/
inductive Call where
  | setUserId (organizationId : String)
  | setOrganizationId (organizationId : String)
  | delayed
  | getSettingsDataByOrgId (orgId : String)
  | getGeofencingAreaByOrganizationId (c : Clocking)
  | modelConfirmWidget (c : Clocking)
  | confirmInGeofencingArea (c : Clocking)
  | ntpNow (c : Clocking)
  | increase (c : Clocking)
  | updateTaskStatusByTaskId (c : Clocking)
  | increaseCompletedTaskByDocID (c : Clocking)
  deriving DecidableEq

/-- An answer of the clock of the device or of the time server, settings, or whether a call went
well. -/
inductive Reply where
  | time (t : Int)
  | settings (res : Option SettingsModel)
  | result (ok : Bool)

/-- `organizationId` is the stored preference, `session` the organization of the worker who is
signed in, and `settingsOf` the one the settings of the controller were asked for. -/
structure State (z : Zone) where
  organizationId : Option String := none
  session : Option String := none
  navNum : Nat := 0
  controller : Option (Controller z) := none
  settingsOf : Option String := none
  calls : List Call := []

/-- `fromCalendar` tells the detail page from the page of today. `stored` tells whether the report
takes the counter call that follows a reply. -/
inductive Event where
  | construct (time : Int)
  | loadTimeServer (time : Int)
  | loadSettingDb
  | processEmployeeLogin (organizationId : String)
  | onSignOutPressed
  | onPageChanged (navNum : Nat) (time : Int)
  | build
  | clock (fromCalendar : Bool) (kind : ClockEvent) (planned : Option Int)
  | resume (call : Nat) (reply : Reply) (stored : Bool)

variable {z : Zone}

namespace State

def await (s : State z) (c : Call) : State z := { s with calls := c :: s.calls }

/-- The page that the `PageView` builds; page 0 is the one of today. -/
def showPage (s : State z) (navNum : Nat) (time : Int) : State z :=
  if navNum = 0 then
    let c := s.controller.getD (.construct z time)
    { s with navNum, controller := some (c.openTodayTask s.organizationId) }
  else { s with navNum }

end State

/-- A process that starts with the session that is stored, if one is. -/
def launch (z : Zone) (stored : Option String) (time : Int) : State z :=
  if stored.isSome then State.showPage { organizationId := stored, session := stored } 0 time
  else {}

/-- What follows a call once it is no longer in flight; `none` is a reply of another kind. -/
def resume (s : State z) : Call → Reply → Option (State z)
  | .setUserId o, .result _ =>
    some (State.await { s with organizationId := some o } (.setOrganizationId o))
  -- `loginState` lets the router show the root page, which starts at the last page number
  | .setOrganizationId o, .time t => some (State.showPage { s with session := some o } s.navNum t)
  | .delayed, .result _ => some { s with session := none, organizationId := some "" }
  | .getSettingsDataByOrgId orgId, .settings res =>
    if orgId = "" ∧ res.isSome then none
    else some { s with
      controller := s.controller.map (·.setSettings res)
      settingsOf := res.map fun _ => orgId }
  | .getGeofencingAreaByOrganizationId c, .result ok =>
    some (if ok then s.await (.modelConfirmWidget c) else s)
  -- the sheet stays open while its button is at work
  | .modelConfirmWidget c, .result ok =>
    some (if ok then (s.await (.modelConfirmWidget c)).await (.confirmInGeofencingArea c) else s)
  | .confirmInGeofencingArea c, .result ok => some (if ok then s.await (.ntpNow c) else s)
  | .ntpNow c, .time t =>
    match c.planned with
    | none => some s
    | some planned =>
      some (if offTime c.kind planned t then s.await (.increase c)
        else s.await (.updateTaskStatusByTaskId c))
  | .ntpNow _, .result _ => some s
  | .increase c, .result _ => some (s.await (.updateTaskStatusByTaskId c))
  | .updateTaskStatusByTaskId c, .result ok =>
    some (if ok ∧ c.kind = .clockOut then s.await (.increaseCompletedTaskByDocID c) else s)
  | .increaseCompletedTaskByDocID _, .result _ => some s
  | _, _ => none

def step (s : State z) : Event → Option (State z)
  | .construct time => some { s with controller := some (s.controller.getD (.construct z time)) }
  | .loadTimeServer time => do
    let c ← s.controller
    some { s with controller := some (c.loadTimeServer time) }
  | .loadSettingDb => do
    let _ ← s.controller
    some (s.await (.getSettingsDataByOrgId (s.organizationId.getD "")))
  -- the router shows the pages of a sign-in only without a session
  | .processEmployeeLogin o => if s.session.isSome then none else some (s.await (.setUserId o))
  | .onSignOutPressed => some (s.await .delayed)
  | .onPageChanged navNum time => if s.session.isSome then some (s.showPage navNum time) else none
  | .build => if s.session.isSome ∧ s.navNum = 0 then some s else none
  | .clock fromCalendar kind planned => do
    let o ← s.session
    let c ← s.controller
    -- the geofencing service comes with the page of today
    if c.opened.isSome ∧ (fromCalendar ∨ s.navNum = 0) then
      some (s.await (.getGeofencingAreaByOrganizationId ⟨kind, planned, o⟩))
    else none
  | .resume call reply _ => do
    let (c, rest) ← takeOut s.calls call
    resume { s with calls := rest } c reply

/-- What a session does in the name of an organization. -/
inductive Effect where
  | geofence (organizationId : Option String)
  | report (docId : Option String)
  | feed (toId : Option String)
  | gate (settingsOf : Option String)
  deriving DecidableEq

/-- The effect of a reply to a call of a clocking. -/
def replyEffect (s : State z) : Call → Reply → Bool → Option (String × Effect)
  | .modelConfirmWidget c, .result true, _ => some (c.organizationId, .geofence s.organizationId)
  | .ntpNow c, .time t, true =>
    (c.planned.bind (offTimeCounter c.kind · t)).map fun _ =>
      (c.organizationId, .report (s.controller.bind (·.taskStatusReportDocId)))
  | .updateTaskStatusByTaskId c, .result true, stored =>
    if c.kind = .clockIn then some (c.organizationId, .feed s.organizationId)
    else if stored then
      some (c.organizationId, .report (s.controller.bind (·.taskStatusReportDocId)))
    else none
  | .increaseCompletedTaskByDocID c, .result _, _ =>
    some (c.organizationId, .feed s.organizationId)
  | _, _, _ => none

/-- The effect of an event, with the organization of the worker. -/
def effect (s : State z) : Event → Option (String × Effect)
  | .build => s.session.map fun o => (o, .gate s.settingsOf)
  | .clock _ _ _ => s.session.map fun o => (o, .geofence s.organizationId)
  | .resume call reply stored => do
    let (c, _) ← takeOut s.calls call
    replyEffect s c reply stored
  | _ => none

/-- An effect on what belongs to an organization. -/
def Owns (o : String) : Effect → Prop
  | .geofence organizationId => organizationId = some o
  | .report docId => ∃ year, docId = some (reportDocId (some o) year)
  | .feed toId => toId = some o
  | .gate settingsOf => ∀ o', settingsOf = some o' → o' = o

def WorksWithOwn (s : State z) (e : Event) : Prop :=
  ∀ o f, effect s e = some (o, f) → Owns o f

theorem not_owns_report {o o' : String} {year : Int} (hlen : o.length = o'.length) (hne : o ≠ o') :
    ¬ Owns o (.report (some (reportDocId (some o') year))) := by
  rintro ⟨year', hid⟩
  have hlist := congrArg String.toList (Option.some.inj hid)
  rw [reportDocId, reportDocId, String.append_assoc, String.append_assoc] at hlist
  simp only [String.toList_append] at hlist
  exact hne (String.toList_injective (List.append_inj_left hlist.symm hlen))

/-- The worker of `org1` signs out on the account page. The next one finds that page, and clocks in
late on the detail page of a task. -/
def twoSessions : List Event :=
  [.processEmployeeLogin "org1", .resume 0 (.result true) false, .resume 0 (.time nine) false,
    .onPageChanged 3 nine, .onSignOutPressed, .resume 0 (.result true) false,
    .processEmployeeLogin "org2", .resume 0 (.result true) false, .resume 0 (.time nine) false,
    .onPageChanged 1 nine, .clock true .clockIn (some (nine - hourMicros)),
    .resume 0 (.result true) false, .resume 0 (.result true) false, .resume 0 (.result true) false]

/-- The lateness is counted for `org1`. -/
theorem late_start_counted_for_other_organization :
    ¬ ∀ (z : Zone) (stored : Option String) (time : Int) (es : List Event),
      EveryStep step WorksWithOwn (launch z stored time) es := by
  intro claim
  refine not_everyStep_of_run (fun u _ => effect u (.resume 0 (.time nine) true) =
    some ("org2", .report (some (reportDocId (some "org1") 1970)))) ?_ ?_
    (claim bangkok none nine (twoSessions ++ [.resume 0 (.time nine) true]))
  · intro u t _ hbad own
    exact not_owns_report (by decide) (by decide) (own _ _ (of_decide_eq_true hbad))
  · decide +kernel

section Orderly

/-- The clocking a call belongs to. -/
def Call.clocking : Call → Option Clocking
  | .getGeofencingAreaByOrganizationId c | .modelConfirmWidget c | .confirmInGeofencingArea c
  | .ntpNow c | .increase c | .updateTaskStatusByTaskId c
  | .increaseCompletedTaskByDocID c => some c
  | .setUserId _ | .setOrganizationId _ | .delayed | .getSettingsDataByOrgId _ => none

def Call.signsIn : Call → Bool
  | .setUserId _ | .setOrganizationId _ => true
  | _ => false

/-- The organization whose settings a call asks for. -/
def Call.settingsFor : Call → Option String
  | .getSettingsDataByOrgId orgId => some orgId
  | _ => none

/-- The settings in the controller and those on their way are of an organization. -/
structure SettingsOf (o : String) (settingsOf : Option String) (calls : List Call) : Prop where
  there : ∀ o' ∈ settingsOf, o' = o
  coming : ∀ d ∈ calls, ∀ orgId ∈ d.settingsFor, orgId = "" ∨ orgId = o

/-- A session begins with no settings of another organization, and ends when nothing of it is
under way. -/
def OrderlyReply (s : State z) : Call → List Call → Prop
  | .setOrganizationId o, rest => SettingsOf o s.settingsOf rest
  | .delayed, rest => ∀ d ∈ rest, d.clocking = none ∧ d.signsIn = false
  | _, _ => True

/-- One sign-in at a time, and the page of today shown in a session before anything is clocked
in it. -/
def Orderly (s : State z) : Event → Prop
  | .processEmployeeLogin _ => ∀ d ∈ s.calls, d.signsIn = false
  | .clock _ _ _ => ∀ c ∈ s.controller, ∀ opened ∈ c.opened, opened.1 = s.session
  | .resume call _ _ => ∀ taken ∈ takeOut s.calls call, OrderlyReply s taken.1 taken.2
  | _ => True

/-- What an orderly run keeps. -/
structure Kept (s : State z) : Prop where
  session : ∀ o, s.session = some o →
    s.organizationId = some o ∧ SettingsOf o s.settingsOf s.calls
  clocking : ∀ d ∈ s.calls, ∀ c, d.clocking = some c → s.session = some c.organizationId ∧
    ∃ con t, s.controller = some con ∧ con.opened = some (some c.organizationId, t)
  signsIn : ∀ d ∈ s.calls, d.signsIn = true → s.session = none
  stored : ∀ o, .setOrganizationId o ∈ s.calls → s.organizationId = some o
  one : s.calls.countP Call.signsIn ≤ 1

variable {s t : State z} {i : Nat} {c : Call} {rest : List Call}

/-- A call that ends takes nothing away. -/
theorem Kept.remaining (h : Kept s) (htake : takeOut s.calls i = some (c, rest)) :
    Kept { s with calls := rest } where
  session o ho := by
    obtain ⟨horg, hset⟩ := h.session o ho
    exact ⟨horg, hset.there, fun d hd => hset.coming d (mem_of_mem_rest htake hd)⟩
  clocking d hd := h.clocking d (mem_of_mem_rest htake hd)
  signsIn d hd := h.signsIn d (mem_of_mem_rest htake hd)
  stored o ho := h.stored o (mem_of_mem_rest htake ho)
  one := by
    have := countP_takeOut Call.signsIn htake
    have := h.one
    dsimp only
    omega

/-- A sign-in that waits is the only one. -/
theorem Kept.alone (h : Kept s) (htake : takeOut s.calls i = some (c, rest))
    (hc : c.signsIn = true) : ∀ d ∈ rest, d.signsIn = false := by
  have hcount := countP_takeOut Call.signsIn htake
  rw [if_pos hc] at hcount
  have none_left : rest.countP Call.signsIn = 0 := by
    have := h.one
    omega
  intro d hd
  exact Bool.eq_false_iff.mpr (List.countP_eq_zero.mp none_left d hd)

theorem Kept.await (h : Kept s)
    (hset : ∀ orgId, c.settingsFor = some orgId → ∀ o, s.session = some o →
      orgId = "" ∨ orgId = o)
    (hclock : ∀ k, c.clocking = some k → s.session = some k.organizationId ∧
      ∃ con t, s.controller = some con ∧ con.opened = some (some k.organizationId, t))
    (hsign : c.signsIn = true → s.session = none ∧ ∀ d ∈ s.calls, d.signsIn = false)
    (hstored : ∀ o, c = .setOrganizationId o → s.organizationId = some o) : Kept (s.await c) where
  session o ho := by
    obtain ⟨horg, hthere, hcoming⟩ := h.session o ho
    refine ⟨horg, hthere, fun d hd orgId hask => ?_⟩
    rcases List.mem_cons.mp hd with rfl | hold
    · exact hset orgId hask o ho
    · exact hcoming d hold orgId hask
  clocking d hd := by
    rcases List.mem_cons.mp hd with rfl | hold
    · exact hclock
    · exact h.clocking d hold
  signsIn d hd hin := by
    rcases List.mem_cons.mp hd with rfl | hold
    · exact (hsign hin).1
    · exact h.signsIn d hold hin
  stored o ho := by
    rcases List.mem_cons.mp ho with hnew | hold
    · exact hstored o hnew.symm
    · exact h.stored o hold
  one := by
    rw [State.await, List.countP_cons]
    by_cases hin : c.signsIn = true
    · have none_there : s.calls.countP Call.signsIn = 0 := by
        refine List.countP_eq_zero.mpr fun d hd => ?_
        rw [(hsign hin).2 d hd]
        exact Bool.false_ne_true
      rw [none_there, if_pos hin]
    · rw [if_neg hin]
      exact h.one

/-- The next call of a clocking. -/
theorem Kept.awaitClocking (h : Kept s) {k : Clocking} (hc : c.clocking = some k)
    (hsession : s.session = some k.organizationId)
    (hopened : ∃ con t, s.controller = some con ∧
      con.opened = some (some k.organizationId, t)) : Kept (s.await c) := by
  refine h.await ?_ ?_ ?_ ?_
  · intro orgId hask
    cases c with
    | getSettingsDataByOrgId orgId => cases hc
    | _ => cases hask
  · intro k' hk
    cases hc.symm.trans hk
    exact ⟨hsession, hopened⟩
  · intro hin
    cases c with
    | setUserId o | setOrganizationId o => cases hc
    | _ => cases hin
  · rintro o rfl
    cases hc

theorem Kept.showPage (h : Kept s) (navNum : Nat) (time : Int) : Kept (s.showPage navNum time) := by
  rw [State.showPage]
  split
  · refine ⟨h.session, fun d hd k hk => ?_, h.signsIn, h.stored, h.one⟩
    obtain ⟨hsession, -⟩ := h.clocking d hd k hk
    refine ⟨hsession, _, (s.controller.getD (.construct z time)).now, rfl, ?_⟩
    rw [Controller.openTodayTask, (h.session _ hsession).1]
  · exact ⟨h.session, h.clocking, h.signsIn, h.stored, h.one⟩

/-- Another controller in its place that was opened alike. -/
theorem Kept.controller (h : Kept s) {f : Option (Controller z) → Option (Controller z)}
    (hf : ∀ con, s.controller = some con → ∃ con', f s.controller = some con' ∧
      con'.opened = con.opened) : Kept { s with controller := f s.controller } where
  session := h.session
  clocking d hd k hk := by
    obtain ⟨hsession, con, t, hcon, hopened⟩ := h.clocking d hd k hk
    obtain ⟨con', hcon', heq⟩ := hf con hcon
    exact ⟨hsession, con', t, hcon', heq.trans hopened⟩
  signsIn := h.signsIn
  stored := h.stored
  one := h.one

/-- A clocking goes on with its own calls, or it ends. -/
theorem resume_clocking {k : Clocking} {reply : Reply} (hc : c.clocking = some k)
    (hr : resume s c reply = some t) :
    t = s ∨ (∃ d, d.clocking = some k ∧ t = s.await d) ∨
      t = (s.await (.modelConfirmWidget k)).await (.confirmInGeofencingArea k) := by
  cases c with
  | setUserId o | setOrganizationId o | delayed | getSettingsDataByOrgId orgId => cases hc
  | getGeofencingAreaByOrganizationId k' | confirmInGeofencingArea k' =>
    cases hc
    cases reply with
    | result ok =>
      cases ok <;> cases hr
      · exact Or.inl rfl
      · exact Or.inr (Or.inl ⟨_, rfl, rfl⟩)
    | _ => cases hr
  | modelConfirmWidget k' =>
    cases hc
    cases reply with
    | result ok =>
      cases ok <;> cases hr
      · exact Or.inl rfl
      · exact Or.inr (Or.inr rfl)
    | _ => cases hr
  | ntpNow k' =>
    cases hc
    cases reply with
    | time t' =>
      simp only [resume] at hr
      split at hr
      · cases hr
        exact Or.inl rfl
      · cases hr
        split
        · exact Or.inr (Or.inl ⟨_, rfl, rfl⟩)
        · exact Or.inr (Or.inl ⟨_, rfl, rfl⟩)
    | result ok =>
      cases hr
      exact Or.inl rfl
    | settings res => cases hr
  | increase k' =>
    cases hc
    cases reply with
    | result ok =>
      cases hr
      exact Or.inr (Or.inl ⟨_, rfl, rfl⟩)
    | _ => cases hr
  | updateTaskStatusByTaskId k' =>
    cases hc
    cases reply with
    | result ok =>
      cases hr
      split
      · exact Or.inr (Or.inl ⟨_, rfl, rfl⟩)
      · exact Or.inl rfl
    | _ => cases hr
  | increaseCompletedTaskByDocID k' =>
    cases hc
    cases reply with
    | result ok =>
      cases hr
      exact Or.inl rfl
    | _ => cases hr

/-- The organization is stored while the one sign-in goes on. -/
theorem Kept.storing (h : Kept s) {o : String}
    (htake : takeOut s.calls i = some (.setUserId o, rest)) :
    Kept (State.await { s with organizationId := some o, calls := rest }
      (.setOrganizationId o)) := by
  have hrest := h.remaining htake
  have hnone := h.signsIn _ (mem_takeOut htake) rfl
  have alone := h.alone htake rfl
  have hset : Kept { s with organizationId := some o, calls := rest } :=
    { session := fun o' ho => nomatch hnone.symm.trans ho
      clocking := hrest.clocking
      signsIn := hrest.signsIn
      stored := fun o' ho => nomatch alone _ ho
      one := hrest.one }
  refine hset.await nofun nofun (fun _ => ⟨hnone, alone⟩) fun o' ho => ?_
  cases ho
  rfl

/-- A session begins under the stored organization, with no clocking of another one. -/
theorem Kept.signedIn (h : Kept s) {o : String}
    (htake : takeOut s.calls i = some (.setOrganizationId o, rest))
    (hsettings : SettingsOf o s.settingsOf rest) :
    Kept { s with session := some o, calls := rest } := by
  have hrest := h.remaining htake
  have hnone := h.signsIn _ (mem_takeOut htake) rfl
  exact
    { session := fun o' ho => by
        cases ho
        exact ⟨h.stored o (mem_takeOut htake), hsettings⟩
      clocking := fun d hd k hk => nomatch hnone.symm.trans (hrest.clocking d hd k hk).1
      signsIn := fun d hd hin => nomatch (h.alone htake rfl d hd).symm.trans hin
      stored := hrest.stored
      one := hrest.one }

/-- A sign-out ends a session that nothing is under way for. -/
theorem Kept.signedOut (h : Kept s) (quiet : ∀ d ∈ s.calls, d.clocking = none ∧ d.signsIn = false) :
    Kept { s with session := none, organizationId := some "" } where
  session := nofun
  clocking d hd _ hk := nomatch (quiet d hd).1.symm.trans hk
  signsIn _ _ _ := rfl
  stored _ ho := nomatch (quiet _ ho).2
  one := h.one

/-- Settings that come are those of the organization they were asked for. -/
theorem Kept.answered (h : Kept s) {orgId : String}
    (htake : takeOut s.calls i = some (.getSettingsDataByOrgId orgId, rest))
    {res : Option SettingsModel} (hanswer : ¬ (orgId = "" ∧ res.isSome)) :
    Kept { s with
      controller := s.controller.map (·.setSettings res)
      settingsOf := res.map fun _ => orgId
      calls := rest } := by
  have hcon : Kept { s with controller := s.controller.map (·.setSettings res), calls := rest } :=
    (h.remaining htake).controller (f := Option.map (·.setSettings res)) fun con hcon =>
      ⟨con.setSettings res, by rw [hcon]; rfl, rfl⟩
  refine ⟨fun o ho => ?_, hcon.clocking, hcon.signsIn, hcon.stored, hcon.one⟩
  obtain ⟨horg, -, hcoming⟩ := hcon.session o ho
  refine ⟨horg, fun o' ho' => ?_, hcoming⟩
  obtain ⟨m, hm, rfl⟩ := Option.map_eq_some_iff.mp ho'
  have asked := (h.session o ho).2.coming _ (mem_takeOut htake) orgId rfl
  exact asked.resolve_left fun hempty => hanswer ⟨hempty, hm ▸ rfl⟩

theorem kept_resume {reply : Reply} (h : Kept s) (htake : takeOut s.calls i = some (c, rest))
    (horderly : OrderlyReply s c rest) (hr : resume { s with calls := rest } c reply = some t) :
    Kept t := by
  have hrest := h.remaining htake
  cases hc : c.clocking with
  | some k =>
    obtain ⟨hsession, hopened⟩ := h.clocking c (mem_takeOut htake) k hc
    rcases resume_clocking hc hr with rfl | ⟨d, hd, rfl⟩ | rfl
    · exact hrest
    · exact hrest.awaitClocking hd hsession hopened
    · exact (hrest.awaitClocking rfl hsession hopened).awaitClocking rfl hsession hopened
  | none =>
    cases c with
    | setUserId o =>
      cases reply with
      | result ok =>
        cases hr
        exact h.storing htake
      | _ => cases hr
    | setOrganizationId o =>
      cases reply with
      | time t' =>
        cases hr
        exact (h.signedIn htake horderly).showPage s.navNum t'
      | _ => cases hr
    | delayed =>
      cases reply with
      | result ok =>
        cases hr
        exact hrest.signedOut horderly
      | _ => cases hr
    | getSettingsDataByOrgId orgId =>
      cases reply with
      | settings res =>
        rw [resume] at hr
        split at hr
        · cases hr
        · case isFalse hanswer =>
          cases hr
          exact h.answered htake hanswer
      | _ => cases hr
    | _ => cases hc

theorem kept_step {e : Event} (h : Kept s) (horderly : Orderly s e) (hstep : step s e = some t) :
    Kept t := by
  cases e with
  | construct time =>
    cases hstep
    refine h.controller (f := fun con => some (con.getD (.construct z time))) fun con hcon => ?_
    exact ⟨con, by rw [hcon]; rfl, rfl⟩
  | loadTimeServer time =>
    obtain ⟨con, hcon, ht⟩ := Option.bind_eq_some_iff.mp hstep
    cases ht
    refine h.controller (f := fun _ => some (con.loadTimeServer time)) fun con' hcon' => ?_
    cases hcon.symm.trans hcon'
    exact ⟨_, rfl, rfl⟩
  | loadSettingDb =>
    obtain ⟨con, -, ht⟩ := Option.bind_eq_some_iff.mp hstep
    cases ht
    refine h.await (fun orgId hask o ho => ?_) nofun nofun nofun
    cases hask
    rw [(h.session o ho).1]
    exact Or.inr rfl
  | processEmployeeLogin o =>
    rw [step] at hstep
    split at hstep
    · cases hstep
    · case isFalse hnone =>
      cases hstep
      exact h.await nofun nofun (fun _ => ⟨Option.not_isSome_iff_eq_none.mp hnone, horderly⟩) nofun
  | onSignOutPressed =>
    cases hstep
    exact h.await nofun nofun nofun nofun
  | onPageChanged navNum time =>
    rw [step] at hstep
    split at hstep
    · cases hstep
      exact h.showPage navNum time
    · cases hstep
  | build =>
    rw [step] at hstep
    split at hstep <;> cases hstep
    exact h
  | clock fromCalendar kind planned =>
    obtain ⟨o, ho, hstep⟩ := Option.bind_eq_some_iff.mp hstep
    obtain ⟨con, hcon, hstep⟩ := Option.bind_eq_some_iff.mp hstep
    split at hstep
    · case isTrue hguard =>
      cases hstep
      obtain ⟨⟨o', t'⟩, hopened⟩ := Option.isSome_iff_exists.mp hguard.1
      have hown : o' = some o := (horderly con hcon (o', t') hopened).trans ho
      exact h.awaitClocking rfl ho ⟨con, t', hcon, hown ▸ hopened⟩
    · cases hstep
  | resume call reply stored =>
    obtain ⟨⟨c, rest⟩, htake, hr⟩ := Option.bind_eq_some_iff.mp hstep
    exact kept_resume h htake (horderly (c, rest) htake) hr

/-- What a reply does in the name of an organization it does for a clocking, and it does it with
what belongs to the organization when the preferences and the page of today are of it. -/
theorem owns_of_replyEffect {reply : Reply} {stored : Bool} {o : String} {f : Effect}
    (h : replyEffect s c reply stored = some (o, f)) :
    ∃ k, c.clocking = some k ∧ k.organizationId = o ∧ (s.organizationId = some o →
      ∀ con, s.controller = some con → ∀ t, con.opened = some (some o, t) → Owns o f) := by
  have report : ∀ con, s.controller = some con → ∀ t, con.opened = some (some o, t) →
      Owns o (.report (s.controller.bind (·.taskStatusReportDocId))) := by
    intro con hcon t hopened
    rw [hcon, Option.bind_some, con.named, hopened]
    exact ⟨z.year t, rfl⟩
  unfold replyEffect at h
  split at h
  · cases h
    exact ⟨_, rfl, rfl, fun horg _ _ _ _ => horg⟩
  · obtain ⟨counter, -, ht⟩ := Option.map_eq_some_iff.mp h
    cases ht
    exact ⟨_, rfl, rfl, fun _ => report⟩
  · split at h
    · cases h
      exact ⟨_, rfl, rfl, fun horg _ _ _ _ => horg⟩
    · split at h <;> cases h
      exact ⟨_, rfl, rfl, fun _ => report⟩
  · cases h
    exact ⟨_, rfl, rfl, fun horg _ _ _ _ => horg⟩
  · cases h

theorem Kept.worksWithOwn {e : Event} (h : Kept s) : WorksWithOwn s e := by
  intro o f hf
  cases e with
  | build =>
    obtain ⟨o', ho, ht⟩ := Option.map_eq_some_iff.mp hf
    cases ht
    exact (h.session o ho).2.there
  | clock fromCalendar kind planned =>
    obtain ⟨o', ho, ht⟩ := Option.map_eq_some_iff.mp hf
    cases ht
    exact (h.session o ho).1
  | resume call reply stored =>
    obtain ⟨⟨c, rest⟩, htake, hr⟩ := Option.bind_eq_some_iff.mp hf
    obtain ⟨k, hk, rfl, howns⟩ := owns_of_replyEffect hr
    obtain ⟨hsession, con, t, hcon, hopened⟩ := h.clocking c (mem_takeOut htake) k hk
    exact howns (h.session _ hsession).1 con hcon t hopened
  | _ => cases hf

theorem kept_of_idle (hcalls : s.calls = []) (hsettings : s.settingsOf = none)
    (hsession : ∀ o, s.session = some o → s.organizationId = some o) : Kept s := by
  have idle : ∀ d, d ∉ s.calls := fun d hd => nomatch hcalls ▸ hd
  refine ⟨fun o ho => ⟨hsession o ho, ?_, ?_⟩, ?_, ?_, ?_, ?_⟩
  · rw [hsettings]
    exact nofun
  · exact fun orgId hd => absurd hd (idle _)
  · exact fun d hd => absurd hd (idle d)
  · exact fun d hd => absurd hd (idle d)
  · exact fun o ho => absurd ho (idle _)
  · rw [hcalls]
    exact Nat.zero_le 1

theorem kept_launch (stored : Option String) (time : Int) : Kept (launch z stored time) := by
  cases stored with
  | none => exact kept_of_idle rfl rfl nofun
  | some o =>
    have own : Kept ({ organizationId := some o, session := some o } : State z) :=
      kept_of_idle rfl rfl fun o' ho => ho
    exact own.showPage 0 time

/-- In an orderly run every session works with its own organization. -/
theorem worksWithOwn_of_orderly {stored : Option String} {time : Int} {es : List Event}
    (h : EveryStep step Orderly (launch z stored time) es) :
    EveryStep step WorksWithOwn (launch z stored time) es :=
  everyStep_of_everyStep (fun _ _ _ hs horderly hstep => kept_step hs horderly hstep)
    (fun _ _ _ hs _ _ => hs.worksWithOwn) (kept_launch stored time) h

instance (o : String) (settingsOf : Option String) (calls : List Call) :
    Decidable (SettingsOf o settingsOf calls) :=
  decidable_of_iff ((∀ o' ∈ settingsOf, o' = o) ∧
      ∀ d ∈ calls, ∀ orgId ∈ d.settingsFor, orgId = "" ∨ orgId = o)
    ⟨fun h => ⟨h.1, h.2⟩, fun h => ⟨h.there, h.coming⟩⟩

instance (s : State z) (rest : List Call) : ∀ c, Decidable (OrderlyReply s c rest)
  | .setOrganizationId o => inferInstanceAs (Decidable (SettingsOf o s.settingsOf rest))
  | .delayed =>
    inferInstanceAs (Decidable (∀ d ∈ rest, d.clocking = none ∧ d.signsIn = false))
  | .setUserId _ | .getSettingsDataByOrgId _ | .getGeofencingAreaByOrganizationId _
  | .modelConfirmWidget _ | .confirmInGeofencingArea _ | .ntpNow _ | .increase _
  | .updateTaskStatusByTaskId _ | .increaseCompletedTaskByDocID _ => isTrue trivial

instance (s : State z) : ∀ e, Decidable (Orderly s e)
  | .processEmployeeLogin _ => inferInstanceAs (Decidable (∀ d ∈ s.calls, d.signsIn = false))
  | .clock _ _ _ => inferInstanceAs
    (Decidable (∀ c ∈ s.controller, ∀ opened ∈ c.opened, opened.1 = s.session))
  | .resume call _ _ => inferInstanceAs
    (Decidable (∀ taken ∈ takeOut s.calls call, OrderlyReply s taken.1 taken.2))
  | .construct _ | .loadTimeServer _ | .loadSettingDb | .onSignOutPressed
  | .onPageChanged _ _ | .build => isTrue trivial

/-- The replies to a clock-in that comes late. -/
def clockInReplies : List Event :=
  [.resume 0 (.result true) false, .resume 0 (.result true) false, .resume 0 (.result true) false,
    .resume 0 (.time nine) true, .resume 0 (.result true) false, .resume 0 (.result true) false]

/-- Two workers of two organizations clock in late one after the other, the second on the detail
page of a task. There are no settings for the first. -/
def shownBeforeClocking : List Event :=
  [.processEmployeeLogin "org1", .resume 0 (.result true) false, .resume 0 (.time nine) false,
    .loadSettingDb, .resume 0 (.settings none) false, .build,
    .clock false .clockIn (some (nine - hourMicros))] ++ clockInReplies ++
  [.resume 0 (.result false) false, .onSignOutPressed, .resume 0 (.result true) false,
    .processEmployeeLogin "org2", .resume 0 (.result true) false, .resume 0 (.time nine) false,
    .onPageChanged 1 nine, .clock true .clockIn (some (nine - hourMicros))] ++ clockInReplies

theorem worksWithOwn_of_orderly_shownBeforeClocking :
    EveryStep step WorksWithOwn (launch bangkok none nine) shownBeforeClocking :=
  worksWithOwn_of_orderly (by decide +kernel)

end Orderly

end OwnOrganization
