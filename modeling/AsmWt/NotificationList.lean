import AsmWt.Interleaving
import AsmWt.PendingCalls
import AsmWt.Paging
import Mathlib.Data.String.Basic

/-!
# The notification list

`NotificationController` is one object for all openings of the page. A query is
sent for the user of the moment and its reply changes the list of the moment:
the first page replaces the list, further pages are appended to it. Opening the
page and refreshing empty the list and forget that a page is on its way.
-/

namespace NotificationList

open Interleaving PendingCalls Paging

structure Notification where
  id : String
  to_id : String
  created_date : Int
  deriving DecidableEq

/-- `orderBy('created_date', descending: true)`; the id decides between equal dates. -/
def later (a b : Notification) : Prop :=
  b.created_date < a.created_date ∨ b.created_date = a.created_date ∧ b.id < a.id

instance : DecidableRel later := fun a b =>
  inferInstanceAs (Decidable (b.created_date < a.created_date ∨
    b.created_date = a.created_date ∧ b.id < a.id))

/-- The notifications of each user in the order of the queries. -/
structure Server where
  sequence : String → List Notification
  sorted : ∀ userId, (sequence userId).Pairwise later
  addressed : ∀ userId, ∀ n ∈ sequence userId, n.to_id = userId

/-- The queries in flight. What follows `_getInitialNotifications` is the view's `setState`, or,
in a refresh, another `getNotifications`. -/
inductive Call where
  | getInitialNotifications (userId : String) (refresh : Bool)
  | loadMoreNotifications (userId : String) (startAfter : Notification)
  deriving DecidableEq

/-- The fields of the controller; `userId` is unset until the page is first opened. -/
structure State where
  notifications : List Notification := []
  isRequesting : Bool := false
  isFinish : Bool := false
  userId : Option String := none
  calls : List Call := []

inductive Event where
  | openPage (userId : String)
  | loadMoreData
  | onRefresh
  | reply (call : Nat) (ok : Bool)

def State.await (s : State) (c : Call) : State := { s with calls := c :: s.calls }

/-- `getNotifications`, which calls `_getInitialNotifications` when the list is empty. -/
def getNotifications (getInitialNotifications : State → State) (s : State) : State :=
  if s.notifications = [] then getInitialNotifications s else s

/-- What follows `_getInitialNotifications`. -/
def afterInitial (s : State) (refresh : Bool) : State :=
  match refresh, s.userId with
  | true, some userId => getNotifications (·.await (.getInitialNotifications userId false)) s
  | _, _ => s

def resume (server : Server) (s : State) : Call → Bool → State
  | .getInitialNotifications userId refresh, true =>
    afterInitial { s with notifications := (server.sequence userId).take 10 } refresh
  | .getInitialNotifications _ refresh, false => afterInitial s refresh
  | .loadMoreNotifications userId startAfter, true =>
    let docs := pageAfter later (server.sequence userId) startAfter 5
    { s with
      notifications := s.notifications ++ docs
      isFinish := s.isFinish || docs.isEmpty
      isRequesting := false }
  | .loadMoreNotifications _ _, false => { s with isRequesting := false }

def step (server : Server) (s : State) : Event → Option State
  | .openPage userId =>
    some (getNotifications (·.await (.getInitialNotifications userId false))
      { s with notifications := [], isRequesting := false, isFinish := false, userId := userId })
  | .loadMoreData => do
    let userId ← s.userId
    let last ← s.notifications.getLast?
    if !s.isRequesting && !s.isFinish then
      return State.await { s with isRequesting := true } (.loadMoreNotifications userId last)
    else none
  | .onRefresh => do
    let userId ← s.userId
    return State.await { s with notifications := [], isFinish := false, isRequesting := false }
      (.getInitialNotifications userId true)
  | .reply call ok => do
    let (c, rest) ← takeOut s.calls call
    return resume server { s with calls := rest } c ok

/-- The list is a prefix, without repetitions, of what the server has for the open page. -/
structure IsPrefix (server : Server) (s : State) : Prop where
  ofServer : ∀ userId, s.userId = some userId → s.notifications <+: server.sequence userId
  empty : s.userId = none → s.notifications = []
  distinct : s.notifications.Nodup

/-- A reply may change the list: it belongs to the user the page is open for, and a further page
was asked for after the last notification that is still there. A reply without notifications may
always arrive, except that a first page also empties the list. -/
def Fits (server : Server) (s : State) : Call → Prop
  | .getInitialNotifications userId _ => s.userId = some userId ∨ server.sequence userId = []
  | .loadMoreNotifications userId startAfter =>
    (s.userId = some userId ∧ s.notifications.getLast? = some startAfter) ∨
      ∀ n ∈ server.sequence userId, ¬ later startAfter n

def InTime (server : Server) (s : State) : Event → Prop
  | .reply call true => ∀ c rest, takeOut s.calls call = some (c, rest) → Fits server s c
  | .openPage _ | .loadMoreData | .onRefresh | .reply _ false => True

/-- A further page is asked for after a notification of the user it is asked for. -/
def CallsSound (server : Server) (s : State) : Prop :=
  ∀ userId startAfter, .loadMoreNotifications userId startAfter ∈ s.calls →
    startAfter ∈ server.sequence userId

theorem later_asymm (a b : Notification) (hab : later a b) : ¬ later b a := by
  intro hba
  rcases hab with hab | ⟨hdate, hid⟩
  · rcases hba with hba | ⟨hba, -⟩
    · omega
    · omega
  · rcases hba with hba | ⟨-, hba⟩
    · omega
    · exact lt_asymm hid hba

section Reply

variable {server : Server} {s t : State}

/-- Nothing but the list and the user of the page matters. -/
theorem IsPrefix.congr (h : IsPrefix server s) (hn : t.notifications = s.notifications)
    (hu : t.userId = s.userId) : IsPrefix server t := by
  obtain ⟨ofServer, empty, distinct⟩ := h
  rw [← hn] at ofServer empty distinct
  rw [← hu] at ofServer empty
  exact ⟨ofServer, empty, distinct⟩

/-- A list of a user's notifications that starts the list of another user is empty. -/
theorem same_user {userId other : String} {l m : List Notification}
    (hl : ∀ n ∈ l, n ∈ server.sequence userId) (hne : l ≠ [])
    (h : m ++ l <+: server.sequence other) : userId = other := by
  obtain ⟨n, hn⟩ := List.exists_mem_of_ne_nil l hne
  have hother : n ∈ server.sequence other := h.subset (List.mem_append_right m hn)
  rw [← server.addressed userId n (hl n hn), server.addressed other n hother]

/-- A list shown for a user is right as soon as it starts the user's sequence. -/
theorem isPrefix_of {userId : String} (hu : s.userId = some userId)
    (h : s.notifications <+: server.sequence userId) : IsPrefix server s := by
  refine ⟨fun other ho => ?_, fun hnone => ?_, ?_⟩
  · cases hu.symm.trans ho
    exact h
  · cases hu.symm.trans hnone
  · exact (nodup_of_sorted later_asymm (server.sorted userId)).sublist h.sublist

theorem isPrefix_nil (hn : s.notifications = []) : IsPrefix server s := by
  refine ⟨fun userId _ => ?_, fun _ => hn, ?_⟩
  · rw [hn]
    exact List.nil_prefix
  · rw [hn]
    exact List.nodup_nil

/-- A list with something in it belongs to an open page. -/
theorem IsPrefix.opened (h : IsPrefix server s) (hne : s.notifications ≠ []) :
    ∃ userId, s.userId = some userId ∧ s.notifications <+: server.sequence userId := by
  cases hu : s.userId with
  | none => exact absurd (h.empty hu) hne
  | some userId => exact ⟨userId, rfl, h.ofServer userId hu⟩

@[simp] theorem afterInitial_notifications (s : State) (refresh : Bool) :
    (afterInitial s refresh).notifications = s.notifications := by
  unfold afterInitial getNotifications
  split
  · split <;> rfl
  · rfl

@[simp] theorem afterInitial_userId (s : State) (refresh : Bool) :
    (afterInitial s refresh).userId = s.userId := by
  unfold afterInitial getNotifications
  split
  · split <;> rfl
  · rfl

/-- The first page of a user is right for the page that shows it. -/
theorem initial_isPrefix_iff {userId : String} (hn : t.notifications =
    (server.sequence userId).take 10) (hu : t.userId = s.userId) (refresh : Bool) :
    IsPrefix server t ↔ Fits server s (.getInitialNotifications userId refresh) := by
  constructor
  · intro h
    by_cases hne : server.sequence userId = []
    · exact Or.inr hne
    · have hshown : t.notifications ≠ [] := by
        rw [hn]
        simpa using hne
      obtain ⟨other, hother, hprefix⟩ := h.opened hshown
      rw [hn] at hprefix hshown
      obtain rfl := same_user (m := []) (fun n hmem => List.mem_of_mem_take hmem) hshown hprefix
      exact Or.inl (hu ▸ hother)
  · rintro (hsame | hnil)
    · apply isPrefix_of (hu.trans hsame)
      rw [hn]
      exact List.take_prefix 10 _
    · apply isPrefix_nil
      rw [hn, hnil, List.take_nil]

/-- A further page is right exactly when it continues what is shown. -/
theorem loadMore_isPrefix_iff (h : IsPrefix server s) {userId : String} {startAfter : Notification}
    (hstart : startAfter ∈ server.sequence userId)
    (hn : t.notifications =
      s.notifications ++ pageAfter later (server.sequence userId) startAfter 5)
    (hu : t.userId = s.userId) :
    IsPrefix server t ↔ Fits server s (.loadMoreNotifications userId startAfter) := by
  have hpage : pageAfter later (server.sequence userId) startAfter 5 = [] ↔
      ∀ n ∈ server.sequence userId, ¬ later startAfter n := by
    simp [pageAfter, List.filter_eq_nil_iff]
  by_cases hnil : pageAfter later (server.sequence userId) startAfter 5 = []
  · rw [hnil, List.append_nil] at hn
    exact ⟨fun _ => Or.inr (hpage.mp hnil), fun _ => h.congr hn hu⟩
  · constructor
    · intro ht
      have hshown : t.notifications ≠ [] := by
        rw [hn]
        exact List.append_ne_nil_of_right_ne_nil _ hnil
      obtain ⟨other, hother, hprefix⟩ := ht.opened hshown
      rw [hn] at hprefix
      have hmem : ∀ n ∈ pageAfter later (server.sequence userId) startAfter 5,
          n ∈ server.sequence userId :=
        fun n hn' => (List.mem_filter.mp (List.mem_of_mem_take hn')).1
      obtain rfl := same_user hmem hnil hprefix
      exact Or.inl ⟨hu ▸ hother, getLast_of_append_pageAfter_prefix later_asymm
        (server.sorted userId) hstart hnil hprefix⟩
    · rintro (⟨hsame, hlast⟩ | hnone)
      · apply isPrefix_of (hu.trans hsame)
        rw [hn]
        exact append_pageAfter_prefix later_asymm (server.sorted userId)
          (h.ofServer userId hsame) hlast
      · exact absurd (hpage.mpr hnone) hnil

theorem resume_isPrefix_iff {c : Call} (h : IsPrefix server s)
    (sound : ∀ userId startAfter, c = .loadMoreNotifications userId startAfter →
      startAfter ∈ server.sequence userId) (ok : Bool) :
    IsPrefix server (resume server s c ok) ↔ (ok = true → Fits server s c) := by
  cases c with
  | getInitialNotifications userId refresh =>
    cases ok with
    | true =>
      have hreply : IsPrefix server
          (resume server s (.getInitialNotifications userId refresh) true) ↔
            Fits server s (.getInitialNotifications userId refresh) :=
        initial_isPrefix_iff (by simp [resume]) (by simp [resume]) refresh
      simpa using hreply
    | false =>
      have hsame : IsPrefix server (afterInitial s refresh) :=
        h.congr (afterInitial_notifications s refresh) (afterInitial_userId s refresh)
      simpa [resume] using hsame
  | loadMoreNotifications userId startAfter =>
    cases ok with
    | true =>
      have hreply := loadMore_isPrefix_iff h (sound userId startAfter rfl)
        (t := resume server s (.loadMoreNotifications userId startAfter) true) rfl rfl
      simpa using hreply
    | false =>
      have hsame : IsPrefix server { s with isRequesting := false } := h.congr rfl rfl
      simpa [resume] using hsame

end Reply

theorem afterInitial_callsSound {server : Server} {s : State} (sound : CallsSound server s)
    (refresh : Bool) : CallsSound server (afterInitial s refresh) := by
  intro u startAfter hmem
  unfold afterInitial getNotifications at hmem
  split at hmem
  · split at hmem
    · rcases List.mem_cons.mp hmem with he | hmem
      · cases he
      · exact sound u startAfter hmem
    · exact sound u startAfter hmem
  · exact sound u startAfter hmem

theorem step_isPrefix_iff {server : Server} {s t : State} {e : Event}
    (h : IsPrefix server s) (sound : CallsSound server s) (hstep : step server s e = some t) :
    IsPrefix server t ↔ InTime server s e := by
  cases e with
  | openPage userId =>
    cases hstep
    exact iff_of_true (isPrefix_nil rfl) trivial
  | loadMoreData =>
    obtain ⟨userId, -, hstep⟩ := Option.bind_eq_some_iff.mp hstep
    obtain ⟨last, -, hstep⟩ := Option.bind_eq_some_iff.mp hstep
    split at hstep
    · cases hstep
      exact iff_of_true (h.congr rfl rfl) trivial
    · cases hstep
  | onRefresh =>
    obtain ⟨userId, -, hstep⟩ := Option.bind_eq_some_iff.mp hstep
    cases hstep
    exact iff_of_true (isPrefix_nil rfl) trivial
  | reply call ok =>
    obtain ⟨⟨c, rest⟩, ht, hstep⟩ := Option.bind_eq_some_iff.mp hstep
    cases hstep
    have hrest : IsPrefix server { s with calls := rest } := h.congr rfl rfl
    rw [resume_isPrefix_iff hrest]
    · cases ok with
      | false => exact ⟨fun _ => trivial, fun _ hok => Bool.noConfusion hok⟩
      | true =>
        have hfits : Fits server { s with calls := rest } c ↔ Fits server s c := by
          cases c <;> exact Iff.rfl
        refine Iff.trans ?_ (forall_takeOut_iff (p := fun c _ => Fits server s c) ht).symm
        rw [hfits]
        exact ⟨fun h => h rfl, fun h _ => h⟩
    · rintro userId startAfter rfl
      exact sound userId startAfter (mem_takeOut ht)

/-- While the list is right, further pages are asked for after a notification of its user. -/
theorem step_callsSound {server : Server} {s t : State} {e : Event} (h : IsPrefix server s)
    (sound : CallsSound server s) (hstep : step server s e = some t) : CallsSound server t := by
  cases e with
  | openPage userId =>
    cases hstep
    intro u startAfter hmem
    rw [getNotifications, if_pos rfl] at hmem
    rcases List.mem_cons.mp hmem with he | hmem
    · cases he
    · exact sound u startAfter hmem
  | loadMoreData =>
    obtain ⟨userId, hu, hstep⟩ := Option.bind_eq_some_iff.mp hstep
    obtain ⟨last, hlast, hstep⟩ := Option.bind_eq_some_iff.mp hstep
    split at hstep
    · cases hstep
      intro u startAfter hmem
      rcases List.mem_cons.mp hmem with he | hmem
      · cases he
        exact (h.ofServer userId hu).subset (List.mem_of_getLast? hlast)
      · exact sound u startAfter hmem
    · cases hstep
  | onRefresh =>
    obtain ⟨userId, -, hstep⟩ := Option.bind_eq_some_iff.mp hstep
    cases hstep
    intro u startAfter hmem
    rcases List.mem_cons.mp hmem with he | hmem
    · cases he
    · exact sound u startAfter hmem
  | reply call ok =>
    obtain ⟨⟨c, rest⟩, ht, hstep⟩ := Option.bind_eq_some_iff.mp hstep
    cases hstep
    have hrest : CallsSound server { s with calls := rest } :=
      fun u startAfter hmem => sound u startAfter (mem_of_mem_rest ht hmem)
    cases c with
    | getInitialNotifications userId refresh =>
      cases ok with
      | true =>
        exact afterInitial_callsSound (s := { s with
          notifications := (server.sequence userId).take 10
          calls := rest }) hrest refresh
      | false => exact afterInitial_callsSound hrest refresh
    | loadMoreNotifications userId startAfter =>
      cases ok with
      | true => exact hrest
      | false => exact hrest

/-- The list is right in every state of a run exactly when every reply that changes it fits. -/
theorem isPrefix_iff (server : Server) (es : List Event) :
    EveryState (step server) (IsPrefix server) {} es ↔
      EveryStep (step server) (InTime server) {} es := by
  have hinit : IsPrefix server {} := isPrefix_nil rfl
  have hcalls : CallsSound server {} := fun _ _ hmem => absurd hmem List.not_mem_nil
  exact everyState_iff_everyStep_of_inv (fun _ _ _ h sound hstep => step_callsSound h sound hstep)
    (fun _ _ _ h sound hstep => step_isPrefix_iff h sound hstep) hinit hcalls es

/-- Eleven notifications for one user. -/
def inbox (userId : String) : List Notification :=
  if userId = "u1" then
    [("n11", 11), ("n10", 10), ("n9", 9), ("n8", 8), ("n7", 7), ("n6", 6), ("n5", 5), ("n4", 4),
      ("n3", 3), ("n2", 2), ("n1", 1)].map fun n => ⟨n.1, "u1", n.2⟩
  else []

theorem inbox_sorted (userId : String) : (inbox userId).Pairwise later := by
  unfold inbox
  split
  · decide
  · exact List.Pairwise.nil

theorem inbox_addressed (userId : String) (n : Notification) (hn : n ∈ inbox userId) :
    n.to_id = userId := by
  unfold inbox at hn
  split at hn
  · case isTrue hu =>
    obtain ⟨_, -, rfl⟩ := List.mem_map.mp hn
    exact hu.symm
  · cases hn

def oneInbox : Server := ⟨inbox, inbox_sorted, inbox_addressed⟩

/-- The list is refreshed while its second page is on the way, and that page arrives first. -/
theorem late_page_is_shown_alone :
    ¬ ∀ (server : Server) (es : List Event),
        EveryState (step server) (IsPrefix server) {} es := by
  intro claim
  refine not_everyState_of_run
    (fun t => t.userId = some "u1" ∧ t.notifications = [⟨"n1", "u1", 1⟩]) ?_ ?_
    (claim oneInbox [.openPage "u1", .reply 0 true, .loadMoreData, .onRefresh, .reply 1 true])
  · intro t hbad h
    obtain ⟨hu, hshown⟩ := of_decide_eq_true hbad
    have hprefix := h.ofServer "u1" hu
    rw [hshown] at hprefix
    exact absurd hprefix (by decide)
  · decide

end NotificationList
