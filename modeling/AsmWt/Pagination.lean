import AsmWt.NotificationList

/-!
# The notification list when no two calls overlap

Each call of the controller has its reply before the next one is made. Then the
list can be told from the calls alone: it is what the first page and the page
loads since have brought, and the end is noticed by the first page load that
brings nothing.
-/

namespace Pagination

open Interleaving PendingCalls Paging NotificationList

section Controller

variable (seq : List Notification)

/-- `_getInitialNotifications`; a query that fails leaves the list as it is. -/
def getInitialNotifications (s : State) (ok : Bool) : State :=
  if ok then { s with notifications := seq.take 10 } else s

/-- The query of `loadMoreNotifications`, if there is one, and then its reply. -/
def loadMoreNotifications (s : State) (ok : Bool) : State :=
  match s.notifications.getLast? with
  | none => s
  | some last =>
    if !s.isRequesting && !s.isFinish then
      if ok then
        let notifications := s.notifications ++ pageAfter later seq last 5
        { s with
          notifications := notifications
          isFinish := s.isFinish || s.notifications.length = notifications.length
          isRequesting := false }
      else { s with isRequesting := false }
    else s

def refreshNotifications (s : State) (ok : Bool) : State :=
  getInitialNotifications seq
    { s with notifications := [], isFinish := false, isRequesting := false } ok

end Controller

/-- A call with the outcome of its query, should it make one. -/
inductive Request where
  | getNotifications (ok : Bool)
  | loadMoreNotifications (ok : Bool)
  | refreshNotifications (ok : Bool)

def perform (seq : List Notification) (s : State) : Request → State
  | .getNotifications ok => getNotifications (getInitialNotifications seq · ok) s
  | .loadMoreNotifications ok => loadMoreNotifications seq s ok
  | .refreshNotifications ok => refreshNotifications seq s ok

/-- Whether the latest first page arrived, how many further pages have since, and whether one of
them, since the latest refresh, was asked for when the list was complete and not empty. -/
structure History where
  loaded : Bool := false
  pages : Nat := 0
  sawEnd : Bool := false

/-- `loadMoreNotifications` makes a query. -/
def queries (s : State) : Bool :=
  !s.isRequesting && !s.isFinish && !s.notifications.isEmpty

def record (seq : List Notification) (s : State) (h : History) : Request → History
  | .refreshNotifications ok => { loaded := ok }
  | .getNotifications ok =>
    if s.notifications = [] then { h with loaded := ok, pages := 0 } else h
  | .loadMoreNotifications ok =>
    if queries s && ok then
      { h with
        pages := h.pages + 1
        sawEnd := h.sawEnd || (s.notifications.length = seq.length && 1 ≤ seq.length) }
    else h

/-- The state and the history after some calls. -/
def performAll (seq : List Notification) : State × History → List Request → State × History
  | x, [] => x
  | (s, h), c :: cs => performAll seq (perform seq s c, record seq s h c) cs

/-- The list is exactly what its history says, and the flags are, too. -/
structure Exact (seq : List Notification) (s : State) (h : History) : Prop where
  list : s.notifications = if h.loaded then seq.take (10 + 5 * h.pages) else []
  distinct : s.notifications.Nodup
  isFinish : s.isFinish = true ↔ h.sawEnd = true
  isRequesting : s.isRequesting = false
  /-- A page load that fails, and any after the end, changes nothing at all. -/
  failed : loadMoreNotifications seq s false = s
  finished : s.isFinish = true → ∀ ok, loadMoreNotifications seq s ok = s

section Step

variable {seq : List Notification} {s : State} {h : History}

theorem loadMore_of_queries_eq_false (hq : queries s = false) (ok : Bool) :
    loadMoreNotifications seq s ok = s := by
  rw [loadMoreNotifications]
  split
  · rfl
  · case h_2 last hlast =>
    have hne : s.notifications.isEmpty = false := by
      cases hn : s.notifications with
      | nil =>
        rw [hn] at hlast
        cases hlast
      | cons n l => rfl
    rw [queries, hne, Bool.not_false, Bool.and_true] at hq
    rw [hq]
    rfl

/-- A page load that fails only says that nothing is requested, which was so before. -/
theorem loadMore_failed (hr : s.isRequesting = false) : loadMoreNotifications seq s false = s := by
  have same : { s with isRequesting := false } = s := by
    rw [← hr]
  rw [loadMoreNotifications]
  split
  · rfl
  · simp only [Bool.false_eq_true, if_false, same, ite_self]

/-- What holds of the flags makes the rest of an exact state. -/
theorem Exact.of_flags (sorted : seq.Pairwise later)
    (list : s.notifications = if h.loaded then seq.take (10 + 5 * h.pages) else [])
    (isFinish : s.isFinish = true ↔ h.sawEnd = true) (isRequesting : s.isRequesting = false) :
    Exact seq s h where
  list := list
  distinct := by
    rw [list]
    split
    · exact (nodup_of_sorted later_asymm sorted).sublist (List.take_sublist _ _)
    · exact List.nodup_nil
  isFinish := isFinish
  isRequesting := isRequesting
  failed := loadMore_failed isRequesting
  finished := by
    intro hfinish ok
    apply loadMore_of_queries_eq_false
    rw [queries, hfinish, Bool.not_true, Bool.and_false, Bool.false_and]

/-- A query is made after the last of the notifications that have been loaded. -/
theorem Exact.of_queries (exact : Exact seq s h) (hq : queries s = true) :
    h.loaded = true ∧ s.isFinish = false ∧ ∃ last, s.notifications.getLast? = some last := by
  simp only [queries, Bool.and_eq_true, Bool.not_eq_true', List.isEmpty_eq_false_iff] at hq
  obtain ⟨⟨-, hfinish⟩, hne⟩ := hq
  refine ⟨?_, hfinish, _, List.getLast?_eq_some_getLast hne⟩
  by_contra hloaded
  rw [exact.list, if_neg hloaded] at hne
  exact hne rfl

/-- A page load that succeeds brings the next five notifications, or fewer at the end. -/
theorem Exact.loadMore (exact : Exact seq s h) (sorted : seq.Pairwise later)
    (hq : queries s = true) :
    Exact seq (loadMoreNotifications seq s true)
      (record seq s h (.loadMoreNotifications true)) := by
  obtain ⟨hloaded, hfinish, last, hlast⟩ := exact.of_queries hq
  have hlist : s.notifications = seq.take (10 + 5 * h.pages) := by
    rw [exact.list, if_pos hloaded]
  have hpage : pageAfter later seq last 5 = (seq.drop (10 + 5 * h.pages)).take 5 :=
    pageAfter_take later_asymm sorted (hlist ▸ hlast)
  have hnext : s.notifications ++ pageAfter later seq last 5 =
      seq.take (10 + 5 * (h.pages + 1)) := by
    rw [hlist, hpage, ← List.take_add]
    congr 1
  have hstep : loadMoreNotifications seq s true =
      { s with
        notifications := seq.take (10 + 5 * (h.pages + 1))
        isFinish := s.notifications.length = (seq.take (10 + 5 * (h.pages + 1))).length
        isRequesting := false } := by
    simp only [loadMoreNotifications, hlast, exact.isRequesting, hfinish, hnext, Bool.not_false,
      Bool.and_true, if_true, Bool.false_or]
  have hrecord : record seq s h (.loadMoreNotifications true) =
      { h with
        pages := h.pages + 1
        sawEnd := h.sawEnd || (s.notifications.length = seq.length && 1 ≤ seq.length) } := by
    rw [record, hq]
    rfl
  have hsaw : h.sawEnd = false := by
    by_contra hsaw
    have := exact.isFinish.mpr (by simpa using hsaw)
    rw [hfinish] at this
    cases this
  have hsome : 1 ≤ s.notifications.length := by
    have hne : s.notifications ≠ [] := by
      intro hnil
      rw [hnil] at hlast
      cases hlast
    exact List.length_pos_iff.mpr hne
  rw [hstep, hrecord]
  apply Exact.of_flags sorted
  · simp only [hloaded, if_true]
  · have hlen := congrArg List.length hlist
    rw [List.length_take] at hlen
    simp only [hsaw, Bool.false_or, Bool.and_eq_true, decide_eq_true_eq, List.length_take]
    omega
  · rfl

theorem Exact.perform (exact : Exact seq s h) (sorted : seq.Pairwise later) (c : Request) :
    Exact seq (perform seq s c) (record seq s h c) := by
  cases c with
  | getNotifications ok =>
    by_cases hnil : s.notifications = []
    · simp only [Pagination.perform, getNotifications, record, if_pos hnil, getInitialNotifications]
      cases ok with
      | true => exact .of_flags sorted rfl exact.isFinish exact.isRequesting
      | false => exact .of_flags sorted hnil exact.isFinish exact.isRequesting
    · simp only [Pagination.perform, getNotifications, record, if_neg hnil]
      exact exact
  | loadMoreNotifications ok =>
    cases hq : queries s with
    | false =>
      have hrecord : record seq s h (.loadMoreNotifications ok) = h := by
        rw [record, hq]
        rfl
      rw [Pagination.perform, loadMore_of_queries_eq_false hq, hrecord]
      exact exact
    | true =>
      cases ok with
      | true => exact exact.loadMore sorted hq
      | false =>
        have hrecord : record seq s h (.loadMoreNotifications false) = h := by
          rw [record, Bool.and_false]
          rfl
        rw [Pagination.perform, exact.failed, hrecord]
        exact exact
  | refreshNotifications ok =>
    cases ok with
    | true => exact .of_flags sorted rfl Iff.rfl rfl
    | false => exact .of_flags sorted rfl Iff.rfl rfl

theorem Exact.performAll (x : State × History) (cs : List Request) (exact : Exact seq x.1 x.2)
    (sorted : seq.Pairwise later) : Exact seq (performAll seq x cs).1 (performAll seq x cs).2 := by
  induction cs generalizing x with
  | nil => exact exact
  | cons c cs ih => exact ih _ (exact.perform sorted c)

end Step

/-- After any calls that do not overlap, whichever of their queries fail, the list of a user is
exact. -/
theorem performAll_exact (server : Server) (userId : String) (cs : List Request) :
    Exact (server.sequence userId)
      (performAll (server.sequence userId) ({ userId := some userId }, {}) cs).1
      (performAll (server.sequence userId) ({ userId := some userId }, {}) cs).2 := by
  have start : Exact (server.sequence userId) { userId := some userId } {} :=
    .of_flags (server.sorted userId) rfl Iff.rfl rfl
  exact start.performAll _ cs (server.sorted userId)

section Interleaved

variable (server : Server) (userId : String) (s : State)

/-- Opening the page starts from empty fields and gets the notifications. -/
theorem run_openPage (quiet : s.calls = []) (ok : Bool) :
    run (step server) s [.openPage userId, .reply 0 ok] =
      some (getNotifications (getInitialNotifications (server.sequence userId) · ok)
        { s with
          notifications := []
          isRequesting := false
          isFinish := false
          userId := userId }) := by
  cases ok <;>
    simp [run, step, getNotifications, State.await, takeOut, resume, afterInitial,
      getInitialNotifications, quiet]

/-- A page load that makes a query is the query with its reply next. -/
theorem run_loadMoreData (hu : s.userId = some userId) (quiet : s.calls = [])
    (hq : queries s = true) (ok : Bool) :
    run (step server) s [.loadMoreData, .reply 0 ok] =
      some (loadMoreNotifications (server.sequence userId) s ok) := by
  simp only [queries, Bool.and_eq_true, Bool.not_eq_true', List.isEmpty_eq_false_iff] at hq
  obtain ⟨⟨hr, hf⟩, hne⟩ := hq
  have hlast := List.getLast?_eq_some_getLast hne
  have hend : ∀ l : List Notification, l.isEmpty = decide (l = []) := by
    intro l
    cases l <;> simp
  cases ok <;>
    simp [run, step, State.await, takeOut, resume, loadMoreNotifications, hu, hlast, hr, hf, quiet,
      hend]

/-- The view's refresh is the controller's, and then another `getNotifications`. -/
theorem run_onRefresh (hu : s.userId = some userId) (quiet : s.calls = []) (ok : Bool) :
    run (step server) s [.onRefresh, .reply 0 ok] =
      some (getNotifications (·.await (.getInitialNotifications userId false))
        (refreshNotifications (server.sequence userId) s ok)) := by
  cases ok <;>
    simp [run, step, State.await, takeOut, resume, afterInitial, refreshNotifications,
      getInitialNotifications, hu, quiet]

end Interleaved
end Pagination
