import AsmWt.DeletedTask
import AsmWt.Interleaving
import AsmWt.PendingCalls

/-!
# The number on the bell

The app bar counts the notifications of an employee that were not viewed. A press
on a card goes by what was read when the list was loaded, on this device or on
another one, so the same card may be written to again and again.
-/

namespace UnseenNotifications

open KeyedRecord Firestore DocStore DeletedTask Interleaving PendingCalls TasksModel

structure NotificationModel where
  notificationId : Option String := none
  toId : Option String := none
  fromId : Option String := none
  title : Option String := none
  titleId : Option String := none
  desc : Option String := none
  createdDate : Option Int := none
  view : Option Bool := none
  color : Option String := none
  notifyCode : Option String := none
  status : Option String := none

/-- `NotificationModel.fromDocumentSnapshot`; `none` is the type error of a wrongly typed field. -/
def fromDocumentSnapshot (id : String) (data : Doc) : Option NotificationModel := do
  let toId ← Codec.string.decode (data "to_id")
  let desc ← Codec.string.decode (data "desc")
  let title ← Codec.string.decode (data "title")
  let fromId ← Codec.string.decode (data "from_id")
  let createdDate ← Codec.timestamp.decode (data "created_date")
  let titleId ← Codec.string.decode (data "title_id")
  let view ← Codec.bool.decode (data "view")
  let color ← Codec.string.decode (data "color")
  let notifyCode ← Codec.string.decode (data "noti_code")
  let status ← Codec.string.decode (data "status")
  return {
    notificationId := some id
    toId, desc, title, fromId, createdDate, titleId, view, color, notifyCode, status }

/-- `NotificationModel.toJson`; the date is the time it is called. -/
def toJson (m : NotificationModel) (now : Int) : Payload :=
  [("to_id", Codec.string.encode m.toId),
    ("desc", Codec.string.encode m.desc),
    ("from_id", Codec.string.encode m.fromId),
    ("created_date", .timestamp now),
    ("title", Codec.string.encode m.title),
    ("title_id", Codec.string.encode m.titleId),
    ("view", .bool false),
    ("noti_code", .str "task"),
    ("status", Codec.string.encode m.status)]

/-- What `createNotification` hands over; `time` is the text of the time. -/
def createNotification (taskModel : Option TaskModel) (action time : String) (now : Int) :
    Payload :=
  toJson
    { desc := some ("Action on : " ++ time)
      title := some ("Task " ++ action)
      titleId := taskModel.bind (·.taskId)
      fromId := taskModel.bind (·.userId)
      status := some action
      toId := taskModel.bind (·.controllerId) } now

/-- The query of `getUnseenItemsSnapshotByDriverId`; documents without the date it is ordered by are
left out. -/
def unseen (driverId : String) (d : Doc) : Bool :=
  d "to_id" = .str driverId ∧ d "view" = .bool false ∧ d "created_date" ≠ .null

/-- The number on the bell. -/
def badge (notifications : Collection) (driverId : String) : Nat :=
  notifications.count (unseen driverId)

def NotificationModel.item (m : NotificationModel) : NotificationItem where
  notificationId := m.notificationId.getD ""
  titleId := m.titleId
  view := m.view
  notifyCode := m.notifyCode

/-- `updateNotificationById`; every failure is caught and changes nothing. -/
def updateNotificationById (notifications : Collection) (notificationId : String)
    (data : Payload) (reached : Bool) : Option Collection :=
  if notificationId = "" ∨ ¬ reached then none else updateData notifications notificationId data

/-- The notifications, every document as some list has read it, and the writes under way; beside
them, the documents as they arrived, and those that a write has turned from unseen to seen. -/
structure State where
  notifications : Collection
  read : List (String × Doc) := []
  writes : List (String × Payload) := []
  arrived : List (String × Doc) := []
  seen : List (String × Doc) := []

/-- A notification arrives, or a list is loaded, on any device; a card of any list is pressed; a
write of a press comes to its end. -/
inductive Event where
  | notify (notificationId : String) (doc : Doc)
  | getNotifications
  | onNotificationItemPress (card : Nat) (tasks : Collection) (taskReached : Bool)
  | written (write : Nat) (reached : Bool)

/-- The document before a write, if the write shows it for the first time. -/
def firstSeen (notifications : Collection) (id : String) : List (String × Doc) :=
  match notifications.get? id with
  | some d => if d "view" = .bool false then [(id, d)] else []
  | none => []

def step (s : State) : Event → Option State
  | .notify notificationId doc =>
    (s.notifications.insert notificationId doc).map fun notifications =>
      { s with notifications, arrived := (notificationId, doc) :: s.arrived }
  | .getNotifications => some { s with read := s.read ++ s.notifications.entries }
  | .onNotificationItemPress card tasks taskReached => do
    let doc ← s.read[card]?
    let m ← fromDocumentSnapshot doc.1 doc.2
    let press := onNotificationItemPress tasks taskReached m.item
    some { s with writes := press.written.toList ++ s.writes }
  | .written write reached => do
    let (w, writes) ← takeOut s.writes write
    match updateNotificationById s.notifications w.1 w.2 reached with
    | none => some { s with writes }
    | some notifications =>
      some { s with notifications, writes, seen := firstSeen s.notifications w.1 ++ s.seen }

/-- All that was there from the beginning counts as arrived. -/
def initial (notifications : Collection) : State :=
  { notifications, arrived := notifications.entries }

/-- Every notification on some bell has arrived and was not seen yet, and none is seen twice or
becomes unseen again. -/
structure Accounted (s : State) : Prop where
  balance : ∀ driverId,
    badge s.notifications driverId + s.seen.countP (fun e => unseen driverId e.2) =
      s.arrived.countP fun e => unseen driverId e.2
  once : (s.seen.map Prod.fst).Nodup
  stays : ∀ e ∈ s.seen, ∃ d, s.notifications.get? e.1 = some d ∧ d "view" = .bool true

section Account

variable {s t : State} {driverId : String}

/-- All that a press ever writes. -/
def viewed : Payload := [("view", .bool true)]

/-- Whatever it brings up, a press writes if the card shows the notification as unseen. -/
theorem written_eq (tasks : Collection) (reached : Bool) (item : NotificationItem) :
    (onNotificationItemPress tasks reached item).written =
      if item.view = some false then some (item.notificationId, viewed) else none := by
  cases hview : item.view with
  | none => simp [onNotificationItemPress, hview]
  | some view =>
    have written : (onNotificationItemPress tasks reached item).written =
        if view then none else some (item.notificationId, viewed) := by
      simp only [onNotificationItemPress, hview]
      split
      · rfl
      split
      · cases item.titleId with
        | none => rfl
        | some titleId =>
          dsimp only
          split
          · rfl
          · rfl
      · rfl
    rw [written]
    cases view with
    | true => rfl
    | false => rfl

theorem written_press {tasks : Collection} {reached : Bool} {item : NotificationItem}
    {w : String × Payload}
    (h : w ∈ (onNotificationItemPress tasks reached item).written.toList) : w.2 = viewed := by
  rw [written_eq] at h
  split at h
  · rw [List.mem_singleton.mp h]
  · cases h

theorem update_viewed (d : Doc) : update d viewed "view" = .bool true := rfl

theorem unseen_update_viewed (d : Doc) : unseen driverId (update d viewed) = false := by
  simp [unseen, update_viewed]

theorem view_of_unseen {d : Doc} (h : unseen driverId d = true) : d "view" = .bool false :=
  (of_decide_eq_true h).2.1

/-- A write takes one off a bell, or none. -/
theorem badge_written {notifications notifications' : Collection} {id : String} {d : Doc}
    (h : updateData notifications id viewed = some notifications')
    (hd : notifications.get? id = some d) (driverId : String) :
    badge notifications' driverId +
        (firstSeen notifications id).countP (fun e => unseen driverId e.2) =
      badge notifications driverId := by
  have count := Store.count_modify h hd (unseen driverId)
  rw [unseen_update_viewed, if_neg Bool.false_ne_true, Nat.add_zero] at count
  rw [badge, badge, ← count, firstSeen, hd]
  dsimp only
  by_cases hview : d "view" = .bool false
  · simp [hview]
  · have other : unseen driverId d = false :=
      Bool.eq_false_iff.mpr fun hu => hview (view_of_unseen hu)
    simp [hview, other]

theorem updateNotificationById_eq_some {notifications notifications' : Collection} {id : String}
    {data : Payload} {reached : Bool}
    (h : updateNotificationById notifications id data reached = some notifications') :
    updateData notifications id data = some notifications' :=
  (Option.ite_none_left_eq_some.mp h).2

/-- A document that was seen is not seen for the first time again. -/
theorem firstSeen_of_viewed {notifications : Collection} {id : String} {d : Doc}
    (hd : notifications.get? id = some d) (hview : d "view" = .bool true) :
    firstSeen notifications id = [] := by
  rw [firstSeen, hd]
  exact if_neg (by simp [hview])

theorem mem_firstSeen {notifications : Collection} {id : String} {e : String × Doc}
    (h : e ∈ firstSeen notifications id) : e.1 = id := by
  rw [firstSeen] at h
  split at h
  · split at h
    · rw [List.mem_singleton.mp h]
    · cases h
  · cases h

theorem nodup_firstSeen (notifications : Collection) (id : String) :
    ((firstSeen notifications id).map Prod.fst).Nodup := by
  rw [firstSeen]
  split
  · split
    · exact List.nodup_cons.mpr ⟨List.not_mem_nil, List.nodup_nil⟩
    · exact List.nodup_nil
  · exact List.nodup_nil

/-- The account, and writes that do nothing but show a notification. -/
structure Inv (s : State) : Prop where
  accounted : Accounted s
  writes : ∀ w ∈ s.writes, w.2 = viewed

theorem Accounted.notify (h : Accounted s) {id : String} {doc : Doc} {c : Collection}
    (hc : s.notifications.insert id doc = some c) :
    Accounted { s with notifications := c, arrived := (id, doc) :: s.arrived } where
  balance driverId := by
    have before := h.balance driverId
    have count := Store.count_insert hc (unseen driverId)
    simp only [badge, List.countP_cons] at before ⊢
    omega
  once := h.once
  stays e he := by
    obtain ⟨d, hd, hview⟩ := h.stays e he
    exact ⟨d, Store.get?_insert_of_get? hc hd, hview⟩

theorem Accounted.written (h : Accounted s) {id : String} {c : Collection}
    {writes : List (String × Payload)} (hc : updateData s.notifications id viewed = some c) :
    Accounted { s with
      notifications := c, writes, seen := firstSeen s.notifications id ++ s.seen } := by
  obtain ⟨⟨d, hd⟩, -⟩ := Store.modify_eq_some hc
  have landed : c.get? id = some (update d viewed) := by
    obtain ⟨c', hc', hget⟩ := Store.modify_of_get? hd fun d => update d viewed
    cases hc.symm.trans hc'
    exact hget
  have stays : ∀ e ∈ s.seen, ∃ d, c.get? e.1 = some d ∧ d "view" = .bool true := by
    intro e he
    obtain ⟨d', hd', hview⟩ := h.stays e he
    by_cases same : e.1 = id
    · refine ⟨update d viewed, ?_, update_viewed d⟩
      rw [same]
      exact landed
    · refine ⟨d', ?_, hview⟩
      apply Store.get?_eq_some_iff.mpr
      exact (Store.mem_modify hc).mpr (Or.inl ⟨same, Store.get?_eq_some_iff.mp hd'⟩)
  constructor
  · intro driverId
    have before := h.balance driverId
    have one := badge_written hc hd driverId
    simp only [List.countP_append]
    omega
  · rw [List.map_append]
    refine List.nodup_append.mpr ⟨nodup_firstSeen _ _, h.once, ?_⟩
    rintro i hi j hj rfl
    obtain ⟨e, he, rfl⟩ := List.mem_map.mp hi
    obtain ⟨f, hf, hfe⟩ := List.mem_map.mp hj
    obtain ⟨d', hd', hview⟩ := h.stays f hf
    rw [hfe, mem_firstSeen he] at hd'
    rw [firstSeen_of_viewed hd' hview] at he
    cases he
  · intro e he
    rcases List.mem_append.mp he with he | he
    · rw [mem_firstSeen he]
      exact ⟨_, landed, update_viewed d⟩
    · exact stays e he

theorem step_inv {e : Event} (h : Inv s) (hstep : step s e = some t) : Inv t := by
  cases e with
  | notify id doc =>
    obtain ⟨c, hc, rfl⟩ := Option.map_eq_some_iff.mp hstep
    exact ⟨h.accounted.notify hc, h.writes⟩
  | getNotifications =>
    cases hstep
    exact ⟨⟨h.accounted.balance, h.accounted.once, h.accounted.stays⟩, h.writes⟩
  | onNotificationItemPress card tasks reached =>
    obtain ⟨doc, -, hstep⟩ := Option.bind_eq_some_iff.mp hstep
    obtain ⟨m, -, hstep⟩ := Option.bind_eq_some_iff.mp hstep
    cases hstep
    refine ⟨⟨h.accounted.balance, h.accounted.once, h.accounted.stays⟩, fun w hw => ?_⟩
    rcases List.mem_append.mp hw with hw | hw
    · exact written_press hw
    · exact h.writes w hw
  | written write reached =>
    obtain ⟨⟨w, writes⟩, htake, hstep⟩ := Option.bind_eq_some_iff.mp hstep
    have rest : ∀ w' ∈ writes, w'.2 = viewed := fun w' hw' =>
      h.writes w' (mem_of_mem_rest htake hw')
    dsimp only at hstep
    cases hc : updateNotificationById s.notifications w.1 w.2 reached with
    | none =>
      rw [hc] at hstep
      cases hstep
      exact ⟨⟨h.accounted.balance, h.accounted.once, h.accounted.stays⟩, rest⟩
    | some c =>
      rw [hc] at hstep
      cases hstep
      have landed := updateNotificationById_eq_some hc
      rw [h.writes w (mem_takeOut htake)] at landed
      exact ⟨h.accounted.written landed, rest⟩

theorem inv_initial (notifications : Collection) : Inv (initial notifications) where
  accounted :=
    { balance := fun _ => Nat.add_zero _
      once := List.nodup_nil
      stays := fun _ he => nomatch he }
  writes := fun _ hw => nomatch hw

end Account

/-- In every run, however stale the pressed cards are and in whatever order their writes land, the
bell of each employee shows what has arrived less what was seen. -/
theorem bell_accounts (notifications : Collection) (es : List Event) :
    EveryState step Accounted (initial notifications) es := by
  have always : EveryState step Inv (initial notifications) es :=
    everyState_of_inv (fun _ _ _ h hstep => step_inv h hstep) (inv_initial notifications) es
  exact always.mono fun _ h => h.accounted

section Created

variable {taskModel : Option TaskModel} {action time : String} {now : Int}

/-- The notification that an accepted task leaves for its controller. -/
def created (taskModel : Option TaskModel) (action time : String) (now : Int) : Doc :=
  update (fun _ => .null) (createNotification taskModel action time now)

/-- What a list reads of it. -/
def createdModel (id : String) (taskModel : Option TaskModel) (action time : String) (now : Int) :
    NotificationModel where
  notificationId := some id
  toId := taskModel.bind (·.controllerId)
  fromId := taskModel.bind (·.userId)
  title := some ("Task " ++ action)
  titleId := taskModel.bind (·.taskId)
  desc := some ("Action on : " ++ time)
  createdDate := some now
  view := some false
  notifyCode := some "task"
  status := some action

theorem fromDocumentSnapshot_created (id : String) :
    fromDocumentSnapshot id (created taskModel action time now) =
      some (createdModel id taskModel action time now) := by
  have toId : created taskModel action time now "to_id" =
    Codec.string.encode (taskModel.bind (·.controllerId)) := rfl
  have fromId : created taskModel action time now "from_id" =
    Codec.string.encode (taskModel.bind (·.userId)) := rfl
  have titleId : created taskModel action time now "title_id" =
    Codec.string.encode (taskModel.bind (·.taskId)) := rfl
  have desc : created taskModel action time now "desc" =
    Codec.string.encode (some ("Action on : " ++ time)) := rfl
  have title : created taskModel action time now "title" =
    Codec.string.encode (some ("Task " ++ action)) := rfl
  have createdDate : created taskModel action time now "created_date" =
    Codec.timestamp.encode (some now) := rfl
  have view : created taskModel action time now "view" = Codec.bool.encode (some false) := rfl
  have color : created taskModel action time now "color" = Codec.string.encode none := rfl
  have notifyCode : created taskModel action time now "noti_code" =
    Codec.string.encode (some "task") := rfl
  have status : created taskModel action time now "status" =
    Codec.string.encode (some action) := rfl
  simp only [fromDocumentSnapshot, toId, fromId, titleId, desc, title, createdDate, view, color,
    notifyCode, status, Codec.decode_encode, Option.bind_eq_bind, Option.bind_some,
    Option.pure_def]
  rfl

/-- Such a notification is on the bell of the one who made the task and of nobody else. -/
theorem unseen_created (driverId : String) :
    unseen driverId (created taskModel action time now) = true ↔
      taskModel.bind (·.controllerId) = some driverId := by
  have toId : created taskModel action time now "to_id" =
    Codec.string.encode (taskModel.bind (·.controllerId)) := rfl
  have view : created taskModel action time now "view" = .bool false := rfl
  have createdDate : created taskModel action time now "created_date" = .timestamp now := rfl
  rw [unseen, toId, view, createdDate, decide_eq_true_iff, Codec.string_encode_eq_str_iff]
  simp

/-- A mark is all that a press changes of what is read. -/
theorem fromDocumentSnapshot_viewed {id : String} {d : Doc} {m : NotificationModel}
    (h : fromDocumentSnapshot id d = some m) :
    fromDocumentSnapshot id (update d viewed) = some { m with view := some true } := by
  simp only [fromDocumentSnapshot, ↓Codec.decode_bind_eq_some_iff, Option.pure_def,
    Option.some.injEq] at h ⊢
  obtain ⟨_, h1, _, h2, _, h3, _, h4, _, h5, _, h6, _, -, _, h8, _, h9, _, h10, rfl⟩ := h
  exact ⟨_, h1, _, h2, _, h3, _, h4, _, h5, _, h6, some true, rfl, _, h8, _, h9, _, h10, rfl⟩

end Created

section Copies

variable {s t : State}

/-- A document and what a press may have made of it. -/
def Copy (before after : Doc) : Prop := after = before ∨ after = update before viewed

theorem update_update_viewed (d : Doc) : update (update d viewed) viewed = update d viewed := by
  funext k
  by_cases hk : k = "view"
  · rw [hk]
    rfl
  · have unsent : k ∉ keys viewed := by simpa [keys, viewed] using hk
    exact update_of_not_mem unsent

theorem Copy.viewed {before after : Doc} (h : Copy before after) :
    Copy before (update after viewed) := by
  rcases h with rfl | rfl
  · exact Or.inr rfl
  · exact Or.inr (update_update_viewed before)

/-- Every document, in the collection or in a list of any age, is a copy of the one that arrived
under its id, and is that one as long as nobody has seen it. -/
structure Traced (s : State) : Prop where
  ids : (s.arrived.map Prod.fst).Perm (s.notifications.entries.map Prod.fst)
  stored : ∀ a ∈ s.arrived, ∀ d, s.notifications.get? a.1 = some d →
    Copy a.2 d ∧ (a.2 "view" = .bool false → a.1 ∉ s.seen.map Prod.fst → d = a.2)
  read : ∀ e ∈ s.read, ∃ a ∈ s.arrived, a.1 = e.1 ∧ Copy a.2 e.2

theorem Traced.get? (h : Traced s) {a : String × Doc} (ha : a ∈ s.arrived) :
    ∃ d, s.notifications.get? a.1 = some d :=
  Option.isSome_iff_exists.mp
    (Store.get?_isSome_iff.mpr (h.ids.mem_iff.mp (List.mem_map_of_mem ha)))

/-- What is in a list came from one arrival only. -/
theorem Traced.copy (h : Traced s) {a e : String × Doc} (ha : a ∈ s.arrived) (he : e ∈ s.read)
    (hid : e.1 = a.1) : Copy a.2 e.2 := by
  obtain ⟨b, hb, hbe, hcopy⟩ := h.read e he
  have nodup : (s.arrived.map Prod.fst).Nodup := h.ids.nodup_iff.mpr s.notifications.unique
  have same : a = b := List.inj_on_of_nodup_map nodup ha hb (hid.symm.trans hbe.symm)
  rw [same]
  exact hcopy

theorem Traced.notify (h : Traced s) {id : String} {doc : Doc} {c : Collection}
    (hc : s.notifications.insert id doc = some c) :
    Traced { s with notifications := c, arrived := (id, doc) :: s.arrived } where
  ids := by
    rw [Store.entries_insert hc]
    exact h.ids.cons id
  stored a ha d hd := by
    rcases List.mem_cons.mp ha with rfl | ha
    · have own := (Store.mem_insert hc).mpr (Or.inl ⟨rfl, rfl⟩)
      cases (Store.get?_eq_some_iff.mpr own).symm.trans hd
      exact ⟨Or.inl rfl, fun _ _ => rfl⟩
    · obtain ⟨d', hd'⟩ := h.get? ha
      cases (Store.get?_insert_of_get? hc hd').symm.trans hd
      exact h.stored a ha d hd'
  read e he := by
    obtain ⟨a, ha, hcopy⟩ := h.read e he
    exact ⟨a, List.mem_cons_of_mem _ ha, hcopy⟩

theorem Traced.getNotifications (h : Traced s) :
    Traced { s with read := s.read ++ s.notifications.entries } where
  ids := h.ids
  stored := h.stored
  read e he := by
    rcases List.mem_append.mp he with he | he
    · exact h.read e he
    · obtain ⟨a, ha, hid⟩ := List.mem_map.mp (h.ids.mem_iff.mpr (List.mem_map_of_mem he))
      have found : s.notifications.get? a.1 = some e.2 := by
        rw [hid]
        exact Store.get?_eq_some_iff.mpr he
      exact ⟨a, ha, hid, (h.stored a ha e.2 found).1⟩

/-- A write that shows a notification for the first time says so. -/
theorem Traced.written (h : Traced s) {id : String} {c : Collection}
    {writes : List (String × Payload)} (hc : updateData s.notifications id viewed = some c) :
    Traced { s with
      notifications := c, writes, seen := firstSeen s.notifications id ++ s.seen } where
  ids := by
    rw [(Store.modify_eq_some hc).2, List.map_map]
    have kept : Prod.fst ∘ Store.replaceIn id (fun d => update d viewed) = Prod.fst :=
      funext (Store.replaceIn_fst id _)
    rw [kept]
    exact h.ids
  stored a ha d hd := by
    rcases (Store.mem_modify hc).mp (Store.get?_eq_some_iff.mp hd) with
      ⟨-, hmem⟩ | ⟨hid, before, hmem, rfl⟩
    · obtain ⟨hcopy, hsame⟩ := h.stored a ha d (Store.get?_eq_some_iff.mpr hmem)
      refine ⟨hcopy, fun hview hseen => hsame hview fun hold => hseen ?_⟩
      rw [List.map_append]
      exact List.mem_append_right _ hold
    · have found : s.notifications.get? a.1 = some before := by
        rw [hid]
        exact Store.get?_eq_some_iff.mpr hmem
      obtain ⟨hcopy, hsame⟩ := h.stored a ha before found
      refine ⟨hcopy.viewed, fun hview hseen => ?_⟩
      rw [List.map_append, List.mem_append, not_or] at hseen
      have unmarked : before = a.2 := hsame hview hseen.2
      have first : firstSeen s.notifications id = [(id, before)] := by
        rw [← hid, firstSeen, found]
        exact if_pos (by rw [unmarked, hview])
      rw [first, ← hid] at hseen
      exact absurd (List.mem_singleton.mpr rfl) hseen.1
  read := h.read

theorem step_traced {e : Event} (hinv : Inv s) (h : Traced s) (hstep : step s e = some t) :
    Traced t := by
  cases e with
  | notify id doc =>
    obtain ⟨c, hc, rfl⟩ := Option.map_eq_some_iff.mp hstep
    exact h.notify hc
  | getNotifications =>
    cases hstep
    exact h.getNotifications
  | onNotificationItemPress card tasks reached =>
    obtain ⟨doc, -, hstep⟩ := Option.bind_eq_some_iff.mp hstep
    obtain ⟨m, -, hstep⟩ := Option.bind_eq_some_iff.mp hstep
    cases hstep
    exact { h with }
  | written write reached =>
    obtain ⟨⟨w, writes⟩, htake, hstep⟩ := Option.bind_eq_some_iff.mp hstep
    dsimp only at hstep
    cases hc : updateNotificationById s.notifications w.1 w.2 reached with
    | none =>
      rw [hc] at hstep
      cases hstep
      exact { h with }
    | some c =>
      rw [hc] at hstep
      cases hstep
      have landed := updateNotificationById_eq_some hc
      rw [hinv.writes w (mem_takeOut htake)] at landed
      exact h.written landed

theorem traced_initial (notifications : Collection) : Traced (initial notifications) where
  ids := List.Perm.refl _
  stored a ha d hd := by
    cases (Store.get?_eq_some_iff.mpr ha).symm.trans hd
    exact ⟨Or.inl rfl, fun _ _ => rfl⟩
  read := fun _ he => nomatch he

end Copies

/-- A notification that the app makes by itself: it is on the bell of the one who made the task, as
long as nobody has seen it, and on no other; and no card of it, of whatever list, opens anything. -/
structure Silent (s : State) (id : String) (taskModel : Option TaskModel) : Prop where
  bell : ∀ driverId, (∃ d, s.notifications.get? id = some d ∧ unseen driverId d = true) ↔
    taskModel.bind (·.controllerId) = some driverId ∧ id ∉ s.seen.map Prod.fst
  cards : ∀ e ∈ s.read, e.1 = id → ∃ m, fromDocumentSnapshot e.1 e.2 = some m ∧
    ∀ tasks reached, (onNotificationItemPress tasks reached m.item).shown = .nothing

section Silent

variable {s : State} {taskModel : Option TaskModel} {action time id : String} {now : Int}

/-- Seen or not, its code is none that the press knows a page for. -/
theorem press_copy {doc : Doc} (h : Copy (created taskModel action time now) doc) :
    ∃ m, fromDocumentSnapshot id doc = some m ∧
      ∀ tasks reached, (onNotificationItemPress tasks reached m.item).shown = .nothing := by
  rcases h with rfl | rfl
  · exact ⟨_, fromDocumentSnapshot_created id, fun _ _ => rfl⟩
  · exact ⟨_, fromDocumentSnapshot_viewed (fromDocumentSnapshot_created id), fun _ _ => rfl⟩

theorem silent_of_arrived (hinv : Inv s) (h : Traced s)
    (ha : (id, created taskModel action time now) ∈ s.arrived) : Silent s id taskModel where
  bell driverId := by
    have fresh : created taskModel action time now "view" = .bool false := rfl
    rw [← unseen_created driverId]
    constructor
    · rintro ⟨d, hd, hunseen⟩
      have hview := view_of_unseen hunseen
      refine ⟨?_, fun hseen => ?_⟩
      · rcases (h.stored _ ha d hd).1 with rfl | rfl
        · exact hunseen
        · cases (update_viewed _).symm.trans hview
      · obtain ⟨e, he, rfl⟩ := List.mem_map.mp hseen
        obtain ⟨d', hd', hviewed⟩ := hinv.accounted.stays e he
        cases hd.symm.trans hd'
        cases hviewed.symm.trans hview
    · rintro ⟨hunseen, hseen⟩
      obtain ⟨d, hd⟩ := h.get? ha
      rw [(h.stored _ ha d hd).2 fresh hseen] at hd
      exact ⟨_, hd, hunseen⟩
  cards e he hid := press_copy (h.copy ha he hid)

end Silent

/-- In every run, each notification that the app made by itself rings for the one who made the task
until it is seen, and leads nowhere. -/
theorem created_opens_nothing (notifications : Collection) (es : List Event) :
    EveryState step
      (fun s => ∀ id taskModel action time now,
        (id, created taskModel action time now) ∈ s.arrived → Silent s id taskModel)
      (initial notifications) es := by
  have always : EveryState step (fun s => Inv s ∧ Traced s) (initial notifications) es :=
    everyState_of_inv
      (fun _ _ _ h hstep => ⟨step_inv h.1 hstep, step_traced h.1 h.2 hstep⟩)
      ⟨inv_initial notifications, traced_initial notifications⟩ es
  exact always.mono fun _ h _ _ _ _ _ ha => silent_of_arrived h.1 h.2 ha

end UnseenNotifications
