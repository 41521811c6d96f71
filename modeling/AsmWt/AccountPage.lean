import AsmWt.Interleaving
import AsmWt.PendingCalls
import AsmWt.ProfilePhoto
import AsmWt.SignInLookup

/-!
# The account page

The page lets its user pick a status and a photo, and confirm the deletion of the
account by typing the username. The deletion signs out; all that the page ever
writes to a record of an employee is the status and where the photo is.
-/

namespace AccountPage

open KeyedRecord Firestore DocStore Employees DeviceGate SignInLookup Interleaving PendingCalls

/-- The list `UserStatus.userStatusList`. -/
def userStatusList : List String := ["Available", "Unavailable", "Offline"]

/-- A dialog of `onStatusPressed`: whose it is, the choice it shows, and what its map holds under
`user_status`. -/
structure StatusDialog where
  userId : Option String
  userStatus : Option String
  status : Option String := none

/-- A confirmed deletion: the text that was typed last, the username of the dialog it was typed in,
and the username of the dialog that was confirmed. -/
structure Deletion where
  typed : String
  typedIn : Option String
  username : String

/-- A sign-out awaits the service, then its delay. -/
inductive SignOut where
  | signOut
  | delayed

/-- What the camera button waits for, with the id of the worker: the gallery, the deletion of the
previous photo, and the upload, the address and the record of the new one. -/
inductive Photo where
  | pickImage (userId : String) (previousImageName : Option String)
  | delete (userId name : String)
  | putFile (userId photo : String)
  | getDownloadURL (userId photo : String)
  | updateData (userId photo imageUrl : String)

inductive PhotoReply where
  | picked (name : Option String) (now : Int)
  | result (ok : Bool) (now : Int)
  | url (imageUrl : String)

/-- The records, the stored session, the fields of `MyAccountController`, the open dialogs, and the
calls under way; beside them, where the text was typed, and the confirmed deletions. -/
structure State where
  employees : Collection
  userId : Option String := none
  username : Option String := none
  accountDelCon : String := ""
  correctDelName : Bool := false
  deleteDialog : Option String := none
  statusDialogs : List StatusDialog := []
  writes : List (Option String × Payload) := []
  photos : List Photo := []
  signOuts : List SignOut := []
  typedIn : Option String := none
  deletions : List Deletion := []

inductive Event where
  | signedIn (userId username : String)
  | onStatusPressed (userStatus userId : Option String)
  | onStatusChanged (dialog choice : Nat)
  | onStatusConfirmed (dialog : Nat)
  | written (write : Nat) (reached : Bool)
  | getFromGallery (userId : String) (previousImageName : Option String)
  | resumePhoto (photo : Nat) (reply : PhotoReply)
  | showActionConfirmDelAccFunc
  | onDelNameChanged (text : String)
  | closeDelDialog
  | onConfirmDelPressed
  | onSignOutPressed
  | resume (signOut : Nat) (ok : Bool)

/-- `updateUserInfoByUserId`; every failure is caught and changes nothing. -/
def updateUserInfoByUserId (employees : Collection) (userId : Option String) (data : Payload)
    (reached : Bool) : Collection :=
  match userId with
  | none => employees
  | some userId =>
    if userId = "" ∨ reached = false then employees
    else (updateData employees userId data).getD employees

/-- The call that follows in `getFromGallery` and `updateUserProfilePhotoByUserID`; the name of the
file starts with the time after the deletion, and an exception ends the update. -/
def Photo.next : Photo → PhotoReply → Option Photo
  | .pickImage userId previousImageName, .picked (some name) now =>
    some (if previousImageName.isSome then .delete userId name
      else .putFile userId (ProfilePhoto.photoName now name))
  | .delete userId name, .result true now =>
    some (.putFile userId (ProfilePhoto.photoName now name))
  | .putFile userId photo, .result true _ => some (.getDownloadURL userId photo)
  | .getDownloadURL userId photo, .url imageUrl => some (.updateData userId photo imageUrl)
  | _, _ => none

/-- The records after a reply. -/
def Photo.written (employees : Collection) : Photo → PhotoReply → Collection
  | .updateData userId photo imageUrl, .result true _ =>
    if userId = "" then employees
    else (Firestore.updateData employees userId
      [("profile_url", .str imageUrl), ("profile_file_name", .str photo)]).getD employees
  | _, _ => employees

def StatusDialog.change (val : String) (d : StatusDialog) : StatusDialog :=
  { d with userStatus := some val, status := some val }

/-- The map that is handed over; without a choice it is empty. -/
def StatusDialog.data (d : StatusDialog) : Payload := optional "user_status" (d.status.map .str)

def step (s : State) : Event → Option State
  | .signedIn userId username => some { s with userId := some userId, username := some username }
  -- the guard of a missing connection compares a list with a value and never holds
  | .onStatusPressed userStatus userId =>
    some { s with statusDialogs := s.statusDialogs ++ [{ userId, userStatus }] }
  | .onStatusChanged dialog choice => do
    let val ← userStatusList[choice]?
    return { s with statusDialogs := s.statusDialogs.modify dialog (·.change val) }
  | .onStatusConfirmed dialog => do
    let d ← s.statusDialogs[dialog]?
    return { s with writes := (d.userId, d.data) :: s.writes }
  | .written write reached => do
    let ((userId, data), writes) ← takeOut s.writes write
    return { s with
      writes
      employees := updateUserInfoByUserId s.employees userId data reached }
  | .getFromGallery userId previousImageName =>
    some { s with photos := .pickImage userId previousImageName :: s.photos }
  | .resumePhoto photo reply => do
    let (p, photos) ← takeOut s.photos photo
    return { s with
      photos := (p.next reply).toList ++ photos
      employees := p.written s.employees reply }
  | .showActionConfirmDelAccFunc => some { s with deleteDialog := some (s.username.getD "") }
  | .onDelNameChanged text => do
    let username ← s.deleteDialog
    return { s with
      accountDelCon := text
      correctDelName := text = username
      typedIn := some username }
  | .closeDelDialog => some { s with deleteDialog := none }
  | .onConfirmDelPressed => do
    let username ← s.deleteDialog
    -- the other button does nothing
    if s.correctDelName then
      return { s with
        signOuts := .signOut :: s.signOuts
        deletions := ⟨s.accountDelCon, s.typedIn, username⟩ :: s.deletions }
    else some s
  | .onSignOutPressed => some { s with signOuts := .signOut :: s.signOuts }
  | .resume signOut ok => do
    let (call, signOuts) ← takeOut s.signOuts signOut
    match call with
    | .signOut => return { s with signOuts := if ok then .delayed :: signOuts else signOuts }
    | .delayed =>
      return { s with signOuts, userId := some "", username := some "", deleteDialog := none }

/-- The fields the page may change. -/
def ownFields : List String := ["user_status", "profile_url", "profile_file_name"]

/-- A record before and after: only its status and its photo may have changed, the status to one of
the list, and the address and the name of the photo together. -/
structure SameAccount (before after : String × Doc) : Prop where
  id : after.1 = before.1
  fields : ∀ k ∉ ownFields, after.2 k = before.2 k
  status : after.2 "user_status" = before.2 "user_status" ∨
    ∃ val ∈ userStatusList, after.2 "user_status" = .str val
  photo : (after.2 "profile_url" = before.2 "profile_url" ∧
      after.2 "profile_file_name" = before.2 "profile_file_name") ∨
    ∃ imageUrl photo, after.2 "profile_url" = .str imageUrl ∧
      after.2 "profile_file_name" = .str photo

/-- The account that a sign-in with the number goes on with, in stored order. -/
def signsIn (employees : Collection) (phoneNumber : String) (device : Device) :
    Option (Option String) :=
  (SignInLookup.onSignInPressed true true phoneNumber device
    (some (candidates employees phoneNumber))).map (·.employeeID)

/-- The accounts are still there and may be signed in to as before; a deletion was confirmed by
the name of the dialog it was typed in. -/
structure Kept (employees : Collection) (s : State) : Prop where
  records : List.Forall₂ SameAccount employees.entries s.employees.entries
  signsIn : ∀ phoneNumber device,
    (∀ doc ∈ candidates employees phoneNumber, (fromDocumentSnapshot doc.1 doc.2).isSome) →
      signsIn s.employees phoneNumber device = signsIn employees phoneNumber device
  typed : ∀ d ∈ s.deletions, d.typedIn = some d.typed

theorem SameAccount.refl (e : String × Doc) : SameAccount e e :=
  ⟨rfl, fun _ _ => rfl, Or.inl rfl, Or.inl ⟨rfl, rfl⟩⟩

/-- A map that the page may hand over: nothing, a status, or a photo. -/
inductive IsWrite : Payload → Prop where
  | nothing : IsWrite []
  | status {val : String} (h : val ∈ userStatusList) : IsWrite [("user_status", .str val)]
  | photo (imageUrl photo : String) :
    IsWrite [("profile_url", .str imageUrl), ("profile_file_name", .str photo)]

theorem SameAccount.update {before after : String × Doc} (h : SameAccount before after)
    {data : Payload} (hdata : IsWrite data) :
    SameAccount before (after.1, update after.2 data) := by
  cases hdata with
  | nothing => exact h
  | @status val hval =>
    have other : ∀ k ≠ "user_status",
        KeyedRecord.update after.2 [("user_status", .str val)] k = after.2 k :=
      fun k hk => update_of_not_mem (by simpa [keys] using hk)
    refine ⟨h.id, fun k hk => ?_, Or.inr ⟨val, hval, rfl⟩, ?_⟩
    · exact (other k fun h => hk (by simp [h, ownFields])).trans (h.fields k hk)
    · dsimp only
      rw [other "profile_url" (by decide), other "profile_file_name" (by decide)]
      exact h.photo
  | photo imageUrl photo =>
    refine ⟨h.id, fun k hk => ?_, ?_, Or.inr ⟨imageUrl, photo, rfl, rfl⟩⟩
    · rw [← h.fields k hk]
      apply update_of_not_mem
      simp only [ownFields, List.mem_cons, not_or] at hk
      simp [keys, hk]
    · exact h.status

section Records

variable {before after : String × Doc}

/-- A changed field still holds a string or `null`. -/
theorem SameAccount.status_readable (h : SameAccount before after) {a : Option String}
    (ha : before.2 "user_status" = Codec.string.encode a) :
    ∃ a', after.2 "user_status" = Codec.string.encode a' := by
  rcases h.status with hs | ⟨val, -, hs⟩
  · exact ⟨a, hs.trans ha⟩
  · exact ⟨some val, hs⟩

theorem SameAccount.photo_readable (h : SameAccount before after) {a b : Option String}
    (ha : before.2 "profile_url" = Codec.string.encode a)
    (hb : before.2 "profile_file_name" = Codec.string.encode b) :
    ∃ a' b', after.2 "profile_url" = Codec.string.encode a' ∧
      after.2 "profile_file_name" = Codec.string.encode b' := by
  rcases h.photo with ⟨hurl, hname⟩ | ⟨imageUrl, photo, hurl, hname⟩
  · exact ⟨a, b, hurl.trans ha, hname.trans hb⟩
  · exact ⟨some imageUrl, some photo, hurl, hname⟩

/-- The record is read as before, but for its status and its photo. -/
theorem fromDocumentSnapshot_sameAccount (h : SameAccount before after) {m : EmployeeModel}
    (hm : fromDocumentSnapshot before.1 before.2 = some m) :
    ∃ profileURL profileFileName userStatus, fromDocumentSnapshot after.1 after.2 =
      some { m with profileURL, profileFileName, userStatus } := by
  simp only [fromDocumentSnapshot, ↓Codec.decode_bind_eq_some_iff, Option.pure_def,
    Option.some.injEq] at hm
  obtain ⟨_, h1, _, h2, _, h3, _, h4, _, h5, _, h6, _, h7, _, h8, _, h9, _, h10, _, h11,
    _, h12, _, h13, _, h14, rfl⟩ := hm
  obtain ⟨userStatus, hstatus⟩ := h.status_readable h11
  obtain ⟨profileURL, profileFileName, hurl, hname⟩ := h.photo_readable h9 h10
  refine ⟨profileURL, profileFileName, userStatus, ?_⟩
  simp only [fromDocumentSnapshot, ↓Codec.decode_bind_eq_some_iff, Option.pure_def,
    Option.some.injEq]
  have same : ∀ {k : String} {v : Value}, k ∉ ownFields → before.2 k = v → after.2 k = v :=
    fun hk hv => (h.fields _ hk).trans hv
  exact ⟨_, same (by decide) h1, _, same (by decide) h2, _, same (by decide) h3,
    _, same (by decide) h4, _, same (by decide) h5, _, same (by decide) h6,
    _, same (by decide) h7, _, same (by decide) h8, _, hurl, _, hname, _, hstatus,
    _, same (by decide) h12, _, same (by decide) h13, _, same (by decide) h14, by rw [h.id]⟩

theorem onSignInPressed_sameAccount (m : EmployeeModel)
    (profileURL profileFileName userStatus : Option String) (phoneNumber : String)
    (device : Device) :
    DeviceGate.onSignInPressed { m with profileURL, profileFileName, userStatus } phoneNumber
        device =
      DeviceGate.onSignInPressed m phoneNumber device := rfl

theorem candidates_sameAccount {employees employees' : Collection}
    (h : List.Forall₂ SameAccount employees.entries employees'.entries) (phoneNumber : String) :
    List.Forall₂ SameAccount (candidates employees phoneNumber)
      (candidates employees' phoneNumber) := by
  rw [candidates, candidates, matching, matching]
  generalize employees.entries = l at h
  generalize employees'.entries = l' at h
  induction h with
  | nil => exact .nil
  | cons he _ ih =>
    rw [List.filter_cons, List.filter_cons, he.fields "phone_number" (by decide)]
    split
    · exact .cons he ih
    · exact ih

/-- The sign-in reads the same first record. -/
theorem signsIn_eq {employees employees' : Collection}
    (h : List.Forall₂ SameAccount employees.entries employees'.entries) {phoneNumber : String}
    (readable : ∀ doc ∈ candidates employees phoneNumber,
      (fromDocumentSnapshot doc.1 doc.2).isSome) (device : Device) :
    signsIn employees' phoneNumber device = signsIn employees phoneNumber device := by
  have same := candidates_sameAccount h phoneNumber
  rw [signsIn, signsIn]
  cases hc : candidates employees phoneNumber with
  | nil =>
    rw [hc] at same
    rw [List.forall₂_nil_left_iff.mp same]
  | cons doc docs =>
    rw [hc] at same readable
    obtain ⟨m, hm⟩ := Option.isSome_iff_exists.mp (readable doc List.mem_cons_self)
    obtain ⟨after, docs', hdoc, -, hdocs⟩ := List.forall₂_cons_left_iff.mp same
    obtain ⟨profileURL, profileFileName, userStatus, hafter⟩ :=
      fromDocumentSnapshot_sameAccount hdoc hm
    have found : checkPhoneNumberIsExist (some (doc :: docs)) = some m := hm
    have found' : checkPhoneNumberIsExist (some (after :: docs')) =
        some { m with profileURL, profileFileName, userStatus } := hafter
    rw [hdocs]
    simp only [SignInLookup.onSignInPressed, found, found', onSignInPressed_sameAccount]
    by_cases verified : DeviceGate.onSignInPressed m phoneNumber device = .verifyPhone
    · simp only [verified, if_true]
      split <;> rfl
    · simp only [verified, if_false, Option.map_none, ite_self]

end Records

section Run

variable {employees : Collection} {s t : State}

structure Inv (employees : Collection) (s : State) : Prop where
  records : List.Forall₂ SameAccount employees.entries s.employees.entries
  dialogs : ∀ d ∈ s.statusDialogs, IsWrite d.data
  writes : ∀ w ∈ s.writes, IsWrite w.2
  correct : s.correctDelName = true → s.typedIn = some s.accountDelCon
  typed : ∀ d ∈ s.deletions, d.typedIn = some d.typed

theorem isWrite_change {choice : Nat} {val : String} (h : userStatusList[choice]? = some val)
    (d : StatusDialog) : IsWrite (d.change val).data :=
  .status (List.mem_of_getElem? h)

/-- A write touches one record, or none. -/
theorem records_updateData (h : List.Forall₂ SameAccount employees.entries s.employees.entries)
    (userId : String) {data : Payload} (hdata : IsWrite data) :
    List.Forall₂ SameAccount employees.entries
      ((updateData s.employees userId data).getD s.employees).entries := by
  have written := Store.entries_modifyIfThere s.employees userId fun d => update d data
  rw [Store.modifyIfThere] at written
  rw [updateData, written, List.forall₂_map_right_iff]
  refine h.imp fun before after hsame => ?_
  rw [Store.replaceIn]
  split
  · exact hsame.update hdata
  · exact hsame

theorem records_written (h : List.Forall₂ SameAccount employees.entries s.employees.entries)
    (userId : Option String) {data : Payload} (hdata : IsWrite data) (reached : Bool) :
    List.Forall₂ SameAccount employees.entries
      (updateUserInfoByUserId s.employees userId data reached).entries := by
  cases userId with
  | none => exact h
  | some userId =>
    rw [updateUserInfoByUserId]
    split
    · exact h
    · exact records_updateData h userId hdata

theorem records_photo (h : List.Forall₂ SameAccount employees.entries s.employees.entries)
    (p : Photo) (reply : PhotoReply) :
    List.Forall₂ SameAccount employees.entries (p.written s.employees reply).entries := by
  rw [Photo.written.eq_def]
  split
  · split
    · exact h
    · exact records_updateData h _ (.photo _ _)
  · exact h

theorem step_inv {e : Event} (h : Inv employees s) (hstep : step s e = some t) :
    Inv employees t := by
  cases e with
  | signedIn userId username =>
    cases hstep
    exact { h with }
  | onStatusPressed userStatus userId =>
    cases hstep
    refine ⟨h.records, fun d hd => ?_, h.writes, h.correct, h.typed⟩
    rcases List.mem_append.mp hd with hd | hd
    · exact h.dialogs d hd
    · rw [List.mem_singleton.mp hd]
      exact .nothing
  | onStatusChanged dialog choice =>
    obtain ⟨val, hval, hstep⟩ := Option.bind_eq_some_iff.mp hstep
    cases hstep
    refine ⟨h.records, fun d hd => ?_, h.writes, h.correct, h.typed⟩
    obtain ⟨i, hi, rfl⟩ := List.mem_iff_getElem.mp hd
    rw [List.getElem_modify]
    split
    · exact isWrite_change hval _
    · exact h.dialogs _ (List.getElem_mem _)
  | onStatusConfirmed dialog =>
    obtain ⟨d, hd, hstep⟩ := Option.bind_eq_some_iff.mp hstep
    cases hstep
    refine ⟨h.records, h.dialogs, fun w hw => ?_, h.correct, h.typed⟩
    rcases List.mem_cons.mp hw with rfl | hw
    · exact h.dialogs d (List.mem_of_getElem? hd)
    · exact h.writes w hw
  | written write reached =>
    obtain ⟨⟨⟨userId, data⟩, writes⟩, htake, hstep⟩ := Option.bind_eq_some_iff.mp hstep
    cases hstep
    have hdata := h.writes _ (mem_takeOut htake)
    exact ⟨records_written h.records userId hdata reached, h.dialogs,
      fun w hw => h.writes w (mem_of_mem_rest htake hw), h.correct, h.typed⟩
  | getFromGallery userId previousImageName =>
    cases hstep
    exact { h with }
  | resumePhoto photo reply =>
    obtain ⟨⟨p, photos⟩, -, hstep⟩ := Option.bind_eq_some_iff.mp hstep
    cases hstep
    exact ⟨records_photo h.records p reply, h.dialogs, h.writes, h.correct, h.typed⟩
  | showActionConfirmDelAccFunc =>
    cases hstep
    exact { h with }
  | onDelNameChanged text =>
    obtain ⟨username, hdialog, hstep⟩ := Option.bind_eq_some_iff.mp hstep
    cases hstep
    refine ⟨h.records, h.dialogs, h.writes, fun hcorrect => ?_, h.typed⟩
    exact congrArg some (of_decide_eq_true hcorrect).symm
  | closeDelDialog =>
    cases hstep
    exact { h with }
  | onConfirmDelPressed =>
    obtain ⟨username, hdialog, hstep⟩ := Option.bind_eq_some_iff.mp hstep
    split at hstep
    · case isTrue hcorrect =>
      cases hstep
      refine ⟨h.records, h.dialogs, h.writes, h.correct, fun d hd => ?_⟩
      rcases List.mem_cons.mp hd with rfl | hd
      · exact h.correct hcorrect
      · exact h.typed d hd
    · cases hstep
      exact h
  | onSignOutPressed =>
    cases hstep
    exact { h with }
  | resume signOut ok =>
    obtain ⟨⟨call, signOuts⟩, htake, hstep⟩ := Option.bind_eq_some_iff.mp hstep
    cases call with
    | signOut =>
      cases hstep
      exact { h with }
    | delayed =>
      cases hstep
      exact { h with }

end Run

/-- Whatever is pressed on the account page, confirmed deletions included, and however the writes
land, every account is still there, and who could sign in to it can do so again. -/
theorem deletion_keeps_accounts (employees : Collection) (userId username : Option String)
    (es : List Event) :
    EveryState step (Kept employees) { employees, userId, username } es := by
  have start : Inv employees { employees, userId, username } :=
    { records := List.forall₂_same.mpr fun e _ => SameAccount.refl e
      dialogs := fun _ hd => nomatch hd
      writes := fun _ hw => nomatch hw
      correct := fun hcorrect => nomatch hcorrect
      typed := fun _ hd => nomatch hd }
  have always : EveryState step (Inv employees) { employees, userId, username } es :=
    everyState_of_inv (fun _ _ _ h hstep => step_inv h hstep) start es
  exact always.mono fun _ h =>
    ⟨h.records, fun _ device readable => signsIn_eq h.records readable device, h.typed⟩

end AccountPage
