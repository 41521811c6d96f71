import AsmWt.Firestore

/-!
# Employee records and `EmployeeModel`

An employee document is created by the organization; a registration fills in
device, account and phone number and activates it. Signing in writes nothing
to the document but the token for push messages.
-/

namespace Employees

open KeyedRecord Firestore

/-- The fields of `EmployeeModel` that the constructor in `fromDocumentSnapshot` or the
registration sets. -/
structure EmployeeModel where
  employeeID : Option String := none
  username : Option String := none
  email : Option String := none
  staffId : Option String := none
  isActivated : Option Bool := none
  phoneModel : Option String := none
  deviceToken : Option String := none
  phoneNumber : Option String := none
  deviceID : Option String := none
  profileURL : Option String := none
  profileFileName : Option String := none
  userStatus : Option String := none
  organization_id : Option String := none
  site_en : Option String := none
  site_th : Option String := none
  userUID : Option String := none
  deriving DecidableEq

/-- `EmployeeModel.fromDocumentSnapshot`; `none` is the type error of a wrongly typed field. -/
def fromDocumentSnapshot (id : String) (data : Doc) : Option EmployeeModel := do
  let username ← Codec.string.decode (data "username")
  let email ← Codec.string.decode (data "email")
  let staffId ← Codec.string.decode (data "employee_id")
  let isActivated ← Codec.bool.decode (data "isActivated")
  let phoneModel ← Codec.string.decode (data "phone_model")
  let deviceToken ← Codec.string.decode (data "device_token")
  let phoneNumber ← Codec.string.decode (data "phone_number")
  let deviceID ← Codec.string.decode (data "device_id")
  let profileURL ← Codec.string.decode (data "profile_url")
  let profileFileName ← Codec.string.decode (data "profile_file_name")
  let userStatus ← Codec.string.decode (data "user_status")
  let organization_id ← Codec.string.decode (data "organization_id")
  let site_en ← Codec.string.decode (data "site_en")
  let site_th ← Codec.string.decode (data "site_th")
  return {
    employeeID := some id
    username, email, staffId, isActivated, phoneModel, deviceToken, phoneNumber, deviceID,
    profileURL, profileFileName, userStatus, organization_id, site_en, site_th }

/-- `EmployeeModel.toJson`; `now` is `Timestamp.now()`. -/
def toJson (m : EmployeeModel) (now : Int) : Payload :=
  [("username", Codec.string.encode m.username),
    ("email", Codec.string.encode m.email),
    ("phone_number", Codec.string.encode m.phoneNumber),
    ("isActivated", Codec.bool.encode m.isActivated),
    ("profile_url", Codec.string.encode m.profileURL),
    ("device_id", Codec.string.encode m.deviceID),
    ("user_uid", Codec.string.encode m.userUID),
    ("phone_model", Codec.string.encode m.phoneModel),
    ("updated_at", .timestamp now),
    ("user_status", .str "Available")]

/-- Whether `RegExp(r'^(\+66$)|(^\+66([^0]\d*))')` has a match in the text. -/
def ifStartWithZero (text : String) : Bool :=
  match text.toList with
  | '+' :: '6' :: '6' :: rest => rest.head? ≠ some '0'
  | _ => false

/-- The devices the app runs on, with what the device plugin reports about them. -/
inductive Device where
  | iOS (name systemName : String)
  | android (id : String)

/-- `"${data.name}-v${data.systemName}"` or `androidInfo.id`. -/
def Device.identifier : Device → String
  | .iOS name systemName => name ++ "-v" ++ systemName
  | .android id => id

def Device.phoneModel : Device → String
  | .iOS _ _ => "iOS"
  | .android _ => "Android"

def defaultProfileURL : String :=
  "https://firebasestorage.googleapis.com/v0/b/wingspan-449f4.appspot.com/o/dafault_profile" ++
    "%2Fprofile.png?alt=media&token=d4cba450-fcff-467c-9ec7-9aca8e48a7bc"

/-- The assignments of `processEmployeeSignUp` before the record is written. -/
def signedUp (m : EmployeeModel) (device : Device) (uid : Option String) : EmployeeModel :=
  { m with
    deviceID := some device.identifier
    phoneModel := some device.phoneModel
    userUID := uid
    isActivated := some true
    profileURL := some (m.profileURL.getD defaultProfileURL) }

/-- `getUserToken` after a sign-in: the token, when there is one, goes into the record. -/
def saveToken (data : Doc) (token : Option String) : Doc :=
  match token with
  | none => data
  | some token => if token = "" then data else update data [("device_token", .str token)]

theorem keys_toJson_nodup (m : EmployeeModel) (now : Int) : (keys (toJson m now)).Nodup := by
  have h : ["username", "email", "phone_number", "isActivated", "profile_url", "device_id",
    "user_uid", "phone_model", "updated_at", "user_status"].Nodup := by decide
  exact h

/-- What a successful decoding says about the fields the gates and lookups read. -/
structure Decodes (data : Doc) (m : EmployeeModel) : Prop where
  staffId : data "employee_id" = Codec.string.encode m.staffId
  isActivated : data "isActivated" = Codec.bool.encode m.isActivated
  phoneNumber : data "phone_number" = Codec.string.encode m.phoneNumber
  deviceID : data "device_id" = Codec.string.encode m.deviceID

theorem fromDocumentSnapshot_eq_some {id : String} {data : Doc} {m : EmployeeModel}
    (h : fromDocumentSnapshot id data = some m) : Decodes data m := by
  simp only [fromDocumentSnapshot, ↓Codec.decode_bind_eq_some_iff, Option.pure_def,
    Option.some.injEq] at h
  obtain ⟨_, -, _, -, _, h3, _, h4, _, -, _, -, _, h7, _, h8, _, -, _, -, _, -, _, -, _, -, _, -,
    rfl⟩ := h
  exact ⟨h3, h4, h7, h8⟩

/-- The fields that decide over access do not depend on the token. -/
theorem saveToken_apply (data : Doc) (token : Option String) {k : String}
    (hk : k ≠ "device_token") : saveToken data token k = data k := by
  cases token with
  | none => rfl
  | some token =>
    unfold saveToken
    by_cases ht : token = ""
    · simp [ht]
    · simp only [ht, if_false]
      apply update_of_not_mem
      simpa [keys] using hk

/-- A record still decodes after its token was saved, and to the same model otherwise. -/
theorem fromDocumentSnapshot_saveToken {id : String} {data : Doc} {m : EmployeeModel}
    (h : fromDocumentSnapshot id data = some m) (token : Option String) :
    ∃ deviceToken, fromDocumentSnapshot id (saveToken data token) =
      some { m with deviceToken := deviceToken } := by
  simp only [fromDocumentSnapshot, ↓Codec.decode_bind_eq_some_iff, Option.pure_def,
    Option.some.injEq] at h
  obtain ⟨_, h1, _, h2, _, h3, _, h4, _, h5, oldToken, h6, _, h7, _, h8, _, h9, _, h10, _, h11, _,
    h12, _, h13, _, h14, rfl⟩ := h
  have read : ∃ deviceToken, saveToken data token "device_token" =
      Codec.string.encode deviceToken := by
    cases token with
    | none => exact ⟨oldToken, h6⟩
    | some token =>
      unfold saveToken
      by_cases ht : token = ""
      · exact ⟨oldToken, by simpa [ht] using h6⟩
      · exact ⟨some token, by simp [ht, update]⟩
  obtain ⟨deviceToken, hread⟩ := read
  refine ⟨deviceToken, ?_⟩
  simp (disch := decide) only [fromDocumentSnapshot, saveToken_apply, hread, h1, h2, h3, h4, h5,
    h7, h8, h9, h10, h11, h12, h13, h14, Codec.decode_encode, Option.bind_eq_bind,
    Option.bind_some, Option.pure_def]

/-- The record a lookup's reply is about, when there is one that can be read. The documents
are `none` when the query throws. -/
def replied (docs : Option (List (String × Doc))) : Option EmployeeModel :=
  (getDocumentByOneIdInside docs).bind fun doc => fromDocumentSnapshot doc.1 doc.2

/-- The documents a query on one field may return. -/
def Matches (docs : Option (List (String × Doc))) (field value : String) : Prop :=
  ∀ doc ∈ docs.getD [], doc.2 field = .str value

instance (docs : Option (List (String × Doc))) (field value : String) :
    Decidable (Matches docs field value) :=
  inferInstanceAs (Decidable (∀ doc ∈ docs.getD [], doc.2 field = .str value))

/-- The record found is one of the documents returned. -/
theorem mem_of_replied {docs : Option (List (String × Doc))} {m : EmployeeModel}
    (h : replied docs = some m) :
    ∃ doc ∈ docs.getD [], fromDocumentSnapshot doc.1 doc.2 = some m := by
  obtain ⟨doc, hd, hm⟩ := Option.bind_eq_some_iff.mp h
  refine ⟨doc, ?_, hm⟩
  cases docs with
  | none => cases hd
  | some docs =>
    cases docs with
    | nil => cases hd
    | cons doc' rest =>
      cases hd
      exact List.mem_cons_self

/-- What a registration stores. -/
theorem update_toJson {d : Doc} {m : EmployeeModel} {now : Int} {k : String} {w : Value}
    (h : (k, w) ∈ toJson m now) : update d (toJson m now) k = w :=
  update_of_mem (keys_toJson_nodup m now) h

end Employees
