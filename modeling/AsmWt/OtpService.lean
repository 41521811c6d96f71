import AsmWt.Firestore
import AsmWt.JsonEncode

/-!
# The requests to the provider of the codes

A phone number, a token and a code are whatever text they are; they travel inside
a JSON text. The provider is any function of the value it reads there, and its
reply is a text again.
-/

namespace OtpService

open Firestore (BaseService)
open JsonText

variable {Num : Type}

/-- The key and the secret of the account are constants of the app. -/
structure Account where
  key : Text
  secret : Text

structure ThaiBulkSMSModel where
  status : Option Text := none
  token : Option Text := none
  refno : Option Text := none
  pin : Option Text := none
  key : Option Text := none
  secret : Option Text := none

def status : Text := text ['s', 't', 'a', 't', 'u', 's']
def token : Text := text ['t', 'o', 'k', 'e', 'n']
def refno : Text := text ['r', 'e', 'f', 'n', 'o']
def pin : Text := text ['p', 'i', 'n']
def key : Text := text ['k', 'e', 'y']
def secret : Text := text ['s', 'e', 'c', 'r', 'e', 't']
def msisdn : Text := text ['m', 's', 'i', 's', 'd', 'n']
def errors : Text := text ['e', 'r', 'r', 'o', 'r', 's']
def message : Text := text ['m', 'e', 's', 's', 'a', 'g', 'e']
def success : Text := text ['s', 'u', 'c', 'c', 'e', 's', 's']

def ThaiBulkSMSModel.fromDocumentSnapshot : Value Num → Option ThaiBulkSMSModel
  | .map data => do
    let status ← nullableString (field data OtpService.status)
    let token ← nullableString (field data OtpService.token)
    let refno ← nullableString (field data OtpService.refno)
    let pin ← nullableString (field data OtpService.pin)
    let key ← nullableString (field data OtpService.key)
    let secret ← nullableString (field data OtpService.secret)
    return { status, token, refno, pin, key, secret }
  | _ => none

def ThaiBulkSMSModel.toJson (account : Account) (m : ThaiBulkSMSModel) : Value Num :=
  .map [(OtpService.token, ofString m.token), (OtpService.key, .string account.key),
    (OtpService.secret, .string account.secret), (OtpService.pin, ofString m.pin)]

/-- The map of a request. -/
def requested (account : Account) (phonenumber : Text) : Value Num :=
  .map [(msisdn, .string phonenumber), (key, .string account.key),
    (secret, .string account.secret)]

structure Response where
  statusCode : Int
  body : Text

/-- What a result carries: the model, the text of the reply, or what the provider says went
wrong. -/
inductive Data (Num : Type) where
  | model (m : ThaiBulkSMSModel)
  | body (t : Text)
  | message (v : Value Num)

/-- The field of the service. -/
structure State where
  thaiBulkSMSModel : Option ThaiBulkSMSModel := none

section Service

variable (numbers : Numbers Num) (account : Account) (provider : Value Num → Option Response)

/-- The provider reads the text that is sent to it. A body that cannot be written or read, like a
request that fails, has no response. -/
def post (data : Value Num) : Option Response := do
  let body ← encode numbers data
  let read ← jsonDecode numbers body
  provider read

/-- The model in a reply; `none` is an exception. -/
def received (body : Text) : Option ThaiBulkSMSModel :=
  (jsonDecode numbers body).bind ThaiBulkSMSModel.fromDocumentSnapshot

/-- The service after the request, and what it returns unless it throws. -/
def requestThaiBulkSmsOTP (s : State) (phonenumber : Text) :
    State × Option (Option ThaiBulkSMSModel) :=
  match post numbers provider (requested account phonenumber) with
  | none => (s, none)
  | some result =>
    if result.statusCode = 200 then
      match received numbers result.body with
      | none => (s, none)
      | some m => (⟨some m⟩, some (if m.status = some success then some m else none))
    else (s, some none)

/-- `error['errors'][0]['message']`; `none` is an exception. -/
def errorMessage : Value Num → Option (Value Num)
  | .map error =>
    match field error errors with
    | .list (.map first :: _) => some (field first message)
    | _ => none
  | _ => none

def verifyThaiBulkSmsOTP (s : State) (data : Value Num) : State × Option (BaseService (Data Num)) :=
  match post numbers provider data with
  | none => (s, none)
  | some result =>
    if result.statusCode = 200 then
      match received numbers result.body with
      | none => (s, none)
      | some m =>
        (⟨some m⟩, some (if m.status = some success then ⟨"S", "Success get data", some (.model m)⟩
          else ⟨"E", "Something went wrong", some (.body result.body)⟩))
    else
      match (jsonDecode numbers result.body).bind errorMessage with
      | none => (s, none)
      | some error => (s, some ⟨"E", "Data Not Found", some (.message error)⟩)

/-- The provider answers this value with a model of this status. -/
def Answers (sent : Value Num) (m : ThaiBulkSMSModel) : Prop :=
  ∃ body, provider sent = some ⟨200, body⟩ ∧ received numbers body = some m

end Service

section Requests

variable {numbers : Numbers Num} {account : Account} {provider : Value Num → Option Response}

theorem canonical_ofString (s : Option Text) : Canonical (ofString s : Value Num) := by
  cases s with
  | none => exact .null
  | some s => exact .string s

theorem finite_ofString (s : Option Text) : Finite numbers (ofString s) := by
  cases s with
  | none => exact .null
  | some s => exact .string s

/-- Nothing else arrives than what was sent. -/
theorem post_eq {data : Value Num} (canonical : Canonical data) (finite : Finite numbers data) :
    post numbers provider data = provider data := by
  obtain ⟨body, hbody⟩ := Option.isSome_iff_exists.mp (encode_isSome_iff.mpr finite)
  have read := jsonDecode_encode canonical hbody
  simp [post, hbody, read]

theorem post_requested (phonenumber : Text) :
    post numbers provider (requested account phonenumber) =
      provider (requested account phonenumber) := by
  apply post_eq
  · apply Canonical.map
    · show [msisdn, key, secret].Nodup
      decide
    · simp only [List.forall_mem_cons]
      exact ⟨.string _, .string _, .string _, fun _ hm => nomatch hm⟩
  · apply Finite.map
    simp only [List.forall_mem_cons]
    exact ⟨.string _, .string _, .string _, fun _ hm => nomatch hm⟩

theorem post_toJson (m : ThaiBulkSMSModel) :
    post numbers provider (m.toJson account) = provider (m.toJson account) := by
  apply post_eq
  · apply Canonical.map
    · show [token, key, secret, pin].Nodup
      decide
    · simp only [List.forall_mem_cons]
      exact ⟨canonical_ofString _, .string _, .string _, canonical_ofString _,
        fun _ hm => nomatch hm⟩
  · apply Finite.map
    simp only [List.forall_mem_cons]
    exact ⟨finite_ofString _, .string _, .string _, finite_ofString _, fun _ hm => nomatch hm⟩

/-- What the service keeps of a response. -/
theorem answers_iff {sent : Value Num} {result : Response} (h : provider sent = some result)
    (m : ThaiBulkSMSModel) :
    Answers numbers provider sent m ↔
      result.statusCode = 200 ∧ received numbers result.body = some m := by
  obtain ⟨statusCode, body⟩ := result
  constructor
  · rintro ⟨body', hanswer, hm⟩
    cases h.symm.trans hanswer
    exact ⟨rfl, hm⟩
  · rintro ⟨rfl, hm⟩
    exact ⟨body, h, hm⟩

theorem not_answers_of_none {sent : Value Num} (h : provider sent = none) (m : ThaiBulkSMSModel) :
    ¬ Answers numbers provider sent m := by
  rintro ⟨body, hanswer, -⟩
  cases h.symm.trans hanswer

end Requests

/-- For every text of a phone number a code is on its way exactly if the provider, who reads that
text beside the key and the secret and nothing else, answers with a success. -/
theorem requestThaiBulkSmsOTP_iff (numbers : Numbers Num) (account : Account)
    (provider : Value Num → Option Response) (s : State) (phonenumber : Text)
    (m : ThaiBulkSMSModel) :
    (requestThaiBulkSmsOTP numbers account provider s phonenumber).2 = some (some m) ↔
      Answers numbers provider
        (.map [(msisdn, .string phonenumber), (key, .string account.key),
          (secret, .string account.secret)]) m ∧
        m.status = some success := by
  rw [requestThaiBulkSmsOTP, post_requested]
  change _ ↔ Answers numbers provider (requested account phonenumber) m ∧ _
  cases hresult : provider (requested account phonenumber) with
  | none => simp [not_answers_of_none hresult]
  | some result =>
    rw [answers_iff hresult]
    by_cases hstatus : result.statusCode = 200
    · cases hm : received numbers result.body with
      | none => simp [hstatus, hm]
      | some m' =>
        by_cases hsuccess : m'.status = some success
        · simp only [hstatus, hm, hsuccess, if_true, true_and, Option.some.injEq]
          constructor
          · rintro rfl
            exact ⟨rfl, hsuccess⟩
          · exact fun h => h.1
        · simp only [hstatus, hm, hsuccess, if_true, if_false, true_and, Option.some.injEq,
            reduceCtorEq, false_iff]
          rintro ⟨rfl, h⟩
          exact hsuccess h
    · simp [hstatus]

/-- The verdict on a typed code. -/
structure Verdict (numbers : Numbers Num) (provider : Value Num → Option Response)
    (sent : Value Num) (result : Option (BaseService (Data Num))) : Prop where
  accepted : ∀ m, result = some ⟨"S", "Success get data", some (.model m)⟩ ↔
    Answers numbers provider sent m ∧ m.status = some success
  refused : ∀ body, result = some ⟨"E", "Something went wrong", some (.body body)⟩ ↔
    provider sent = some ⟨200, body⟩ ∧
      ∃ m, received numbers body = some m ∧ m.status ≠ some success
  notFound : ∀ error, result = some ⟨"E", "Data Not Found", some (.message error)⟩ ↔
    ∃ r, provider sent = some r ∧ r.statusCode ≠ 200 ∧
      (jsonDecode numbers r.body).bind errorMessage = some error
  throws : result = none ↔ ∀ r, provider sent = some r →
    if r.statusCode = 200 then received numbers r.body = none
    else (jsonDecode numbers r.body).bind errorMessage = none

section Verify

variable {numbers : Numbers Num} {account : Account} {provider : Value Num → Option Response}
variable {s : State} {m : ThaiBulkSMSModel}

theorem verify_of_ok {body : Text} (h : provider (m.toJson account) = some ⟨200, body⟩) :
    (verifyThaiBulkSmsOTP numbers provider s (m.toJson account)).2 =
      (received numbers body).map fun m => if m.status = some success then
          ⟨"S", "Success get data", some (.model m)⟩
        else ⟨"E", "Something went wrong", some (.body body)⟩ := by
  rw [verifyThaiBulkSmsOTP, post_toJson, h]
  dsimp only
  rw [if_pos rfl]
  cases received numbers body with
  | none | some m => rfl

theorem verify_of_error {r : Response} (h : provider (m.toJson account) = some r)
    (hstatus : r.statusCode ≠ 200) :
    (verifyThaiBulkSmsOTP numbers provider s (m.toJson account)).2 =
      ((jsonDecode numbers r.body).bind errorMessage).map fun error =>
        ⟨"E", "Data Not Found", some (.message error)⟩ := by
  rw [verifyThaiBulkSmsOTP, post_toJson, h]
  dsimp only
  rw [if_neg hstatus]
  cases (jsonDecode numbers r.body).bind errorMessage with
  | none | some error => rfl

/-- Without a response there is no verdict. -/
theorem verdict_of_none (h : provider (m.toJson account) = none) :
    Verdict numbers provider (m.toJson account)
      (verifyThaiBulkSmsOTP numbers provider s (m.toJson account)).2 := by
  have throws : (verifyThaiBulkSmsOTP numbers provider s (m.toJson account)).2 = none := by
    rw [verifyThaiBulkSmsOTP, post_toJson, h]
  rw [throws]
  constructor
  · simp [not_answers_of_none h]
  · simp [h]
  · simp [h]
  · simp [h]

theorem verdict_of_ok {body : Text} (h : provider (m.toJson account) = some ⟨200, body⟩) :
    Verdict numbers provider (m.toJson account)
      (verifyThaiBulkSmsOTP numbers provider s (m.toJson account)).2 := by
  rw [verify_of_ok h]
  constructor
  · intro m'
    rw [answers_iff h, Option.map_eq_some_iff]
    constructor
    · rintro ⟨m'', hm, heq⟩
      split at heq
      · case isTrue hsuccess =>
        cases heq
        exact ⟨⟨rfl, hm⟩, hsuccess⟩
      · simp at heq
    · rintro ⟨⟨-, hm⟩, hsuccess⟩
      exact ⟨m', hm, if_pos hsuccess⟩
  · intro body'
    rw [h, Option.map_eq_some_iff]
    constructor
    · rintro ⟨m', hm, heq⟩
      split at heq
      · simp at heq
      · case isFalse hsuccess =>
        cases heq
        exact ⟨rfl, m', hm, hsuccess⟩
    · rintro ⟨hbody, m', hm, hsuccess⟩
      cases hbody
      exact ⟨m', hm, if_neg hsuccess⟩
  · intro error
    rw [h, Option.map_eq_some_iff]
    constructor
    · rintro ⟨m', -, heq⟩
      split at heq
      · simp at heq
      · simp at heq
    · rintro ⟨r, hr, hne, -⟩
      cases hr
      exact absurd rfl hne
  · rw [Option.map_eq_none_iff]
    constructor
    · intro hbody r hr
      cases h.symm.trans hr
      rwa [if_pos rfl]
    · intro hthrows
      simpa using hthrows _ h

theorem verdict_of_error {r : Response} (h : provider (m.toJson account) = some r)
    (hstatus : r.statusCode ≠ 200) :
    Verdict numbers provider (m.toJson account)
      (verifyThaiBulkSmsOTP numbers provider s (m.toJson account)).2 := by
  rw [verify_of_error h hstatus]
  constructor
  · intro m'
    rw [answers_iff h, Option.map_eq_some_iff]
    simp [hstatus]
  · intro body
    rw [h, Option.map_eq_some_iff]
    constructor
    · rintro ⟨error, -, heq⟩
      simp at heq
    · rintro ⟨hbody, -⟩
      cases hbody
      exact absurd rfl hstatus
  · intro error
    rw [h, Option.map_eq_some_iff]
    constructor
    · rintro ⟨error', herror, heq⟩
      cases heq
      exact ⟨r, rfl, hstatus, herror⟩
    · rintro ⟨r', hr, -, herror⟩
      cases hr
      exact ⟨error, herror, rfl⟩
  · rw [Option.map_eq_none_iff]
    constructor
    · intro herror r' hr
      cases h.symm.trans hr
      rwa [if_neg hstatus]
    · intro hthrows
      simpa [hstatus] using hthrows r h

end Verify

/-- For every token and every typed text the verdict is the provider's on exactly these two. -/
theorem verifyThaiBulkSmsOTP_verdict (numbers : Numbers Num) (account : Account)
    (provider : Value Num → Option Response) (s : State) (m : ThaiBulkSMSModel) :
    Verdict numbers provider
      (.map [(token, ofString m.token), (key, .string account.key),
        (secret, .string account.secret), (pin, ofString m.pin)])
      (verifyThaiBulkSmsOTP numbers provider s (m.toJson account)).2 := by
  change Verdict numbers provider (m.toJson account) _
  cases hresult : provider (m.toJson account) with
  | none => exact verdict_of_none hresult
  | some result =>
    obtain ⟨statusCode, body⟩ := result
    by_cases hstatus : statusCode = 200
    · cases hstatus
      exact verdict_of_ok hresult
    · exact verdict_of_error hresult hstatus

end OtpService
