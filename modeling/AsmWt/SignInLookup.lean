import AsmWt.DeviceGate

/-!
# The record a sign-in goes on with

The lookup of a phone number uses the first document of the query's reply, and
only that one is then checked for its activation and its device. A registration
lets a number be used again when the record its own lookup found is not
activated, so several records may have the number.
-/

namespace SignInLookup

open Firestore Employees DeviceGate

/-- `UsersService.checkPhoneNumberIsExist` on the reply of the query; a record that cannot be read
counts as none. -/
def checkPhoneNumberIsExist (docs : Option (List (String × Doc))) : Option EmployeeModel :=
  replied docs

/-- `onSignInPressed` on the number that was typed: the record whose fields are handed to
`verifyPhone`, if it comes to that. -/
def onSignInPressed (formValid isPhoneNumberValid : Bool) (phoneNumber : String) (device : Device)
    (docs : Option (List (String × Doc))) : Option EmployeeModel :=
  if formValid && isPhoneNumberValid && ifStartWithZero phoneNumber then
    match checkPhoneNumberIsExist docs with
    | some res =>
      if DeviceGate.onSignInPressed res phoneNumber device = .verifyPhone then some res else none
    | none => none
  else none

/-- The documents the query of the lookup matches, in some order. -/
def candidates (c : Collection) (phoneNumber : String) : List (String × Doc) :=
  matching c "phone_number" (.str phoneNumber)

/-- The record is one of those with the number, is activated and allowed on the device. -/
def Allowed (c : Collection) (phoneNumber : String) (device : Device) (res : EmployeeModel) :
    Prop :=
  (∃ doc ∈ candidates c phoneNumber, fromDocumentSnapshot doc.1 doc.2 = some res) ∧
    DeviceGate.onSignInPressed res phoneNumber device = .verifyPhone

/-- The sign-in goes on with the same allowed record in whatever order the documents come. -/
def OrderFree (c : Collection) (phoneNumber : String) (device : Device) : Prop :=
  ∃ res, Allowed c phoneNumber device res ∧ ∀ docs, docs.Perm (candidates c phoneNumber) →
    onSignInPressed true true phoneNumber device (some docs) = some res

section Lookup

variable {c : Collection} {phoneNumber : String} {device : Device}

theorem employeeID_of_fromDocumentSnapshot {id : String} {data : Doc} {res : EmployeeModel}
    (h : fromDocumentSnapshot id data = some res) : res.employeeID = some id := by
  simp only [fromDocumentSnapshot, ↓Codec.decode_bind_eq_some_iff, Option.pure_def,
    Option.some.injEq] at h
  obtain ⟨_, -, _, -, _, -, _, -, _, -, _, -, _, -, _, -, _, -, _, -, _, -, _, -, _, -, _, -,
    rfl⟩ := h
  rfl

/-- The sign-in goes on with the first document or not at all. -/
theorem onSignInPressed_cons {doc : String × Doc} {docs : List (String × Doc)}
    {res : EmployeeModel} {formValid isPhoneNumberValid : Bool}
    (h : onSignInPressed formValid isPhoneNumberValid phoneNumber device (some (doc :: docs)) =
      some res) :
    fromDocumentSnapshot doc.1 doc.2 = some res := by
  rw [onSignInPressed] at h
  split at h
  · split at h
    · case h_1 found hfound =>
      split at h
      · cases h
        exact hfound
      · cases h
    · cases h
  · cases h

theorem onSignInPressed_of_allowed {doc : String × Doc} {res : EmployeeModel}
    (typed : ifStartWithZero phoneNumber = true)
    (hres : fromDocumentSnapshot doc.1 doc.2 = some res)
    (allowed : DeviceGate.onSignInPressed res phoneNumber device = .verifyPhone) :
    onSignInPressed true true phoneNumber device (some [doc]) = some res := by
  have found : checkPhoneNumberIsExist (some [doc]) = some res := hres
  simp only [onSignInPressed, typed, found, allowed, Bool.and_self, if_true]

theorem candidates_ids_nodup (c : Collection) (phoneNumber : String) :
    ((candidates c phoneNumber).map Prod.fst).Nodup :=
  (List.filter_sublist.map Prod.fst).nodup c.unique

/-- Where some record with the number may sign in, the order is of no matter exactly if it is the
only record with the number. -/
theorem orderFree_iff (typed : ifStartWithZero phoneNumber = true)
    (some_allowed : ∃ res, Allowed c phoneNumber device res) :
    OrderFree c phoneNumber device ↔ (candidates c phoneNumber).length = 1 := by
  constructor
  · rintro ⟨res, ⟨⟨doc, hdoc, -⟩, -⟩, every⟩
    have distinct := candidates_ids_nodup c phoneNumber
    rcases hc : candidates c phoneNumber with _ | ⟨a, _ | ⟨b, rest⟩⟩
    · rw [hc] at hdoc
      cases hdoc
    · rfl
    · -- either of the two may come first, and both are the record of the sign-in
      rw [hc] at every distinct
      have ha := onSignInPressed_cons (every (a :: b :: rest) (List.Perm.refl _))
      have hb := onSignInPressed_cons (every (b :: a :: rest) (List.Perm.swap a b rest))
      have hids : some a.1 = some b.1 :=
        (employeeID_of_fromDocumentSnapshot ha).symm.trans (employeeID_of_fromDocumentSnapshot hb)
      have hne := (List.nodup_cons.mp distinct).1
      rw [Option.some.inj hids] at hne
      exact absurd List.mem_cons_self hne
  · intro hone
    obtain ⟨res, ⟨doc, hdoc, hres⟩, hgate⟩ := some_allowed
    refine ⟨res, ⟨⟨doc, hdoc, hres⟩, hgate⟩, fun docs hperm => ?_⟩
    obtain ⟨only, hc⟩ := List.length_eq_one_iff.mp hone
    rw [hc, List.mem_singleton] at hdoc
    subst hdoc
    rw [hc] at hperm
    rw [List.perm_singleton.mp hperm]
    exact onSignInPressed_of_allowed typed hres hgate

end Lookup

/-- An employee record with this number and activation, on any device. -/
def recordOf (isActivated : Bool) : Doc :=
  KeyedRecord.update (fun _ => .null)
    [("isActivated", .bool isActivated), ("phone_number", .str "+66811111111")]

def employeeOf (id : String) (isActivated : Bool) : EmployeeModel :=
  { employeeID := some id
    isActivated := some isActivated
    phoneNumber := some "+66811111111" }

def oneRecord : Collection where
  entries := [("e1", recordOf true)]
  unique := by decide

theorem orderFree_oneRecord_iff :
    OrderFree oneRecord "+66811111111" (.android "A1") ↔
      (candidates oneRecord "+66811111111").length = 1 := by
  have allowed : Allowed oneRecord "+66811111111" (.android "A1") (employeeOf "e1" true) :=
    ⟨⟨("e1", recordOf true), List.mem_singleton.mpr rfl, rfl⟩, by decide⟩
  exact orderFree_iff (by decide) ⟨_, allowed⟩

/-- An earlier record of the number was deactivated before the employee registered with it. -/
def twoRecords : Collection where
  entries := [("e1", recordOf false), ("e2", recordOf true)]
  unique := by decide

/-- The deactivated record is found first, and the employee cannot sign in. -/
theorem deactivated_record_hides_employee :
    ¬ ∀ (c : Collection) (phoneNumber : String) (device : Device),
        ifStartWithZero phoneNumber = true → (∃ res, Allowed c phoneNumber device res) →
          OrderFree c phoneNumber device := by
  intro claim
  have allowed : Allowed twoRecords "+66811111111" (.android "A1") (employeeOf "e2" true) :=
    ⟨⟨("e2", recordOf true), List.mem_cons_of_mem _ (List.mem_singleton.mpr rfl), rfl⟩, by decide⟩
  obtain ⟨res, -, every⟩ := claim twoRecords "+66811111111" (.android "A1") (by decide) ⟨_, allowed⟩
  have hfirst := every (candidates twoRecords "+66811111111") (List.Perm.refl _)
  have hnone : onSignInPressed true true "+66811111111" (.android "A1")
      (some (candidates twoRecords "+66811111111")) = none := by decide
  rw [hnone] at hfirst
  cases hfirst

end SignInLookup
