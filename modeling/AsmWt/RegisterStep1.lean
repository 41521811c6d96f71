import AsmWt.Interleaving
import AsmWt.PendingCalls
import AsmWt.Employees

/-!
# The staff-id field of the registration

Every edit of the field clears the check and starts a lookup; a reply sets the
model and the check of the singleton controller whatever is typed by then.
Opening the page again gives it new, empty text controllers and keeps the rest.
-/

namespace RegisterStep1

open Firestore Employees Interleaving PendingCalls

/-- `started` are the registrations handed to `verifyPhone`, each with the text of the
staff-id field at the press. -/
structure State where
  staffId : String := ""
  email : String := ""
  username : String := ""
  phone : String := ""
  isPhoneNumberValid : Bool := false
  isStaffDataChecked : Bool := false
  employeeModel : Option EmployeeModel := none
  lookups : List String := []
  started : List (String × Option EmployeeModel) := []

inductive Event where
  | initState
  | onStaffIdChanged (text : String)
  | reply (lookup : Nat) (docs : Option (List (String × Doc)))
  | onPhoneChanged (text : String) (valid : Bool)
  | onNextBtnPressed (formValid : Bool)

/-- The `then` of `onStaffIdChanged` for a record that was found. -/
def onReply (s : State) (m : EmployeeModel) : State :=
  if m.isActivated.getD false then { s with employeeModel := some m }
  else
    { s with
      employeeModel := some m
      email := m.email.getD ""
      username := m.username.getD ""
      isStaffDataChecked := true }

def onNextBtnPressed (s : State) (formValid : Bool) : State :=
  if formValid ∧ s.staffId ≠ "" ∧ s.isStaffDataChecked ∧ ifStartWithZero s.phone ∧
      s.isPhoneNumberValid ∧ s.phone ≠ "" then
    let model := s.employeeModel.map fun m =>
      { m with
        email := some s.email
        username := some s.username
        phoneNumber := some s.phone }
    { s with employeeModel := model, started := s.started ++ [(s.staffId, model)] }
  else s

def step (s : State) : Event → Option State
  | .initState => some { s with staffId := "", email := "", username := "", phone := "" }
  | .onStaffIdChanged text =>
    some { s with
      staffId := text
      phone := ""
      email := ""
      username := ""
      isStaffDataChecked := false
      lookups := text :: s.lookups }
  | .reply lookup docs => do
    let (text, rest) ← takeOut s.lookups lookup
    -- the query only returns records whose staff id is the text it was started with
    if Matches docs "employee_id" text then
      let s := { s with lookups := rest }
      return (replied docs).elim s (onReply s)
    else none
  | .onPhoneChanged text valid => some { s with phone := text, isPhoneNumberValid := valid }
  | .onNextBtnPressed formValid => some (onNextBtnPressed s formValid)

/-- A model is the record of the typed staff id and can still be registered. -/
def IsTyped (staffId : String) (model : Option EmployeeModel) : Prop :=
  ∃ m, model = some m ∧ m.staffId = some staffId ∧ m.isActivated ≠ some true

/-- A standing check is a check of what is typed, and so was every registration started. -/
structure LooksUpTyped (s : State) : Prop where
  checked : s.isStaffDataChecked = true → IsTyped s.staffId s.employeeModel
  started : ∀ r ∈ s.started, IsTyped r.1 r.2

/-- A reply about an activated record comes while no check stands, one about a record that
can be registered belongs to the text that is typed, and the page is opened again only
without a standing check (or one of the empty text). -/
def RepliesInTime (s : State) : Event → Prop
  | .initState => s.isStaffDataChecked = true → s.staffId = ""
  | .reply lookup docs =>
    ∀ text rest m, takeOut s.lookups lookup = some (text, rest) → replied docs = some m →
      if m.isActivated = some true then s.isStaffDataChecked = false else text = s.staffId
  | _ => True

theorem getD_false_eq_true_iff {b : Option Bool} : b.getD false = true ↔ b = some true := by
  cases b with
  | none => simp
  | some b => simp

/-- What a query may return has the staff id it was started with. -/
theorem staffId_of_replied {docs : Option (List (String × Doc))} {text : String}
    {m : EmployeeModel} (hdocs : Matches docs "employee_id" text) (hm : replied docs = some m) :
    m.staffId = some text := by
  obtain ⟨doc, hdoc, hdec⟩ := mem_of_replied hm
  have htext := hdocs doc hdoc
  rw [(fromDocumentSnapshot_eq_some hdec).staffId] at htext
  exact Codec.string_encode_eq_str_iff.mp htext

theorem onReply_iff {s : State} (hs : LooksUpTyped s) {text : String} {m : EmployeeModel}
    (hm : m.staffId = some text) :
    LooksUpTyped (onReply s m) ↔
      if m.isActivated = some true then s.isStaffDataChecked = false
      else text = s.staffId := by
  unfold onReply
  by_cases ha : m.isActivated = some true
  · rw [if_pos (getD_false_eq_true_iff.mpr ha), if_pos ha]
    constructor
    · intro h
      by_contra hc
      obtain ⟨m', hm', -, hactive⟩ := h.checked (by simpa using hc)
      cases hm'
      exact hactive ha
    · intro hc
      refine ⟨fun h => ?_, hs.started⟩
      have h : s.isStaffDataChecked = true := h
      rw [hc] at h
      cases h
  · rw [if_neg (fun h => ha (getD_false_eq_true_iff.mp h)), if_neg ha]
    constructor
    · intro h
      obtain ⟨m', hm', hstaff, -⟩ := h.checked rfl
      cases hm'
      exact Option.some.inj (hm.symm.trans hstaff)
    · rintro rfl
      exact ⟨fun _ => ⟨m, rfl, hm, ha⟩, hs.started⟩

/-- A press of the button starts a registration only for the record that was checked. -/
theorem onNextBtnPressed_looksUpTyped {s : State} (hs : LooksUpTyped s) (formValid : Bool) :
    LooksUpTyped (onNextBtnPressed s formValid) := by
  unfold onNextBtnPressed
  split
  · case isTrue h =>
    obtain ⟨m, hm, hstaff, hactive⟩ := hs.checked h.2.2.1
    have typed : IsTyped s.staffId (s.employeeModel.map fun m =>
        { m with
          email := some s.email
          username := some s.username
          phoneNumber := some s.phone }) := by
      rw [hm]
      exact ⟨_, rfl, hstaff, hactive⟩
    refine ⟨fun _ => typed, fun r hr => ?_⟩
    rcases List.mem_append.mp hr with hr | hr
    · exact hs.started r hr
    · rw [List.mem_singleton.mp hr]
      exact typed
  · exact hs

theorem looksUpTyped_step_iff {s t : State} {e : Event} (hs : LooksUpTyped s)
    (h : step s e = some t) : LooksUpTyped t ↔ RepliesInTime s e := by
  cases e with
  | initState =>
    cases h
    constructor
    · intro ht hc
      obtain ⟨m, hm, hstaff, -⟩ := hs.checked hc
      obtain ⟨m', hm', hempty, -⟩ := ht.checked hc
      cases hm.symm.trans hm'
      exact Option.some.inj (hstaff.symm.trans hempty)
    · intro hc
      refine ⟨fun hchecked => ?_, hs.started⟩
      obtain ⟨m, hm, hstaff, hactive⟩ := hs.checked hchecked
      rw [hc hchecked] at hstaff
      exact ⟨m, hm, hstaff, hactive⟩
  | onStaffIdChanged text =>
    cases h
    exact iff_of_true ⟨fun hc => Bool.noConfusion hc, hs.started⟩ trivial
  | reply lookup docs =>
    obtain ⟨⟨text, rest⟩, htake, h⟩ := Option.bind_eq_some_iff.mp h
    dsimp only at h
    split at h
    · case isTrue hall =>
      cases h
      have hs' : LooksUpTyped { s with lookups := rest } := ⟨hs.checked, hs.started⟩
      cases hm : replied docs with
      | none =>
        constructor
        · intro _ text' rest' m _ hm'
          rw [hm] at hm'
          cases hm'
        · exact fun _ => hs'
      | some m =>
        rw [Option.elim_some, onReply_iff hs' (staffId_of_replied hall hm)]
        constructor
        · intro hc text' rest' m' htake' hm'
          cases htake.symm.trans htake'
          cases hm.symm.trans hm'
          exact hc
        · exact fun hc => hc text rest m htake hm
    · cases h
  | onPhoneChanged text valid =>
    cases h
    exact iff_of_true ⟨hs.checked, hs.started⟩ trivial
  | onNextBtnPressed formValid =>
    cases h
    exact iff_of_true (onNextBtnPressed_looksUpTyped hs formValid) trivial

theorem looksUpTyped_fresh : LooksUpTyped {} :=
  ⟨fun h => Bool.noConfusion h, fun _ hr => absurd hr List.not_mem_nil⟩

/-- The check and every registration are about what is typed in exactly the runs whose
replies come in time. -/
theorem looksUpTyped_iff (es : List Event) :
    EveryState step LooksUpTyped {} es ↔ EveryStep step RepliesInTime {} es :=
  everyState_iff_everyStep (fun _ _ _ hs h => looksUpTyped_step_iff hs h) looksUpTyped_fresh es

/-- An employee record that has not been registered yet. -/
def newEmployee (id : String) : String × Doc :=
  (id, KeyedRecord.update (fun _ => .null) [("employee_id", .str id)])

/-- The staff id is corrected from `"1"` to `"12"`; the lookup of `"1"` answers last. -/
theorem late_reply_checks_other_employee :
    ¬ ∀ es : List Event, EveryState step LooksUpTyped {} es := by
  intro claim
  refine not_everyState_of_run
    (fun t => t.isStaffDataChecked = true ∧ t.staffId = "12" ∧
      (t.employeeModel.map (·.staffId)) = some (some "1")) ?_ ?_
    (claim [.onStaffIdChanged "1", .onStaffIdChanged "12", .reply 0 (some [newEmployee "12"]),
      .reply 0 (some [newEmployee "1"])])
  · intro t hbad h
    obtain ⟨hc, htext, hmodel⟩ := of_decide_eq_true hbad
    obtain ⟨m, hm, hstaff, -⟩ := h.checked hc
    rw [hm, Option.map_some, hstaff, htext] at hmodel
    exact absurd hmodel (by decide)
  · decide

end RegisterStep1
