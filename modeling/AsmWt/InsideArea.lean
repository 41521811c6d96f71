import AsmWt.JsonDecode
import AsmWt.LocationEvidence

/-!
# Whether a worker is inside an area

The verdict of `confirmInGeofencingArea` compares the text of the reply with the
two brackets of an empty list; the areas come from what the text says. An empty
list that is spelled with whitespace is taken for an area.
-/

namespace InsideArea

open Firestore (BaseService)
open LocationEvidence (AreaModel)
open JsonText

/-- `data[key]`; of repeated keys the last one is left. -/
def member (members : List (Text × Json)) (key : Text) : Json :=
  ((members.reverse.find? fun m => m.1 = key).map Prod.snd).getD .null

/-- The assignment to a nullable string; `none` is its type error. -/
def string : Json → Option (Option Text)
  | .null => some none
  | .string s => some (some s)
  | _ => none

def AreaModel.fromDocumentSnapshot : Json → Option (AreaModel Text)
  | .object data => do
    let name_en ← string (member data (text ['n', 'a', 'm', 'e', '_', 'e', 'n']))
    let name_th ← string (member data (text ['n', 'a', 'm', 'e', '_', 't', 'h']))
    return { name_en, name_th }
  | _ => none

structure State where
  geoAreadList : List (AreaModel Text) := []
  areaModel : AreaModel Text := {}
  clockInOutAreaNameEn : Option (List Text) := none
  clockInOutAreaNameTh : Option (List Text) := none

structure Response where
  statusCode : Int
  body : Text

def State.reset (s : State) : State :=
  { s with
    geoAreadList := []
    clockInOutAreaNameEn := some []
    clockInOutAreaNameTh := some [] }

def State.add (s : State) (areaModel : AreaModel Text) : State where
  geoAreadList := s.geoAreadList ++ [areaModel]
  areaModel := areaModel
  clockInOutAreaNameEn := s.clockInOutAreaNameEn.map (· ++ [areaModel.name_en.getD []])
  clockInOutAreaNameTh := s.clockInOutAreaNameTh.map (· ++ [areaModel.name_th.getD []])

/-- The loop over the areas, and whether it comes to its end. -/
def addAreas (s : State) : List Json → State × Bool
  | [] => (s, true)
  | data :: rest =>
    match AreaModel.fromDocumentSnapshot data with
    | none => (s, false)
    | some areaModel => addAreas (s.add areaModel) rest

def brackets : Text := text ['[', ']']

/-- The service after the check, and its answer unless the check throws; a request that fails ends
in an exception as well. The messages are keys of the translation. -/
def confirmInGeofencingArea (s : State) (result : Option Response) :
    State × Option (BaseService Text) :=
  let s := s.reset
  match result with
  | none => (s, none)
  | some result =>
    if result.statusCode = 200 then
      match decode result.body with
      | none => (s, none)
      | some jsondata =>
        if result.body ≠ brackets then
          match jsondata with
          | .array items =>
            let (s, finished) := addAreas s items
            (s, if finished then
              some ⟨"S", "task_checkIn.geo_location_message", some result.body⟩ else none)
          | _ => (s, none)
        else (s, some ⟨"S", "task_checkIn.geo_check_message", none⟩)
    else
      (s, some ⟨"E", "Server Not Respone : Check geofence In/Out error.", some result.body⟩)

/-- The answer that starts the process without a dialog. -/
def letsThrough (userIsInGeofencing : Option (BaseService Text)) : Bool :=
  userIsInGeofencing.any fun b => b.status = "S" && b.data.isSome

/-- The verdict is inside if there is an area, and the lists are those of the areas. -/
structure InsideMeansInside (s : State) (body : Text) (areas : List (AreaModel Text)) : Prop where
  verdict : letsThrough (confirmInGeofencingArea s (some ⟨200, body⟩)).2 = true ↔ areas ≠ []
  geoAreadList : (confirmInGeofencingArea s (some ⟨200, body⟩)).1.geoAreadList = areas
  namesEn : (confirmInGeofencingArea s (some ⟨200, body⟩)).1.clockInOutAreaNameEn =
    some (areas.map fun area => area.name_en.getD [])
  namesTh : (confirmInGeofencingArea s (some ⟨200, body⟩)).1.clockInOutAreaNameTh =
    some (areas.map fun area => area.name_th.getD [])

/-- The names are those of the areas in the list. -/
structure InStep (s : State) : Prop where
  en : s.clockInOutAreaNameEn = some (s.geoAreadList.map fun area => area.name_en.getD [])
  th : s.clockInOutAreaNameTh = some (s.geoAreadList.map fun area => area.name_th.getD [])

section Check

variable {s : State} {items : List Json} {areas : List (AreaModel Text)} {body : Text}

theorem inStep_reset (s : State) : InStep s.reset := ⟨rfl, rfl⟩

theorem InStep.add (h : InStep s) (areaModel : AreaModel Text) : InStep (s.add areaModel) where
  en := by simp [State.add, h.en]
  th := by simp [State.add, h.th]

theorem InStep.addAreas (h : InStep s) (items : List Json) : InStep (addAreas s items).1 := by
  induction items generalizing s with
  | nil => exact h
  | cons data rest ih =>
    rw [InsideArea.addAreas]
    cases AreaModel.fromDocumentSnapshot data with
    | none => exact h
    | some areaModel => exact ih (h.add areaModel)

theorem addAreas_of_decoded (decoded : items.mapM AreaModel.fromDocumentSnapshot = some areas) :
    (addAreas s items).1.geoAreadList = s.geoAreadList ++ areas ∧ (addAreas s items).2 = true := by
  induction items generalizing s areas with
  | nil =>
    cases decoded
    exact ⟨(List.append_nil _).symm, rfl⟩
  | cons data rest ih =>
    rw [List.mapM_cons, Option.bind_eq_bind, Option.bind_eq_some_iff] at decoded
    obtain ⟨areaModel, ha, decoded⟩ := decoded
    rw [Option.bind_eq_bind, Option.bind_eq_some_iff] at decoded
    obtain ⟨areas, has, decoded⟩ := decoded
    cases decoded
    obtain ⟨list, finished⟩ := @ih (s.add areaModel) areas has
    rw [addAreas, ha]
    exact ⟨list.trans (by simp [State.add]), finished⟩

theorem decoded_of_addAreas (finished : (addAreas s items).2 = true) :
    ∃ areas, items.mapM AreaModel.fromDocumentSnapshot = some areas := by
  induction items generalizing s with
  | nil => exact ⟨[], rfl⟩
  | cons data rest ih =>
    rw [addAreas] at finished
    cases ha : AreaModel.fromDocumentSnapshot data with
    | none =>
      rw [ha] at finished
      cases finished
    | some areaModel =>
      rw [ha] at finished
      obtain ⟨areas, has⟩ := ih finished
      exact ⟨areaModel :: areas, by simp [List.mapM_cons, ha, has]⟩

/-- A check of a list that is not spelled `[]`. -/
theorem confirm_of_isText (spelled : IsText (.array items) body) (other : body ≠ brackets) :
    confirmInGeofencingArea s (some ⟨200, body⟩) =
      ((addAreas s.reset items).1, if (addAreas s.reset items).2 then
        some ⟨"S", "task_checkIn.geo_location_message", some body⟩ else none) := by
  simp [confirmInGeofencingArea, decode_of_isText spelled, other]

theorem confirm_of_brackets :
    confirmInGeofencingArea s (some ⟨200, brackets⟩) =
      (s.reset, some ⟨"S", "task_checkIn.geo_check_message", none⟩) := rfl

theorem isText_brackets : IsText (.array []) brackets := decode_eq_some_iff.mp rfl

/-- A check ends in an exception before its loop, gives the answer to another status or to the two
brackets, or goes through a list that is spelled otherwise. -/
theorem confirm_cases (s : State) (result : Option Response) :
    confirmInGeofencingArea s result = (s.reset, none) ∨
    (∃ r, result = some r ∧ r.statusCode ≠ 200 ∧ confirmInGeofencingArea s result =
      (s.reset, some ⟨"E", "Server Not Respone : Check geofence In/Out error.", some r.body⟩)) ∨
    (result = some ⟨200, brackets⟩ ∧ confirmInGeofencingArea s result =
      (s.reset, some ⟨"S", "task_checkIn.geo_check_message", none⟩)) ∨
    ∃ body items, result = some ⟨200, body⟩ ∧ IsText (.array items) body ∧ body ≠ brackets ∧
      confirmInGeofencingArea s result =
        ((addAreas s.reset items).1, if (addAreas s.reset items).2 then
          some ⟨"S", "task_checkIn.geo_location_message", some body⟩ else none) := by
  cases result with
  | none => exact Or.inl rfl
  | some result =>
    obtain ⟨statusCode, body⟩ := result
    by_cases ok : statusCode = 200
    · cases ok
      by_cases same : body = brackets
      · cases same
        exact Or.inr (Or.inr (Or.inl ⟨rfl, confirm_of_brackets⟩))
      · cases hd : decode body with
        | none => exact Or.inl (by simp [confirmInGeofencingArea, hd])
        | some jsondata =>
          cases jsondata with
          | array items =>
            have spelled := decode_eq_some_iff.mp hd
            exact Or.inr (Or.inr (Or.inr
              ⟨body, items, rfl, spelled, same, confirm_of_isText spelled same⟩))
          | _ => exact Or.inl (by simp [confirmInGeofencingArea, hd, same])
    · exact Or.inr (Or.inl ⟨_, rfl, ok, if_neg ok⟩)

/-- Every check leaves the names in step with the areas, whatever becomes of it. -/
theorem confirmInGeofencingArea_inStep (s : State) (result : Option Response) :
    InStep (confirmInGeofencingArea s result).1 := by
  have start := inStep_reset s
  rcases confirm_cases s result with h | ⟨_, _, _, h⟩ | ⟨_, h⟩ | ⟨_, items, _, _, _, h⟩
  · rw [h]
    exact start
  · rw [h]
    exact start
  · rw [h]
    exact start
  · rw [h]
    exact start.addAreas items

/-- Whatever the reply: the process starts without a dialog for every text of a list of areas, but
for the two brackets. -/
theorem letsThrough_iff (s : State) (result : Option Response) :
    letsThrough (confirmInGeofencingArea s result).2 = true ↔
      ∃ body items areas, result = some ⟨200, body⟩ ∧ IsText (.array items) body ∧
        items.mapM AreaModel.fromDocumentSnapshot = some areas ∧ body ≠ brackets := by
  constructor
  · intro through
    rcases confirm_cases s result with
      h | ⟨_, _, _, h⟩ | ⟨_, h⟩ | ⟨body, items, hr, spelled, other, h⟩
    · rw [h] at through
      cases through
    · rw [h] at through
      cases through
    · rw [h] at through
      cases through
    · rw [h] at through
      dsimp only at through
      split at through
      · case isTrue finished =>
        obtain ⟨areas, decoded⟩ := decoded_of_addAreas finished
        exact ⟨body, items, areas, hr, spelled, decoded, other⟩
      · cases through
  · rintro ⟨body, items, areas, rfl, spelled, decoded, other⟩
    rw [confirm_of_isText spelled other, if_pos (addAreas_of_decoded decoded).2]
    rfl

/-- The check means what it says exactly if an empty list is spelled `[]`. -/
theorem insideMeansInside_iff (s : State) (spelled : IsText (.array items) body)
    (decoded : items.mapM AreaModel.fromDocumentSnapshot = some areas) :
    InsideMeansInside s body areas ↔ (areas = [] → body = brackets) := by
  have verdict : letsThrough (confirmInGeofencingArea s (some ⟨200, body⟩)).2 = true ↔
      body ≠ brackets := by
    rw [letsThrough_iff]
    constructor
    · rintro ⟨body', -, -, hbody, -, -, other⟩
      cases hbody
      exact other
    · exact fun other => ⟨body, items, areas, rfl, spelled, decoded, other⟩
  constructor
  · intro h empty
    by_contra other
    exact h.verdict.mp (verdict.mpr other) empty
  · intro condition
    have list : (confirmInGeofencingArea s (some ⟨200, body⟩)).1.geoAreadList = areas := by
      by_cases same : body = brackets
      · cases same
        cases (decode_of_isText spelled).symm.trans (decode_of_isText isText_brackets)
        cases decoded
        rfl
      · rw [confirm_of_isText spelled same]
        exact (addAreas_of_decoded decoded).1
    have inStep := confirmInGeofencingArea_inStep s (some ⟨200, body⟩)
    refine ⟨verdict.trans ⟨fun other empty => other (condition empty), ?_⟩, list, ?_, ?_⟩
    · rintro some_area rfl
      cases (decode_of_isText spelled).symm.trans (decode_of_isText isText_brackets)
      cases decoded
      exact some_area rfl
    · rw [inStep.en, list]
    · rw [inStep.th, list]

/-- The reply of a worker who is in the area T. -/
def inT : Text :=
  [unit '[', unit '{', quote] ++ text ['n', 'a', 'm', 'e', '_', 'e', 'n'] ++
    [quote, unit ':', quote, unit 'T', quote, unit '}', unit ']']

theorem insideMeansInside_inT :
    InsideMeansInside {} inT [⟨some (text ['T']), none⟩] ↔
      (([⟨some (text ['T']), none⟩] : List (AreaModel Text)) = [] → inT = brackets) :=
  insideMeansInside_iff {}
    (show IsText (.array [.object [(text ['n', 'a', 'm', 'e', '_', 'e', 'n'],
      .string (text ['T']))]]) inT from decode_eq_some_iff.mp rfl) rfl

/-- An empty list with a blank between its brackets is taken for an area. -/
theorem blank_is_inside :
    ¬ ∀ (s : State) (body : Text) (items : List Json) (areas : List (AreaModel Text)),
        IsText (.array items) body → items.mapM AreaModel.fromDocumentSnapshot = some areas →
          InsideMeansInside s body areas := by
  intro claim
  have h := claim {} (text ['[', ' ', ']']) [] [] (decode_eq_some_iff.mp rfl) rfl
  exact h.verdict.mp rfl rfl

/-- Without an area, any whitespace lets the press through. -/
theorem letsThrough_without_area_iff {w w' w'' : Text} (hw : Blank w) (hw' : Blank w')
    (hw'' : Blank w'') :
    letsThrough (confirmInGeofencingArea s
        (some ⟨200, w ++ (unit '[' :: w' ++ [unit ']']) ++ w''⟩)).2 = true ↔
      w ++ w' ++ w'' ≠ [] := by
  have spelled : IsText (.array []) (w ++ (unit '[' :: w' ++ [unit ']']) ++ w'') :=
    .item hw (.array (.noItems hw')) hw''
  have same : w ++ (unit '[' :: w' ++ [unit ']']) ++ w'' = brackets ↔ w ++ w' ++ w'' = [] := by
    constructor
    · intro h
      have length := congrArg List.length h
      simp only [List.length_append, List.length_cons, List.length_nil, brackets, text,
        List.length_map] at length
      refine List.eq_nil_of_length_eq_zero ?_
      simp only [List.length_append]
      omega
    · intro h
      obtain ⟨rfl, rfl, rfl⟩ : w = [] ∧ w' = [] ∧ w'' = [] := by simpa using h
      rfl
  rw [letsThrough_iff, ne_eq, ← same]
  constructor
  · rintro ⟨body, -, -, hbody, -, -, other⟩
    cases hbody
    exact other
  · exact fun other => ⟨_, [], [], rfl, spelled, rfl, other⟩

end Check

section Evidence

/-- The areas that a reply of the check adds to the lists. -/
def received : LocationEvidence.Reply → List (AreaModel String)
  | .inside areas | .malformed areas => areas
  | .ok | .failed | .position _ | .outside | .time _ => []

/-- An area with its names as strings. -/
def named (read : Text → String) (area : AreaModel Text) : AreaModel String :=
  ⟨area.name_en.map read, area.name_th.map read⟩

/-- What the handler of the confirm button makes of a check. -/
def replyOf (read : Text → String) (t : State) : Option (BaseService Text) → LocationEvidence.Reply
  | none => .malformed (t.geoAreadList.map (named read))
  | some userIsInGeofencing =>
    if userIsInGeofencing.status = "S" then
      if userIsInGeofencing.data.isSome then .inside (t.geoAreadList.map (named read))
      else .outside
    else .failed

theorem areaNames_named {read : Text → String} (hread : read [] = "")
    (areas : List (AreaModel Text)) :
    LocationEvidence.areaNames (areas.map (named read)) .en =
        (areas.map fun area => area.name_en.getD []).map read ∧
      LocationEvidence.areaNames (areas.map (named read)) .th =
        (areas.map fun area => area.name_th.getD []).map read := by
  have name (s : Option Text) : (s.map read).getD "" = read (s.getD []) := by
    cases s with
    | none => exact hread.symm
    | some s => rfl
  simp [LocationEvidence.areaNames, named, name, Function.comp_def]

theorem received_replyOf (read : Text → String) (s : State) (result : Option Response) :
    received (replyOf read (confirmInGeofencingArea s result).1
        (confirmInGeofencingArea s result).2) =
      (confirmInGeofencingArea s result).1.geoAreadList.map (named read) := by
  rcases confirm_cases s result with h | ⟨_, _, _, h⟩ | ⟨_, h⟩ | ⟨_, items, _, _, _, h⟩
  · rw [h]
    rfl
  · rw [h]
    rfl
  · rw [h]
    rfl
  · rw [h]
    dsimp only
    cases (addAreas s.reset items).2 with
    | false => rfl
    | true => rfl

/-- After a check the name lists hold what its reply adds to them in the evidence of a clocking. -/
theorem names_received {read : Text → String} (hread : read [] = "") (s : State)
    (result : Option Response) {t : State} {r : Option (BaseService Text)}
    (hr : confirmInGeofencingArea s result = (t, r)) :
    t.clockInOutAreaNameEn.map (List.map read) =
        some (LocationEvidence.areaNames (received (replyOf read t r)) .en) ∧
      t.clockInOutAreaNameTh.map (List.map read) =
        some (LocationEvidence.areaNames (received (replyOf read t r)) .th) := by
  have inStep := confirmInGeofencingArea_inStep s result
  have areas := received_replyOf read s result
  rw [hr] at inStep areas
  obtain ⟨en, th⟩ := areaNames_named hread t.geoAreadList
  rw [areas, en, th, inStep.en, inStep.th]
  exact ⟨rfl, rfl⟩

end Evidence

end InsideArea
