import AsmWt.JsonEncode
import AsmWt.FenceList
import Mathlib.Data.List.Forall2

/-!
# The geometries of the geofences

The geometry of a fence is a value of the reply. The model of the fence keeps it
as a text, and the feature for the map decodes that text. The service is followed
here from the bodies of its replies; `FenceList` has the same service with
fences for bodies.
-/

namespace FenceGeometry

open Interleaving JsonText
open FenceList (GeoFenceDataModel GeoFenceStrapiAPIModel forFences)

variable {Num : Type}

def dataKey : Text := text ['d', 'a', 't', 'a']
def id : Text := text ['i', 'd']
def attributes : Text := text ['a', 't', 't', 'r', 'i', 'b', 'u', 't', 'e', 's']
def abbreviation : Text :=
  text ['a', 'b', 'b', 'r', 'e', 'v', 'i', 'a', 't', 'i', 'o', 'n']
def json : Text := text ['j', 's', 'o', 'n']
def is_checked : Text := text ['i', 's', '_', 'c', 'h', 'e', 'c', 'k', 'e', 'd']
def type : Text := text ['t', 'y', 'p', 'e']
def feature : Text := text ['F', 'e', 'a', 't', 'u', 'r', 'e']
def properties : Text := text ['p', 'r', 'o', 'p', 'e', 'r', 't', 'i', 'e', 's']
def geometry : Text := text ['g', 'e', 'o', 'm', 'e', 't', 'r', 'y']

structure Response where
  statusCode : Int
  body : Text

/-- The fields of the service, and the fences of all replies it has read. -/
structure State (Num C : Type) where
  geofenceStrapiAPIList : List (GeoFenceStrapiAPIModel Num Text) := []
  features : List (Value Num) := []
  geoJsonData : Option C := none
  isHasGeofence : Bool := false
  inFlight : Nat := 0
  sent : List (Value Num) := []

/-- A call, or a reply to one; `none` is a request that fails. -/
inductive Event where
  | getGeofencingAreaByOrganizationId
  | reply (result : Option Response)

section Service

variable (numbers : Numbers Num) (isInt : Num → Bool)

def GeoFenceDataModel.fromDocumentSnapshot : Value Num → Option (GeoFenceDataModel Text)
  | .map data => do
    let name ← nullableString (field data abbreviation)
    let json ← encode numbers (field data FenceGeometry.json)
    let isChecked ← nullableBool (field data is_checked)
    return { name, json, isChecked }
  | _ => none

/-- The assignment to a nullable integer. -/
def nullableInt : Value Num → Option (Option Num)
  | .null => some none
  | .num n => if isInt n then some (some n) else none
  | _ => none

def GeoFenceStrapiAPIModel.fromDocumentSnapshot :
    Value Num → Option (GeoFenceStrapiAPIModel Num Text)
  | .map data => do
    let id ← nullableInt isInt (field data FenceGeometry.id)
    let attributes ← GeoFenceDataModel.fromDocumentSnapshot numbers
      (field data FenceGeometry.attributes)
    return { id, attributes }
  | _ => none

def ofInt : Option Num → Value Num
  | none => .null
  | some n => .num n

/-- The map of the feature with this id and this geometry. -/
def featureMap (n : Option Num) (g : Value Num) : Value Num :=
  .map [(type, .string feature), (id, ofInt n), (properties, .map [(id, ofInt n)]), (geometry, g)]

variable {C : Type} (buildFeatureCollection : List (Value Num) → C)

/-- A fence that cannot be read throws, and so would a geometry whose text is none. -/
def addDecoded (s : State Num C) (data : Value Num) : Except (State Num C) (State Num C) :=
  match GeoFenceStrapiAPIModel.fromDocumentSnapshot numbers isInt data with
  | none => .error s
  | some m =>
    let s := { s with geofenceStrapiAPIList := s.geofenceStrapiAPIList ++ [m] }
    match jsonDecode numbers m.attributes.json with
    | none => .error s
    | some g => .ok { s with features := s.features ++ [featureMap m.id g] }

def collect (s : State Num C) : State Num C :=
  { s with geoJsonData := some (buildFeatureCollection s.features) }

/-- What is read as `jsondata['data']`; `none` is an exception. -/
def dataOf : Value Num → Option (Value Num)
  | .map jsondata => some (field jsondata dataKey)
  | _ => none

/-- The length of `jsondata['data']`, if it has one. -/
def lengthOf : Value Num → Option Nat
  | .string s => some s.length
  | .list items => some items.length
  | .map members => some members.length
  | _ => none

/-- The fences of a body; a text or a map is none that can be gone through. -/
def itemsOf : Value Num → List (Value Num)
  | .list items => items
  | _ => []

/-- `jsondata['data']` of a reply of status 200 that could be read. -/
def bodyOf (result : Option Response) : Option (Value Num) := do
  let result ← result
  if result.statusCode = 200 then (jsonDecode numbers result.body).bind dataOf else none

/-- The fences of a reply. -/
def fencesOf (result : Option Response) : List (Value Num) :=
  ((bodyOf numbers result).map itemsOf).getD []

def receive (s : State Num C) (result : Option Response) : State Num C :=
  match bodyOf numbers result with
  | none => s
  | some data =>
    match lengthOf data with
    | none => s
    | some 0 => { s with isHasGeofence := false }
    | some _ =>
      let s := { s with isHasGeofence := true }
      match data with
      | .list items =>
        forFences (addDecoded numbers isInt) (collect buildFeatureCollection) s items
      | _ => s

def step (s : State Num C) : Event → Option (State Num C)
  | .getGeofencingAreaByOrganizationId =>
    some { s with features := [], geofenceStrapiAPIList := [], inFlight := s.inFlight + 1 }
  | .reply result =>
    if s.inFlight = 0 then none
    else
      some { receive numbers isInt buildFeatureCollection s result with
        inFlight := s.inFlight - 1
        sent := s.sent ++ fencesOf numbers result }

end Service

/-- The value under `json` of the attributes of a fence. -/
def geometryOf : Value Num → Value Num
  | .map data =>
    match field data attributes with
    | .map attributes => field attributes json
    | _ => .null
  | _ => .null

def idOf : Value Num → Value Num
  | .map data => field data id
  | _ => .null

/-- The feature that shows a fence as it was sent. -/
def shown (fence : Value Num) : Value Num :=
  .map [(type, .string feature), (id, idOf fence), (properties, .map [(id, idOf fence)]),
    (geometry, geometryOf fence)]

/-- A model and a feature come from one fence that was sent, and the feature shows it. -/
def FromFence (sent : List (Value Num)) (m : GeoFenceStrapiAPIModel Num Text)
    (f : Value Num) : Prop :=
  ∃ fence ∈ sent, idOf fence = ofInt m.id ∧ f = shown fence

/-- The two lists go along, fence by fence. -/
def Faithful {C : Type} (s : State Num C) : Prop :=
  List.Forall₂ (FromFence s.sent) s.geofenceStrapiAPIList s.features

section Loop

variable {numbers : Numbers Num} {isInt : Num → Bool}
variable {C : Type} {buildFeatureCollection : List (Value Num) → C}
variable {s t : State Num C} {data : Value Num} {m : GeoFenceStrapiAPIModel Num Text}

/-- What is kept as a text is the value under `json`. -/
theorem attributes_json {a : GeoFenceDataModel Text} {members : List (Text × Value Num)}
    (canonical : Canonical (.map members))
    (h : GeoFenceDataModel.fromDocumentSnapshot numbers (.map members) = some a) :
    jsonDecode numbers a.json = some (field members json) := by
  obtain ⟨name, -, h⟩ := Option.bind_eq_some_iff.mp h
  obtain ⟨text, htext, h⟩ := Option.bind_eq_some_iff.mp h
  obtain ⟨isChecked, -, h⟩ := Option.bind_eq_some_iff.mp h
  cases h
  exact jsonDecode_encode (canonical_field canonical json) htext

theorem ofInt_of_nullableInt {v : Value Num} {n : Option Num} (h : nullableInt isInt v = some n) :
    v = ofInt n := by
  cases v with
  | null =>
    cases h
    rfl
  | num k =>
    obtain ⟨-, h⟩ := Option.ite_none_right_eq_some.mp h
    cases h
    rfl
  | _ => cases h

/-- The model of a fence has its id, and its geometry can be read back. -/
theorem of_fromDocumentSnapshot (canonical : Canonical data)
    (h : GeoFenceStrapiAPIModel.fromDocumentSnapshot numbers isInt data = some m) :
    idOf data = ofInt m.id ∧ jsonDecode numbers m.attributes.json = some (geometryOf data) := by
  cases data with
  | map members =>
    obtain ⟨n, hn, h⟩ := Option.bind_eq_some_iff.mp h
    obtain ⟨a, ha, h⟩ := Option.bind_eq_some_iff.mp h
    cases h
    refine ⟨ofInt_of_nullableInt hn, ?_⟩
    have inner := canonical_field canonical attributes
    rw [geometryOf]
    cases hattributes : field members attributes with
    | map inside =>
      rw [hattributes] at ha inner
      exact attributes_json inner ha
    | _ =>
      rw [hattributes] at ha
      cases ha
  | _ => cases h

theorem canonical_bodyOf {result : Option Response} (h : bodyOf numbers result = some data) :
    Canonical data := by
  obtain ⟨r, -, h⟩ := Option.bind_eq_some_iff.mp h
  obtain ⟨-, h⟩ := Option.ite_none_right_eq_some.mp h
  obtain ⟨jsondata, hread, h⟩ := Option.bind_eq_some_iff.mp h
  have canonical := canonical_jsonDecode hread
  cases jsondata with
  | map members =>
    cases h
    exact canonical_field canonical dataKey
  | _ => cases h

theorem FromFence.mono {sent more : List (Value Num)} (hsent : ∀ fence ∈ sent, fence ∈ more)
    {f : Value Num} (h : FromFence sent m f) : FromFence more m f := by
  obtain ⟨fence, hmem, hid, hf⟩ := h
  exact ⟨fence, hsent fence hmem, hid, hf⟩

/-- The loop adds a model and a feature at a time. -/
theorem forFences_lists (items : List (Value Num)) (canonical : ∀ v ∈ items, Canonical v)
    {sent : List (Value Num)} (hsent : ∀ v ∈ items, v ∈ sent)
    (h : List.Forall₂ (FromFence sent) s.geofenceStrapiAPIList s.features) :
    List.Forall₂ (FromFence sent)
      (forFences (addDecoded numbers isInt) (collect buildFeatureCollection) s
        items).geofenceStrapiAPIList
      (forFences (addDecoded numbers isInt) (collect buildFeatureCollection) s
        items).features := by
  induction items generalizing s with
  | nil => exact h
  | cons data rest ih =>
    obtain ⟨hdata, hrest⟩ := List.forall_mem_cons.mp canonical
    obtain ⟨hmem, hmems⟩ := List.forall_mem_cons.mp hsent
    rw [FenceList.forFences_cons, addDecoded]
    cases hm : GeoFenceStrapiAPIModel.fromDocumentSnapshot numbers isInt data with
    | none => exact h
    | some m =>
      obtain ⟨hid, hjson⟩ := of_fromDocumentSnapshot hdata hm
      simp only [hjson]
      apply ih hrest hmems
      have new : FromFence sent m (featureMap m.id (geometryOf data)) := by
        refine ⟨data, hmem, hid, ?_⟩
        rw [shown, featureMap, hid]
      exact List.rel_append h (.cons new .nil)

theorem receive_lists (result : Option Response) {sent : List (Value Num)}
    (hsent : ∀ v ∈ fencesOf numbers result, v ∈ sent)
    (h : List.Forall₂ (FromFence sent) s.geofenceStrapiAPIList s.features) :
    List.Forall₂ (FromFence sent)
      (receive numbers isInt buildFeatureCollection s result).geofenceStrapiAPIList
      (receive numbers isInt buildFeatureCollection s result).features := by
  rw [receive]
  cases hbody : bodyOf numbers result with
  | none => exact h
  | some data =>
    have canonical := canonical_bodyOf hbody
    rw [fencesOf, hbody] at hsent
    cases data with
    | list items =>
      cases items with
      | nil => exact h
      | cons v rest =>
        cases canonical with
        | list canonical => exact forFences_lists _ canonical hsent h
    | string text => cases text with | nil | cons c rest => exact h
    | map members => cases members with | nil | cons m rest => exact h
    | null | bool b | num n => exact h

theorem step_faithful {e : Event} (h : Faithful s)
    (hstep : step numbers isInt buildFeatureCollection s e = some t) : Faithful t := by
  cases e with
  | getGeofencingAreaByOrganizationId =>
    cases hstep
    exact .nil
  | reply result =>
    obtain ⟨-, hstep⟩ := Option.ite_none_left_eq_some.mp hstep
    cases hstep
    apply receive_lists
    · exact fun v hv => List.mem_append_right _ hv
    · exact h.imp fun _ _ hf => hf.mono fun fence hmem => List.mem_append_left _ hmem

end Loop

/-- In every run of calls and replies, whatever their bodies, the models and the features go along,
and every feature shows a fence of a reply with its id and its geometry unchanged. -/
theorem features_faithful {C : Type} (numbers : Numbers Num) (isInt : Num → Bool)
    (buildFeatureCollection : List (Value Num) → C) (es : List Event) :
    EveryState (step numbers isInt buildFeatureCollection) Faithful {} es := by
  have start : Faithful ({} : State Num C) := List.Forall₂.nil
  exact everyState_of_inv (fun _ _ _ h hstep => step_faithful h hstep) start es

section Refinement

variable (numbers : Numbers Num) (isInt : Num → Bool)
variable (render : Text → String) (int : Num → Int)

/-- A model with its id and its texts as the service of `FenceList` has them. -/
def toList (m : GeoFenceStrapiAPIModel Num Text) : FenceList.Model :=
  ⟨m.id.map int, m.attributes.name.map render, render m.attributes.json, m.attributes.isChecked⟩

/-- A fence that cannot be read has no attributes there. -/
def toFenceJson (data : Value Num) : FenceList.FenceJson :=
  match GeoFenceStrapiAPIModel.fromDocumentSnapshot numbers isInt data with
  | none => ⟨none, none⟩
  | some m => ⟨m.id.map int, some ⟨m.attributes.name.map render, render m.attributes.json,
      m.attributes.isChecked⟩⟩

def toReply (result : Option Response) : FenceList.Reply :=
  match bodyOf numbers result with
  | none => .failed
  | some data =>
    match lengthOf data with
    | none => .failed
    | some 0 => .response []
    | some _ =>
      match data with
      | .list items => .response (items.map (toFenceJson numbers isInt render int))
      | _ => .response [⟨none, none⟩]

def toEvent : Event → FenceList.Event
  | .getGeofencingAreaByOrganizationId => .getGeofencingAreaByOrganizationId
  | .reply result => .reply (toReply numbers isInt render int result)

variable {C : Type} (buildFeatureCollection : List (Value Num) → C)

/-- The feature of a model, its geometry decoded. -/
def decoded (m : GeoFenceStrapiAPIModel Num Text) : Value Num :=
  featureMap m.id ((jsonDecode numbers m.attributes.json).getD .null)

/-- The lists are those of the same models, and so are the features of the collection. -/
structure Represents (s : State Num C) (u : FenceList.State (List FenceList.Feature)) : Prop where
  list : u.geofenceStrapiAPIList.map Prod.snd = s.geofenceStrapiAPIList.map (toList render int)
  features : s.features = s.geofenceStrapiAPIList.map (decoded numbers)
  features' : u.features.map Prod.snd =
    s.geofenceStrapiAPIList.map fun m => FenceList.featureOf (toList render int m)
  geoJsonData : ∃ ms : Option (List (GeoFenceStrapiAPIModel Num Text)),
    s.geoJsonData = ms.map (fun ms => buildFeatureCollection (ms.map (decoded numbers))) ∧
      u.geoJsonData = ms.map fun ms => ms.map fun m => FenceList.featureOf (toList render int m)
  isHasGeofence : u.isHasGeofence = s.isHasGeofence
  inFlight : u.inFlight = s.inFlight

end Refinement

section Follow

variable {numbers : Numbers Num} {isInt : Num → Bool}
variable {render : Text → String} {int : Num → Int}
variable {C : Type} {buildFeatureCollection : List (Value Num) → C}
variable {s t : State Num C} {u : FenceList.State (List FenceList.Feature)}

theorem fromDocumentSnapshot_toFenceJson (data : Value Num) :
    FenceList.fromDocumentSnapshot (toFenceJson numbers isInt render int data) =
      (GeoFenceStrapiAPIModel.fromDocumentSnapshot numbers isInt data).map
        (toList render int) := by
  rw [toFenceJson]
  cases GeoFenceStrapiAPIModel.fromDocumentSnapshot numbers isInt data with
  | none | some m => rfl

theorem Represents.forFences (n : Nat) (items : List (Value Num))
    (canonical : ∀ v ∈ items, Canonical v)
    (h : Represents numbers render int buildFeatureCollection s u) :
    Represents numbers render int buildFeatureCollection
      (forFences (addDecoded numbers isInt) (collect buildFeatureCollection) s items)
      (FenceList.addFences (fun fs => fs) n u
        (items.map (toFenceJson numbers isInt render int))) := by
  induction items generalizing s u with
  | nil =>
    exact
      { list := h.list
        features := h.features
        features' := h.features'
        geoJsonData := ⟨some s.geofenceStrapiAPIList, congrArg some (by rw [h.features]),
          congrArg some h.features'⟩
        isHasGeofence := h.isHasGeofence
        inFlight := h.inFlight }
  | cons data rest ih =>
    obtain ⟨hdata, hrest⟩ := List.forall_mem_cons.mp canonical
    rw [FenceList.forFences_cons, addDecoded, List.map_cons, FenceList.addFences,
      FenceList.forFences_cons, FenceList.addFence, fromDocumentSnapshot_toFenceJson]
    cases hm : GeoFenceStrapiAPIModel.fromDocumentSnapshot numbers isInt data with
    | none => exact h
    | some m =>
      obtain ⟨-, hjson⟩ := of_fromDocumentSnapshot hdata hm
      simp only [hjson, Option.map_some]
      apply ih hrest
      exact
        { list := by simp [h.list]
          features := by simp [h.features, decoded, hjson]
          features' := by simp [h.features']
          geoJsonData := h.geoJsonData
          isHasGeofence := h.isHasGeofence
          inFlight := h.inFlight }

theorem Represents.setHas (h : Represents numbers render int buildFeatureCollection s u)
    (b : Bool) : Represents numbers render int buildFeatureCollection
      { s with isHasGeofence := b } { u with isHasGeofence := b } :=
  { h with isHasGeofence := rfl }

theorem Represents.receive (h : Represents numbers render int buildFeatureCollection s u)
    (result : Option Response) :
    Represents numbers render int buildFeatureCollection
      (receive numbers isInt buildFeatureCollection s result)
      (FenceList.receive (fun fs => fs) u (toReply numbers isInt render int result)) := by
  rw [FenceGeometry.receive, toReply]
  cases hbody : bodyOf numbers result with
  | none => exact h
  | some data =>
    have canonical := canonical_bodyOf hbody
    cases data with
    | list items =>
      cases items with
      | nil => exact h.setHas false
      | cons v rest =>
        cases canonical with
        | list canonical => exact (h.setHas true).forFences _ _ canonical
    | string text =>
      cases text with
      | nil => exact h.setHas false
      | cons c rest => exact h.setHas true
    | map members =>
      cases members with
      | nil => exact h.setHas false
      | cons m rest => exact h.setHas true
    | null | bool b | num n => exact h

theorem step_followed {e : Event} (h : Represents numbers render int buildFeatureCollection s u)
    (hstep : step numbers isInt buildFeatureCollection s e = some t) :
    ∃ v, FenceList.step (fun fs => fs) u (toEvent numbers isInt render int e) = some v ∧
      Represents numbers render int buildFeatureCollection t v := by
  cases e with
  | getGeofencingAreaByOrganizationId =>
    cases hstep
    refine ⟨_, rfl, ?_⟩
    exact
      { list := rfl
        features := rfl
        features' := rfl
        geoJsonData := h.geoJsonData
        isHasGeofence := h.isHasGeofence
        inFlight := congrArg (· + 1) h.inFlight }
  | reply result =>
    obtain ⟨hflight, hstep⟩ := Option.ite_none_left_eq_some.mp hstep
    cases hstep
    have hflight' : u.inFlight ≠ 0 := by
      rw [h.inFlight]
      exact hflight
    refine ⟨_, if_neg hflight', ?_⟩
    have received : Represents numbers render int buildFeatureCollection
        (receive numbers isInt buildFeatureCollection s result)
        (FenceList.receive (fun fs => fs) u (toReply numbers isInt render int result)) :=
      h.receive result
    exact
      { list := received.list
        features := received.features
        features' := received.features'
        geoJsonData := received.geoJsonData
        isHasGeofence := received.isHasGeofence
        inFlight := congrArg (· - 1) h.inFlight }

end Follow

/-- Every run over the texts is a run over the fences in them. -/
theorem run_refines {C : Type} (numbers : Numbers Num) (isInt : Num → Bool)
    (render : Text → String) (int : Num → Int) (buildFeatureCollection : List (Value Num) → C)
    {es : List Event} {s : State Num C}
    (hrun : run (step numbers isInt buildFeatureCollection) {} es = some s) :
    ∃ u, run (FenceList.step fun fs => fs) {} (es.map (toEvent numbers isInt render int)) =
        some u ∧
      Represents numbers render int buildFeatureCollection s u := by
  have start : Represents numbers render int buildFeatureCollection ({} : State Num C) {} :=
    { list := rfl
      features := rfl
      features' := rfl
      geoJsonData := ⟨none, rfl, rfl⟩
      isHasGeofence := rfl
      inFlight := rfl }
  exact run_map_followed _ (fun _ _ _ _ h hstep => step_followed h hstep) start hrun

/-- The string of a text without surrogates. -/
def ofUnits (t : Text) : String := String.ofList (t.map fun u => Char.ofNat u.toNat)

def isDigits (n : Text) : Bool := n.all fun u => unit '0' ≤ u && u ≤ unit '9'

/-- The number that digits spell. -/
def ofDigits (n : Text) : Int :=
  n.foldl (fun i u => 10 * i + (u.toNat - (unit '0').toNat : Nat)) 0

/-- The fence 27, whose geometry is an empty object. -/
def oneFence : Text :=
  text ['{', '"', 'd', 'a', 't', 'a', '"', ':', '[', '{', '"', 'i', 'd', '"', ':', '2', '7', ',',
    '"', 'a', 't', 't', 'r', 'i', 'b', 'u', 't', 'e', 's', '"', ':', '{', '"', 'j', 's', 'o', 'n',
    '"', ':', '{', '}', '}', '}', ']', '}']

/-- A call and its reply. -/
theorem oneFence_refines :
    ∃ s u, run (step Numbers.spelled isDigits fun fs => fs) {}
        [.getGeofencingAreaByOrganizationId, .reply (some ⟨200, oneFence⟩)] = some s ∧
      run (FenceList.step fun fs => fs) {}
        ([.getGeofencingAreaByOrganizationId, .reply (some ⟨200, oneFence⟩)].map
          (toEvent Numbers.spelled isDigits ofUnits ofDigits)) = some u ∧
      u.geofenceStrapiAPIList = [(0, ⟨some 27, ⟨none, "{}", none⟩⟩)] ∧
      Represents Numbers.spelled ofUnits ofDigits (fun fs => fs) s u := by
  have runs : ∃ s, run (step Numbers.spelled isDigits fun fs => fs) {}
      [.getGeofencingAreaByOrganizationId, .reply (some ⟨200, oneFence⟩)] = some s := ⟨_, rfl⟩
  obtain ⟨s, hs⟩ := runs
  obtain ⟨u, hu, h⟩ := run_refines Numbers.spelled isDigits ofUnits ofDigits (fun fs => fs) hs
  refine ⟨s, u, hs, hu, ?_, h⟩
  cases hu
  decide

end FenceGeometry
