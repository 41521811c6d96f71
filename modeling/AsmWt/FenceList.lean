import AsmWt.Interleaving

/-!
# The list of geofences

Every call empties the two lists of the service before its request is sent, and
appends to whatever lists are there when its reply arrives. The collection for
the map is built at the end of a reply that could be read to its end.
-/

namespace FenceList

open Interleaving

/-- The attributes of a fence as the server sends them; `json` is the text of its geometry. -/
structure AttributesJson where
  abbreviation : Option String
  json : String
  is_checked : Option Bool
  deriving DecidableEq

structure FenceJson where
  id : Option Int
  attributes : Option AttributesJson
  deriving DecidableEq

/-- Texts are strings, or as they come in a reply. -/
structure GeoFenceDataModel (Str : Type) where
  name : Option Str
  json : Str
  isChecked : Option Bool
  deriving DecidableEq

structure GeoFenceStrapiAPIModel (Id Str : Type) where
  id : Option Id
  attributes : GeoFenceDataModel Str
  deriving DecidableEq

abbrev Model := GeoFenceStrapiAPIModel Int String

/-- `GeoFenceStrapiAPIModel.fromDocumentSnapshot`; missing attributes are a type error. -/
def fromDocumentSnapshot (data : FenceJson) : Option Model :=
  data.attributes.map fun attributes =>
    ⟨data.id, ⟨attributes.abbreviation, attributes.json, attributes.is_checked⟩⟩

/-- The `id` of a feature, twice in its map, and its `geometry`. The text that is decoded for it was
encoded a moment before. -/
structure Feature where
  id : Option Int
  geometry : String
  deriving DecidableEq

def featureOf (m : Model) : Feature := ⟨m.id, m.attributes.json⟩

/-- A response of status 200 with its `data`, or anything else: another status, an exception of the
request, a body that is not read. -/
inductive Reply where
  | response (data : List FenceJson)
  | failed
  deriving DecidableEq

/-- The fences a reply adds: those before the first that cannot be read. -/
def readable : List FenceJson → List Model
  | [] => []
  | data :: rest =>
    match fromDocumentSnapshot data with
    | none => []
    | some m => m :: readable rest

def Reply.fences : Reply → List Model
  | .response data => readable data
  | .failed => []

/-- The status of the result is `S`. -/
def Reply.succeeds : Reply → Bool
  | .response data => !data.isEmpty && data.all fun data => (fromDocumentSnapshot data).isSome
  | .failed => false

/-- The fields of the service, each fence and feature with the number of the reply it came with;
the number of calls in flight; all replies; and the numbers of those that have added a fence since
the last call. -/
structure State (Json : Type) where
  geofenceStrapiAPIList : List (Nat × Model) := []
  features : List (Nat × Feature) := []
  geoJsonData : Option Json := none
  isHasGeofence : Bool := false
  inFlight : Nat := 0
  replies : List Reply := []
  added : List Nat := []

inductive Event where
  | getGeofencingAreaByOrganizationId
  | reply (r : Reply)

/-- The loop over the fences of a reply, which ends with `finish`. An exception of `add` ends it in
the state that was reached. -/
def forFences {S Fence : Type} (add : S → Fence → Except S S) (finish : S → S) (s : S)
    (data : List Fence) : S :=
  match data.foldlM add s with
  | .ok s => finish s
  | .error s => s

theorem forFences_nil {S Fence : Type} (add : S → Fence → Except S S) (finish : S → S) (s : S) :
    forFences add finish s [] = finish s := rfl

theorem forFences_cons {S Fence : Type} (add : S → Fence → Except S S) (finish : S → S) (s : S)
    (data : Fence) (rest : List Fence) :
    forFences add finish s (data :: rest) =
      match add s data with
      | .ok s => forFences add finish s rest
      | .error s => s := by
  rw [forFences, List.foldlM_cons]
  cases add s data with
  | ok s => rfl
  | error s => rfl

section Step

variable {Json : Type} (buildFeatureCollection : List Feature → Json)

/-- A fence that cannot be read throws. -/
def addFence (n : Nat) (s : State Json) (data : FenceJson) : Except (State Json) (State Json) :=
  match fromDocumentSnapshot data with
  | none => .error s
  | some m => .ok { s with
      geofenceStrapiAPIList := s.geofenceStrapiAPIList ++ [(n, m)]
      features := s.features ++ [(n, featureOf m)] }

def collect (s : State Json) : State Json :=
  { s with geoJsonData := some (buildFeatureCollection (s.features.map Prod.snd)) }

def addFences (n : Nat) : State Json → List FenceJson → State Json :=
  forFences (addFence n) (collect buildFeatureCollection)

def receive (s : State Json) : Reply → State Json
  | .response data =>
    if data.isEmpty then { s with isHasGeofence := false }
    else addFences buildFeatureCollection s.replies.length { s with isHasGeofence := true } data
  | .failed => s

/-- The calls are alike, so it does not matter which of them a reply belongs to. -/
def step (s : State Json) : Event → Option (State Json)
  | .getGeofencingAreaByOrganizationId =>
    some { s with
      features := []
      geofenceStrapiAPIList := []
      inFlight := s.inFlight + 1
      added := [] }
  | .reply r =>
    if s.inFlight = 0 then none
    else
      some { receive buildFeatureCollection s r with
        inFlight := s.inFlight - 1
        replies := s.replies ++ [r]
        added := if r.fences = [] then s.added else s.added ++ [s.replies.length] }

/-- The reply of this number was a success. -/
def State.Success (s : State Json) (n : Nat) : Prop :=
  ∃ r, s.replies[n]? = some r ∧ r.succeeds = true

/-- The lists hold the fences of one successful reply, and the collection is that of the
features. -/
def HoldsReply (s : State Json) (n : Nat) : Prop :=
  ∃ r, s.replies[n]? = some r ∧ r.succeeds = true ∧
    s.geofenceStrapiAPIList = r.fences.map (fun m => (n, m)) ∧
    s.features = r.fences.map (fun m => (n, featureOf m)) ∧
    s.geofenceStrapiAPIList.length = s.features.length ∧
    s.geoJsonData = some (buildFeatureCollection (s.features.map Prod.snd))

/-- Nothing is in flight and there was a success: then the lists are those of one reply. -/
def OneResponse (s : State Json) : Prop :=
  s.inFlight = 0 → (∃ n, s.Success n) → ∃ n, HoldsReply buildFeatureCollection s n

/-- What a state must come to for its lists to be those of one reply. -/
def OneSource (s : State Json) : Prop := ∃ n, s.added = [n] ∧ s.Success n

/-- If the last reply arrives and there was a success, exactly one reply since the last call has
brought fences, and it could be read to its end: either this one, or one before it. -/
def SingleSource (s : State Json) : Event → Prop
  | .reply r =>
    s.inFlight = 1 → (∃ n, s.Success n) ∨ r.succeeds = true →
      if r.fences = [] then OneSource s else s.added = [] ∧ r.succeeds = true
  | .getGeofencingAreaByOrganizationId => True

theorem fences_ne_nil {r : Reply} (h : r.succeeds = true) : r.fences ≠ [] := by
  cases r with
  | failed => cases h
  | response data =>
    cases data with
    | nil => cases h
    | cons data rest =>
      simp only [Reply.succeeds, List.all_cons, Bool.and_eq_true] at h
      obtain ⟨m, hm⟩ := Option.isSome_iff_exists.mp h.2.1
      simp [Reply.fences, readable, hm]

/-- The loop adds what can be read, and builds the collection if that is everything. -/
theorem addFences_eq (n : Nat) (s : State Json) (data : List FenceJson) :
    addFences buildFeatureCollection n s data =
      { s with
        geofenceStrapiAPIList := s.geofenceStrapiAPIList ++ (readable data).map fun m => (n, m)
        features := s.features ++ (readable data).map fun m => (n, featureOf m)
        geoJsonData :=
          if data.all fun data => (fromDocumentSnapshot data).isSome then
            some (buildFeatureCollection
              ((s.features ++ (readable data).map fun m => (n, featureOf m)).map Prod.snd))
          else s.geoJsonData } := by
  induction data generalizing s with
  | nil => simp [addFences, forFences_nil, collect, readable]
  | cons data rest ih =>
    rw [addFences, forFences_cons, addFence]
    cases hm : fromDocumentSnapshot data with
    | none => simp [readable, hm]
    | some m =>
      dsimp only
      rw [← addFences, ih]
      simp [readable, hm]

/-- A reply adds its fences, and builds the collection if it is a success. -/
theorem receive_eq (s : State Json) (r : Reply) :
    ∃ isHasGeofence, receive buildFeatureCollection s r =
      { s with
        geofenceStrapiAPIList :=
          s.geofenceStrapiAPIList ++ r.fences.map fun m => (s.replies.length, m)
        features := s.features ++ r.fences.map fun m => (s.replies.length, featureOf m)
        geoJsonData :=
          if r.succeeds then
            some (buildFeatureCollection
              ((s.features ++ r.fences.map fun m => (s.replies.length, featureOf m)).map Prod.snd))
          else s.geoJsonData
        isHasGeofence := isHasGeofence } := by
  cases r with
  | failed => exact ⟨s.isHasGeofence, by simp [receive, Reply.fences, Reply.succeeds]⟩
  | response data =>
    cases data with
    | nil => exact ⟨false, by simp [receive, Reply.fences, Reply.succeeds, readable]⟩
    | cons data rest =>
      refine ⟨true, ?_⟩
      rw [receive, List.isEmpty_cons, if_neg (by simp), addFences_eq]
      simp [Reply.fences, Reply.succeeds]

variable {buildFeatureCollection}
variable {s t : State Json}

/-- What the arrival of a reply does to the fields that count. -/
theorem step_reply {r : Reply} (hstep : step buildFeatureCollection s (.reply r) = some t) :
    s.inFlight = t.inFlight + 1 ∧ t.replies = s.replies ++ [r] ∧
      t.added = (if r.fences = [] then s.added else s.added ++ [s.replies.length]) ∧
      t.geofenceStrapiAPIList =
        s.geofenceStrapiAPIList ++ r.fences.map (fun m => (s.replies.length, m)) ∧
      t.features = s.features ++ r.fences.map (fun m => (s.replies.length, featureOf m)) ∧
      t.geoJsonData = if r.succeeds then
          some (buildFeatureCollection (t.features.map Prod.snd))
        else s.geoJsonData := by
  simp only [step] at hstep
  split at hstep
  · cases hstep
  · case isFalse hflight =>
    obtain ⟨isHasGeofence, hreceive⟩ := receive_eq buildFeatureCollection s r
    rw [hreceive] at hstep
    cases hstep
    exact ⟨by dsimp only; omega, rfl, rfl, rfl, rfl, rfl⟩

/-- The fences of a reply, by its number. -/
def fencesAt (replies : List Reply) (n : Nat) : List Model :=
  ((replies[n]?).map Reply.fences).getD []

theorem fencesAt_append {replies : List Reply} {n : Nat} (h : n < replies.length) (r : Reply) :
    fencesAt (replies ++ [r]) n = fencesAt replies n := by
  rw [fencesAt, List.getElem?_append_left h, fencesAt]

theorem fencesAt_length (replies : List Reply) (r : Reply) :
    fencesAt (replies ++ [r]) replies.length = r.fences := by
  simp [fencesAt]

theorem fencesAt_of_getElem? {replies : List Reply} {n : Nat} {r : Reply}
    (h : replies[n]? = some r) : fencesAt replies n = r.fences := by
  rw [fencesAt, h]
  rfl

/-- The lists are what the replies since the last call have added, one after the other. -/
structure Inv (buildFeatureCollection : List Feature → Json) (s : State Json) : Prop where
  known : ∀ n ∈ s.added, n < s.replies.length ∧ fencesAt s.replies n ≠ []
  distinct : s.added.Nodup
  list : s.geofenceStrapiAPIList =
    s.added.flatMap fun n => (fencesAt s.replies n).map fun m => (n, m)
  features : s.features = s.geofenceStrapiAPIList.map fun x => (x.1, featureOf x.2)
  collection : OneSource s →
    s.geoJsonData = some (buildFeatureCollection (s.features.map Prod.snd))

/-- Replies that are counted and have a fence in the list of one reply are that reply. -/
theorem Inv.added_eq (h : Inv buildFeatureCollection s) {n : Nat}
    {fences : List Model} (hne : fences ≠ [])
    (hlist : s.geofenceStrapiAPIList = fences.map fun m => (n, m)) : s.added = [n] := by
  have only : ∀ k ∈ s.added, k = n := by
    intro k hk
    obtain ⟨m, hm⟩ := List.exists_mem_of_ne_nil _ (h.known k hk).2
    have hmem : (k, m) ∈ s.geofenceStrapiAPIList := by
      rw [h.list]
      exact List.mem_flatMap.mpr ⟨k, hk, List.mem_map.mpr ⟨m, hm, rfl⟩⟩
    rw [hlist] at hmem
    obtain ⟨m', -, he⟩ := List.mem_map.mp hmem
    exact (congrArg Prod.fst he).symm
  have some_added : s.added ≠ [] := by
    intro hnil
    have hempty := h.list
    rw [hnil, hlist] at hempty
    exact hne (List.map_eq_nil_iff.mp hempty)
  have distinct := h.distinct
  rcases hadded : s.added with _ | ⟨a, _ | ⟨b, rest⟩⟩
  · exact absurd hadded some_added
  · rw [hadded] at only
    rw [only a List.mem_cons_self]
  · rw [hadded] at only distinct
    have ha := only a List.mem_cons_self
    have hb := only b (List.mem_cons_of_mem a List.mem_cons_self)
    rw [ha, hb] at distinct
    exact absurd List.mem_cons_self (List.nodup_cons.mp distinct).1

/-- The lists are those of one reply exactly if only that one has added anything. -/
theorem Inv.holdsReply_iff (h : Inv buildFeatureCollection s) :
    (∃ n, HoldsReply buildFeatureCollection s n) ↔ OneSource s := by
  constructor
  · rintro ⟨n, r, hr, hsucceeds, hlist, -⟩
    exact ⟨n, h.added_eq (fences_ne_nil hsucceeds) hlist, r, hr, hsucceeds⟩
  · intro hone
    have hsource := hone
    obtain ⟨n, hadded, r, hr, hsucceeds⟩ := hsource
    have hlist : s.geofenceStrapiAPIList = r.fences.map fun m => (n, m) := by
      rw [h.list, hadded, List.flatMap_singleton, fencesAt_of_getElem? hr]
    have hfeatures : s.features = r.fences.map fun m => (n, featureOf m) := by
      rw [h.features, hlist, List.map_map]
      rfl
    refine ⟨n, r, hr, hsucceeds, hlist, hfeatures, ?_, h.collection hone⟩
    rw [hlist, hfeatures, List.length_map, List.length_map]

/-- An earlier reply is what it was. -/
theorem success_append {n : Nat} {r : Reply} (hreplies : t.replies = s.replies ++ [r])
    (hn : n < s.replies.length) : t.Success n ↔ s.Success n := by
  rw [State.Success, State.Success, hreplies, List.getElem?_append_left hn]

theorem success_length {r : Reply} (hreplies : t.replies = s.replies ++ [r]) :
    t.Success s.replies.length ↔ r.succeeds = true := by
  simp [State.Success, hreplies]

/-- There was a success if there was one before or the last reply is one. -/
theorem exists_success_append {r : Reply} (hreplies : t.replies = s.replies ++ [r]) :
    (∃ n, t.Success n) ↔ (∃ n, s.Success n) ∨ r.succeeds = true := by
  simp only [State.Success, hreplies]
  constructor
  · rintro ⟨n, q, hq, hsucceeds⟩
    rcases List.mem_append.mp (List.mem_of_getElem? hq) with hmem | hmem
    · obtain ⟨k, hk⟩ := List.mem_iff_getElem?.mp hmem
      exact Or.inl ⟨k, q, hk, hsucceeds⟩
    · rw [List.mem_singleton.mp hmem] at hsucceeds
      exact Or.inr hsucceeds
  · rintro (⟨n, q, hq, hsucceeds⟩ | hsucceeds)
    · refine ⟨n, q, ?_, hsucceeds⟩
      rw [List.getElem?_append_left (List.getElem?_eq_some_iff.mp hq).1, hq]
    · exact ⟨s.replies.length, r, by simp, hsucceeds⟩

/-- After a reply the fences have one source if they had and it brings none, or if it is a success
and the first to bring any. -/
theorem Inv.oneSource_reply_iff (h : Inv buildFeatureCollection s) {r : Reply}
    (hreplies : t.replies = s.replies ++ [r])
    (hadded : t.added = if r.fences = [] then s.added else s.added ++ [s.replies.length]) :
    OneSource t ↔
      if r.fences = [] then OneSource s else s.added = [] ∧ r.succeeds = true := by
  by_cases hnil : r.fences = []
  · rw [if_pos hnil] at hadded
    rw [if_pos hnil]
    have agree : ∀ n, (t.added = [n] ∧ t.Success n) ↔ (s.added = [n] ∧ s.Success n) := by
      intro n
      rw [hadded]
      refine and_congr_right fun hn => ?_
      apply success_append hreplies
      exact (h.known n (by rw [hn]; exact List.mem_singleton.mpr rfl)).1
    exact exists_congr agree
  · rw [if_neg hnil] at hadded
    rw [if_neg hnil]
    constructor
    · rintro ⟨n, hn, hsuccess⟩
      rw [hadded] at hn
      obtain ⟨hempty, rfl⟩ : s.added = [] ∧ s.replies.length = n := by
        cases hs : s.added with
        | nil =>
          rw [hs] at hn
          exact ⟨rfl, (List.cons.inj hn).1⟩
        | cons a rest =>
          rw [hs] at hn
          exact absurd (List.cons.inj hn).2 (by simp)
      exact ⟨hempty, (success_length hreplies).mp hsuccess⟩
    · rintro ⟨hempty, hsucceeds⟩
      refine ⟨s.replies.length, ?_, (success_length hreplies).mpr hsucceeds⟩
      rw [hadded, hempty]
      rfl

/-- What the replies before the last one have added is still the first part of the list. -/
theorem Inv.flatMap_append (h : Inv buildFeatureCollection s) (r : Reply) :
    (s.added.flatMap fun n => (fencesAt (s.replies ++ [r]) n).map fun m => (n, m)) =
      s.geofenceStrapiAPIList := by
  rw [h.list]
  refine List.flatMap_congr fun n hn => ?_
  rw [fencesAt_append (h.known n hn).1]

theorem Inv.reply (h : Inv buildFeatureCollection s) {r : Reply}
    (hstep : step buildFeatureCollection s (.reply r) = some t) : Inv buildFeatureCollection t := by
  obtain ⟨-, hreplies, hadded, hlist, hfeatures, hjson⟩ := step_reply hstep
  have hsource := h.oneSource_reply_iff hreplies hadded
  have hold : ∀ n ∈ s.added, n < t.replies.length ∧ fencesAt t.replies n ≠ [] := by
    intro n hn
    obtain ⟨hlt, hne⟩ := h.known n hn
    rw [hreplies, fencesAt_append hlt, List.length_append]
    exact ⟨Nat.lt_add_right 1 hlt, hne⟩
  have hfeatures' : t.features = t.geofenceStrapiAPIList.map fun x => (x.1, featureOf x.2) := by
    rw [hfeatures, hlist, List.map_append, List.map_map, h.features]
    rfl
  by_cases hnil : r.fences = []
  · rw [if_pos hnil] at hadded hsource
    have hfails : r.succeeds = false := by
      cases hsucceeds : r.succeeds with
      | false => rfl
      | true => exact absurd hnil (fences_ne_nil hsucceeds)
    rw [hnil, List.map_nil, List.append_nil] at hlist hfeatures
    rw [hfails] at hjson
    refine ⟨?_, ?_, ?_, hfeatures', fun hone => ?_⟩
    · rw [hadded]
      exact hold
    · rw [hadded]
      exact h.distinct
    · rw [hlist, hadded, hreplies]
      exact (h.flatMap_append r).symm
    · rw [hjson, hfeatures]
      exact h.collection (hsource.mp hone)
  · rw [if_neg hnil] at hadded hsource
    refine ⟨?_, ?_, ?_, hfeatures', fun hone => ?_⟩
    · intro n hn
      rw [hadded] at hn
      rcases List.mem_append.mp hn with hn | hn
      · exact hold n hn
      · rw [List.mem_singleton.mp hn, hreplies, fencesAt_length, List.length_append]
        exact ⟨Nat.lt_succ_self _, hnil⟩
    · rw [hadded]
      refine List.nodup_append.mpr ⟨h.distinct, by simp, fun n hn k hk => ?_⟩
      rw [List.mem_singleton.mp hk]
      exact Nat.ne_of_lt (h.known n hn).1
    · rw [hlist, hadded, hreplies, List.flatMap_append, List.flatMap_singleton, fencesAt_length,
        h.flatMap_append r]
    · rw [hjson, (hsource.mp hone).2]
      rfl

theorem step_inv {e : Event} (h : Inv buildFeatureCollection s)
    (hstep : step buildFeatureCollection s e = some t) : Inv buildFeatureCollection t := by
  cases e with
  | getGeofencingAreaByOrganizationId =>
    cases hstep
    refine ⟨fun n hn => ?_, List.nodup_nil, rfl, rfl, fun hone => ?_⟩
    · cases hn
    · obtain ⟨n, hn, -⟩ := hone
      cases hn
  | reply r => exact h.reply hstep

theorem step_oneResponse_iff {e : Event} (h : Inv buildFeatureCollection s)
    (hstep : step buildFeatureCollection s e = some t) :
    OneResponse buildFeatureCollection t ↔ SingleSource s e := by
  have hinv := step_inv h hstep
  cases e with
  | getGeofencingAreaByOrganizationId =>
    cases hstep
    refine ⟨fun _ => trivial, fun _ hflight => ?_⟩
    cases hflight
  | reply r =>
    obtain ⟨hflight, hreplies, hadded, -⟩ := step_reply hstep
    have hquiet : t.inFlight = 0 ↔ s.inFlight = 1 := by omega
    rw [OneResponse, SingleSource, hquiet, exists_success_append hreplies, hinv.holdsReply_iff,
      h.oneSource_reply_iff hreplies hadded]

end Step

/-- In every quiet state after a success the lists are those of one reply exactly if, whenever the
last reply arrives, one reply alone has brought the fences. -/
theorem oneResponse_iff {Json : Type} (buildFeatureCollection : List Feature → Json)
    (es : List Event) :
    EveryState (step buildFeatureCollection) (OneResponse buildFeatureCollection) {} es ↔
      EveryStep (step buildFeatureCollection) SingleSource {} es := by
  have hinv : Inv buildFeatureCollection ({} : State Json) := by
    refine ⟨fun n hn => ?_, List.nodup_nil, rfl, rfl, fun hone => ?_⟩
    · cases hn
    · obtain ⟨n, hn, -⟩ := hone
      cases hn
  have hstart : OneResponse buildFeatureCollection ({} : State Json) := by
    rintro - ⟨n, r, hr, -⟩
    cases hr
  exact everyState_iff_everyStep_of_inv (fun _ _ _ _ h hstep => step_inv h hstep)
    (fun _ _ _ _ h hstep => step_oneResponse_iff h hstep) hstart hinv es

def fence (id : Int) : FenceJson := ⟨some id, some ⟨some "asm", "null", some true⟩⟩

/-- The map and a clock button ask at the same time, and both get the one fence there is. -/
theorem two_calls_double_fence :
    ¬ ∀ es : List Event,
        EveryState (step (id : List Feature → List Feature)) (OneResponse id) {} es := by
  intro claim
  refine not_everyState_of_run
    (fun t => t.inFlight = 0 ∧ t.replies[0]? = some (.response [fence 1]) ∧
      t.geofenceStrapiAPIList.map Prod.fst = [0, 1]) ?_ ?_
    (claim [.getGeofencingAreaByOrganizationId, .getGeofencingAreaByOrganizationId,
      .reply (.response [fence 1]), .reply (.response [fence 1])])
  · intro t hbad h
    obtain ⟨hquiet, hfirst, hnumbers⟩ := of_decide_eq_true hbad
    obtain ⟨n, r, -, -, hlist, -⟩ := h hquiet ⟨0, _, hfirst, by decide⟩
    have same : ∀ k ∈ t.geofenceStrapiAPIList.map Prod.fst, k = n := by
      intro k hk
      rw [hlist, List.map_map] at hk
      obtain ⟨m, -, rfl⟩ := List.mem_map.mp hk
      rfl
    rw [hnumbers] at same
    have hzero := same 0 (by decide)
    have hone := same 1 (by decide)
    omega
  · decide

end FenceList
