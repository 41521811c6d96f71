import AsmWt.FenceList
import AsmWt.ListIterator
import AsmWt.PendingCalls

/-!
# The geofences on the map

The map of a clock sheet takes the collection of the service for its source and
draws a layer for each fence of its list that is checked, waiting for each. The
list is that of the service, so another call may replace it and another reply
append to it while the loop waits. Each call goes to the map that is there when
it is made.
-/

namespace FenceLayers

open Interleaving PendingCalls ListIterator
open FenceList (Model Feature Reply fencesAt featureOf)

/-- A fence with the number of its reply. -/
abbrev Fence := Nat × Model

/-- `data.attributes?.isChecked ?? false`. -/
def isChecked (fence : Fence) : Bool := fence.2.attributes.isChecked.getD false

/-- A collection is known by its features. -/
abbrev FeatureCollection := List Feature

abbrev Service := FenceList.State FeatureCollection

/-- The loop while it waits for the layer of `fence`. `list` is its list once the service has
another; beside them, the list the loop began with and the fences it has drawn. -/
structure Drawing where
  it : Iterator
  list : Option (List Fence)
  fence : Fence
  start : List Fence
  drawn : List Fence

/-- Where an `_onStyleLoadedCallback` waits, and the map its call was made on. -/
inductive Callback where
  | getGeofencingAreaByOrganizationId
  | addSource (map : Option Nat) (data : Option FeatureCollection)
  | addFillLayer (map : Option Nat) (d : Drawing)

/-- The source and the layers of a map, a layer being known by the id in its filter. -/
structure MapState where
  source : Option FeatureCollection := none
  layers : List (Option Int) := []

/-- The features a layer lets through. -/
def MapState.shown (m : MapState) : List Feature :=
  (m.source.getD []).filter fun f => f.id ∈ m.layers

/-- `buttons` are the calls of the service that the clock buttons wait for, and `mapController` is
the number of a map. `finished` has the list and the drawn fences of each loop that came to its
end. -/
structure State where
  service : Service := {}
  buttons : Nat := 0
  callbacks : List Callback := []
  maps : List MapState := []
  mapController : Option Nat := none
  finished : List (List Fence × List Fence) := []

/-- A reply is one to a clock button or to a callback; the call of a callback may throw instead of
returning. The plugin may refuse a source or a layer. -/
inductive Event where
  | onClockPressed
  | onMapCreated
  | onStyleLoadedCallback
  | reply (r : Reply) (callback : Option Nat) (returns : Bool)
  | pluginReply (callback : Nat) (ok : Bool)

def stepService (service : Service) : FenceList.Event → Option Service := FenceList.step id service

/-- A loop keeps the list it goes through. -/
def Callback.keepList (list : List Fence) : Callback → Callback
  | .addFillLayer map d => .addFillLayer map { d with list := some (d.list.getD list) }
  | .getGeofencingAreaByOrganizationId => .getGeofencingAreaByOrganizationId
  | .addSource map data => .addSource map data

/-- The service makes a new list before its request. -/
def call (s : State) : Option State := do
  let service ← stepService s.service .getGeofencingAreaByOrganizationId
  return { s with
    service
    callbacks := s.callbacks.map (Callback.keepList s.service.geofenceStrapiAPIList) }

/-- A call on a map; without a controller there is nothing to call. -/
def onMap (s : State) (map : Option Nat) (f : MapState → MapState) : State :=
  { s with
    maps := match map with
      | none => s.maps
      | some i => s.maps.modify i f }

/-- The loop up to its next layer; an exception is the end of the callback. -/
def goOn (s : State) (it : Iterator) (list : Option (List Fence)) (start drawn : List Fence) :
    State :=
  match it.moveTo isChecked (list.getD s.service.geofenceStrapiAPIList) with
  | .exception => s
  | .done => { s with finished := (start, drawn) :: s.finished }
  | .found fence it =>
    { s with callbacks :=
        .addFillLayer s.mapController ⟨it, list, fence, start, drawn⟩ :: s.callbacks }

def step (s : State) : Event → Option State
  | .onClockPressed => (call s).map fun s => { s with buttons := s.buttons + 1 }
  | .onMapCreated =>
    some { s with maps := s.maps ++ [{}], mapController := some s.maps.length }
  | .onStyleLoadedCallback =>
    (call s).map fun s =>
      { s with callbacks := .getGeofencingAreaByOrganizationId :: s.callbacks }
  | .reply r none _ =>
    if s.buttons = 0 then none
    else do
      let service ← stepService s.service (.reply r)
      return { s with service, buttons := s.buttons - 1 }
  | .reply r (some callback) returns => do
    let (c, callbacks) ← takeOut s.callbacks callback
    let service ← stepService s.service (.reply r)
    match c with
    | .getGeofencingAreaByOrganizationId =>
      return { s with
        service
        callbacks := if returns then .addSource s.mapController service.geoJsonData :: callbacks
          else callbacks }
    | .addSource _ _ | .addFillLayer _ _ => none
  | .pluginReply callback ok => do
    let (c, callbacks) ← takeOut s.callbacks callback
    match c, ok with
    | .getGeofencingAreaByOrganizationId, _ => none
    | .addSource map data, true =>
      let list := s.service.geofenceStrapiAPIList
      return goOn (onMap { s with callbacks } map fun m => { m with source := data })
        ⟨list.length, 0⟩ none list []
    | .addFillLayer map d, true =>
      return goOn (onMap { s with callbacks } map fun m =>
        { m with layers := m.layers ++ [d.fence.2.id] }) d.it d.list d.start (d.drawn ++ [d.fence])
    | .addSource _ _, false | .addFillLayer _ _, false => return { s with callbacks }

/-- The fence was in a reply. -/
def Sent (replies : List Reply) (m : Model) : Prop := ∃ n, m ∈ fencesAt replies n

/-- A polygon on a map is that of a fence that was sent, and a fence with its id was sent as
checked; a loop that came to its end has drawn the checked fences of its list, in order. -/
structure Drawn (s : State) : Prop where
  polygons : ∀ map ∈ s.maps, ∀ f ∈ map.shown, ∃ m, Sent s.service.replies m ∧ featureOf m = f
  checked : ∀ map ∈ s.maps, ∀ f ∈ map.shown, ∃ fence : Fence, Sent s.service.replies fence.2 ∧
    isChecked fence = true ∧ fence.2.id = f.id
  finished : ∀ l ∈ s.finished, l.2 = l.1.filter isChecked

section Sent

variable {replies : List Reply} {m : Model}

theorem Sent.append (h : Sent replies m) (r : Reply) : Sent (replies ++ [r]) m := by
  obtain ⟨n, hn⟩ := h
  by_cases hlt : n < replies.length
  · exact ⟨n, by rw [FenceList.fencesAt_append hlt]; exact hn⟩
  · rw [fencesAt, List.getElem?_eq_none (Nat.le_of_not_lt hlt)] at hn
    cases hn

theorem sent_last {r : Reply} (h : m ∈ r.fences) : Sent (replies ++ [r]) m :=
  ⟨replies.length, by rw [FenceList.fencesAt_length]; exact h⟩

end Sent

section Service

variable {service service' : Service}

/-- A feature of a fence that was sent. -/
def FeatureSent (replies : List Reply) (f : Feature) : Prop := ∃ m, Sent replies m ∧ featureOf m = f

theorem FeatureSent.append {replies : List Reply} {f : Feature} (h : FeatureSent replies f)
    (r : Reply) : FeatureSent (replies ++ [r]) f := by
  obtain ⟨m, hm, hf⟩ := h
  exact ⟨m, hm.append r, hf⟩

/-- The lists and the collection of the service hold what was sent. -/
structure ServiceSent (service : Service) : Prop where
  list : ∀ fence ∈ service.geofenceStrapiAPIList, Sent service.replies fence.2
  features : ∀ e ∈ service.features, FeatureSent service.replies e.2
  collection : ∀ c, service.geoJsonData = some c → ∀ f ∈ c, FeatureSent service.replies f

theorem ServiceSent.call (h : ServiceSent service)
    (hstep : stepService service .getGeofencingAreaByOrganizationId = some service') :
    service'.replies = service.replies ∧ ServiceSent service' := by
  cases hstep
  exact ⟨rfl, (fun _ hf => nomatch hf), (fun _ he => nomatch he), h.collection⟩

theorem ServiceSent.reply (h : ServiceSent service) {r : Reply}
    (hstep : stepService service (.reply r) = some service') :
    service'.replies = service.replies ++ [r] ∧
      service.geofenceStrapiAPIList <+: service'.geofenceStrapiAPIList ∧ ServiceSent service' := by
  obtain ⟨-, hreplies, -, hlist, hfeatures, hdata⟩ := FenceList.step_reply hstep
  have features : ∀ e ∈ service'.features, FeatureSent service'.replies e.2 := by
    intro e he
    rw [hfeatures] at he
    rw [hreplies]
    rcases List.mem_append.mp he with he | he
    · exact (h.features e he).append r
    · obtain ⟨m, hm, rfl⟩ := List.mem_map.mp he
      exact ⟨m, sent_last hm, rfl⟩
  refine ⟨hreplies, hlist ▸ List.prefix_append _ _, fun fence hfence => ?_, features,
    fun c hc f hf => ?_⟩
  · rw [hlist] at hfence
    rw [hreplies]
    rcases List.mem_append.mp hfence with hfence | hfence
    · exact (h.list fence hfence).append r
    · obtain ⟨m, hm, rfl⟩ := List.mem_map.mp hfence
      exact sent_last hm
  · rw [hdata] at hc
    split at hc
    · cases hc
      obtain ⟨e, he, rfl⟩ := List.mem_map.mp hf
      exact features e he
    · rw [hreplies]
      exact (h.collection c hc f hf).append r

end Service

section Run

variable {s t : State}

/-- A callback draws what was sent, from a list that was at most appended to. -/
def Callback.Sound (service : Service) : Callback → Prop
  | .getGeofencingAreaByOrganizationId => True
  | .addSource _ data => ∀ c, data = some c → ∀ f ∈ c, FeatureSent service.replies f
  | .addFillLayer _ d =>
    Seen isChecked d.start d.it (d.drawn ++ [d.fence]) ∧
      d.start <+: d.list.getD service.geofenceStrapiAPIList ∧
        ∀ fence ∈ d.start, Sent service.replies fence.2

/-- What a map holds was sent. -/
structure MapState.Sound (replies : List Reply) (m : MapState) : Prop where
  source : ∀ c, m.source = some c → ∀ f ∈ c, FeatureSent replies f
  layers : ∀ id ∈ m.layers, ∃ fence : Fence, Sent replies fence.2 ∧
    isChecked fence = true ∧ fence.2.id = id

structure Inv (s : State) : Prop where
  service : ServiceSent s.service
  callbacks : ∀ c ∈ s.callbacks, c.Sound s.service
  maps : ∀ m ∈ s.maps, m.Sound s.service.replies
  finished : ∀ l ∈ s.finished, l.2 = l.1.filter isChecked

theorem MapState.Sound.append {replies : List Reply} {m : MapState} (h : m.Sound replies)
    (r : Reply) : m.Sound (replies ++ [r]) where
  source c hc f hf := (h.source c hc f hf).append r
  layers id hid := by
    obtain ⟨fence, hfence, hchecked⟩ := h.layers id hid
    exact ⟨fence, hfence.append r, hchecked⟩

theorem Inv.drawn (h : Inv s) : Drawn s where
  polygons map hmap f hf := by
    obtain ⟨hmem, -⟩ := List.mem_filter.mp hf
    cases hs : map.source with
    | none =>
      rw [hs] at hmem
      cases hmem
    | some c =>
      rw [hs] at hmem
      exact (h.maps map hmap).source c hs f hmem
  checked map hmap f hf :=
    (h.maps map hmap).layers f.id (of_decide_eq_true (List.mem_filter.mp hf).2)
  finished := h.finished

/-- A reply changes nothing for a callback but the list it goes through. -/
theorem Callback.Sound.reply {service service' : Service} {c : Callback} {r : Reply}
    (h : c.Sound service) (replies : service'.replies = service.replies ++ [r])
    (grown : service.geofenceStrapiAPIList <+: service'.geofenceStrapiAPIList) :
    c.Sound service' := by
  cases c with
  | getGeofencingAreaByOrganizationId => trivial
  | addSource map data =>
    intro c hc f hf
    rw [replies]
    exact (h c hc f hf).append r
  | addFillLayer map d =>
    obtain ⟨seen, list, sent⟩ := h
    refine ⟨seen, ?_, fun fence hfence => ?_⟩
    · cases hlist : d.list with
      | none =>
        rw [hlist] at list
        exact list.trans grown
      | some own =>
        rw [hlist] at list
        exact list
    · rw [replies]
      exact (sent fence hfence).append r

/-- When the service gets a new list, a loop keeps the one it has. -/
theorem Callback.Sound.keepList {service service' : Service} {c : Callback}
    (h : c.Sound service) (replies : service'.replies = service.replies) :
    (c.keepList service.geofenceStrapiAPIList).Sound service' := by
  cases c with
  | getGeofencingAreaByOrganizationId => trivial
  | addSource map data =>
    intro c hc f hf
    rw [replies]
    exact h c hc f hf
  | addFillLayer map d =>
    obtain ⟨seen, list, sent⟩ := h
    exact ⟨seen, list, fun fence hfence => replies ▸ sent fence hfence⟩

theorem Inv.call (h : Inv s) (hcall : call s = some t) : Inv t := by
  rw [FenceLayers.call] at hcall
  obtain ⟨service, hservice, hcall⟩ := Option.bind_eq_some_iff.mp hcall
  cases hcall
  obtain ⟨replies, hsent⟩ := h.service.call hservice
  refine ⟨hsent, fun c hc => ?_, ?_, h.finished⟩
  · obtain ⟨before, hbefore, rfl⟩ := List.mem_map.mp hc
    exact (h.callbacks before hbefore).keepList replies
  · rw [replies]
    exact h.maps

theorem Inv.reply (h : Inv s) {r : Reply} {service : Service}
    (hservice : stepService s.service (.reply r) = some service) : Inv { s with service } := by
  obtain ⟨replies, grown, hsent⟩ := h.service.reply hservice
  refine ⟨hsent, fun c hc => (h.callbacks c hc).reply replies grown, fun m hm => ?_, h.finished⟩
  rw [replies]
  exact (h.maps m hm).append r

/-- A call on a map that leaves it with what was sent. -/
theorem Inv.onMap (h : Inv s) {f : MapState → MapState}
    (hf : ∀ m ∈ s.maps, (f m).Sound s.service.replies) (map : Option Nat) :
    Inv (onMap s map f) := by
  refine { h with maps := fun m hm => ?_ }
  cases map with
  | none => exact h.maps m hm
  | some i =>
    change m ∈ s.maps.modify i f at hm
    obtain ⟨j, hj, rfl⟩ := List.mem_iff_getElem.mp hm
    rw [List.getElem_modify]
    split
    · exact hf _ (List.getElem_mem _)
    · exact h.maps _ (List.getElem_mem _)

theorem Inv.goOn (h : Inv s) {it : Iterator} {list : Option (List Fence)}
    {start drawn : List Fence} (seen : Seen isChecked start it drawn)
    (grown : start <+: list.getD s.service.geofenceStrapiAPIList)
    (sent : ∀ fence ∈ start, Sent s.service.replies fence.2) :
    Inv (goOn s it list start drawn) := by
  rw [FenceLayers.goOn]
  split
  · exact h
  · case _ hdone =>
    refine { h with finished := fun l hl => ?_ }
    rcases List.mem_cons.mp hl with rfl | hl
    · exact seen.of_done grown hdone
    · exact h.finished l hl
  · case _ fence next hfound =>
    refine { h with callbacks := fun c hc => ?_ }
    rcases List.mem_cons.mp hc with rfl | hc
    · exact ⟨seen.of_found grown hfound, grown, sent⟩
    · exact h.callbacks c hc

theorem Inv.answered (h : Inv s) {i : Nat} {c : Callback} {rest : List Callback}
    (htake : takeOut s.callbacks i = some (c, rest)) : Inv { s with callbacks := rest } :=
  { h with callbacks := fun c' hc' => h.callbacks c' (mem_of_mem_rest htake hc') }

theorem reply_inv (h : Inv s) {r : Reply} {i : Nat} {returns : Bool}
    (hstep : step s (.reply r (some i) returns) = some t) : Inv t := by
  obtain ⟨⟨c, rest⟩, htake, hstep⟩ := Option.bind_eq_some_iff.mp hstep
  obtain ⟨service, hservice, hstep⟩ := Option.bind_eq_some_iff.mp hstep
  have after : Inv { s with service, callbacks := rest } := (h.answered htake).reply hservice
  cases c with
  | getGeofencingAreaByOrganizationId =>
    cases hstep
    cases returns with
    | false => exact after
    | true =>
      refine { after with callbacks := fun c hc => ?_ }
      rcases List.mem_cons.mp hc with rfl | hc
      · exact after.service.collection
      · exact after.callbacks c hc
  | _ => cases hstep

theorem pluginReply_inv (h : Inv s) {i : Nat} {ok : Bool}
    (hstep : step s (.pluginReply i ok) = some t) : Inv t := by
  obtain ⟨⟨c, rest⟩, htake, hstep⟩ := Option.bind_eq_some_iff.mp hstep
  have after := h.answered htake
  have sound := h.callbacks c (mem_takeOut htake)
  cases c with
  | getGeofencingAreaByOrganizationId => cases ok <;> cases hstep
  | addSource map data =>
    cases ok with
    | false =>
      cases hstep
      exact after
    | true =>
      cases hstep
      have sourced := after.onMap (f := fun m => { m with source := data })
        (fun m hm => ⟨sound, (h.maps m hm).layers⟩) map
      exact sourced.goOn (seen_start isChecked _) List.prefix_rfl h.service.list
  | addFillLayer map d =>
    obtain ⟨seen, grown, sent⟩ := sound
    cases ok with
    | false =>
      cases hstep
      exact after
    | true =>
      cases hstep
      obtain ⟨hmem, hchecked⟩ := seen.mem (List.mem_append_right _ List.mem_cons_self)
      have layered := after.onMap (f := fun m => { m with layers := m.layers ++ [d.fence.2.id] })
        (fun m hm => by
          refine ⟨(h.maps m hm).source, fun id hid => ?_⟩
          rcases List.mem_append.mp hid with hid | hid
          · exact (h.maps m hm).layers id hid
          · exact ⟨d.fence, sent d.fence hmem, hchecked, (List.mem_singleton.mp hid).symm⟩) map
      exact layered.goOn seen grown sent

theorem step_inv {e : Event} (h : Inv s) (hstep : step s e = some t) : Inv t := by
  cases e with
  | onClockPressed =>
    rw [step] at hstep
    obtain ⟨u, hcall, rfl⟩ := Option.map_eq_some_iff.mp hstep
    have after := h.call hcall
    exact { after with }
  | onMapCreated =>
    cases hstep
    refine { h with maps := fun m hm => ?_ }
    rcases List.mem_append.mp hm with hm | hm
    · exact h.maps m hm
    · cases List.mem_singleton.mp hm
      exact ⟨(fun _ hc => nomatch hc), fun _ hid => nomatch hid⟩
  | onStyleLoadedCallback =>
    rw [step] at hstep
    obtain ⟨u, hcall, rfl⟩ := Option.map_eq_some_iff.mp hstep
    have after := h.call hcall
    refine { after with callbacks := fun c hc => ?_ }
    rcases List.mem_cons.mp hc with rfl | hc
    · trivial
    · exact after.callbacks c hc
  | reply r callback returns =>
    cases callback with
    | none =>
      obtain ⟨-, hstep⟩ := Option.ite_none_left_eq_some.mp hstep
      obtain ⟨service, hservice, hstep⟩ := Option.bind_eq_some_iff.mp hstep
      cases hstep
      have after := h.reply hservice
      exact { after with }
    | some callback => exact reply_inv h hstep
  | pluginReply callback ok => exact pluginReply_inv h hstep

end Run

/-- However calls of the buttons, maps, replies and layers interleave, a map shows polygons of
fences that were sent, under the id of one that was sent as checked; and a loop that is not ended by
an exception has drawn the checked fences of its list. -/
theorem layers_drawn (es : List Event) : EveryState step Drawn {} es := by
  have start : Inv {} :=
    { service := ⟨(fun _ hf => nomatch hf), (fun _ he => nomatch he), fun _ hc => nomatch hc⟩
      callbacks := fun _ hc => nomatch hc
      maps := fun _ hm => nomatch hm
      finished := fun _ hl => nomatch hl }
  have always : EveryState step Inv {} es :=
    everyState_of_inv (fun _ _ _ h hstep => step_inv h hstep) start es
  exact always.mono fun _ h => h.drawn

end FenceLayers
