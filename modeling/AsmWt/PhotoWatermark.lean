import AsmWt.Interleaving
import AsmWt.PendingCalls
import Mathlib.Data.Rat.Init

/-!
# The watermark of a photo

A capture asks for the position and, if there is one, for the area it lies in.
The area goes into a field of the widget, the position stays with the capture.
The text of the watermark is put together from both, and a capture without a
position finds the area of an earlier one in the field.
-/

namespace PhotoWatermark

open Interleaving PendingCalls

structure Position where
  latitude : Rat
  longitude : Rat
  deriving DecidableEq

structure LocationModel where
  id : Int
  nameEn : String
  nameTh : String
  abbreviation : String
  organization : String
  deriving DecidableEq

/-- An area as the server sends it. -/
structure AreaJson where
  id : Option Int
  name_en : Option String
  name_th : Option String
  abbreviation : Option String
  organization : Option String

/-- `LocationModel.fromJson`; `none` is the type error of a missing field. -/
def fromJson (json : AreaJson) : Option LocationModel := do
  let id ← json.id
  let nameEn ← json.name_en
  let nameTh ← json.name_th
  let abbreviation ← json.abbreviation
  let organization ← json.organization
  return { id, nameEn, nameTh, abbreviation, organization }

/-- `TaskManualProvider.getAreaName` on the status and the data of the response, or its failure. A
list without areas and an area that cannot be read are exceptions that are caught. -/
def getAreaName (response : Option (Nat × List AreaJson)) : Option LocationModel :=
  match response with
  | none => none
  | some (statusCode, data) => if statusCode = 200 then data.head?.bind fromJson else none

/-- A capture when the text of its watermark is put together: the position that was returned for it,
the area the server returned for that position, and what the field holds. -/
structure Capture where
  position : Option Position
  area : Option LocationModel
  locationdata : Option LocationModel
  deriving DecidableEq

/-- The name and the coordinates in the text. -/
structure Watermark where
  nameTh : Option String
  coordinates : Option Position
  deriving DecidableEq

def Capture.watermark (c : Capture) : Watermark :=
  ⟨c.locationdata.map LocationModel.nameTh, c.position⟩

/-- The calls a capture waits for: the camera, the position, the area, and at last the drawing of
the watermark and the compression of the image. -/
inductive Call where
  | pickImage (index : Nat)
  | getCurrentLocation (index : Nat) (image : Bool)
  | getAreaName (index : Nat) (image : Bool) (position : Position)
  | drawOnXFile (index : Nat) (capture : Capture)
  deriving DecidableEq

/-- A slot without a photo shows its button. -/
structure State where
  images : List (Option Capture)
  locationdata : Option LocationModel := none
  calls : List Call := []

inductive Reply where
  | image (picked : Bool)
  | position (position : Option Position)
  | response (response : Option (Nat × List AreaJson))
  | drawn
  | exception

inductive Event where
  | onAddImageClick (index : Nat)
  | onRemoveClick (index : Nat)
  | resume (call : Nat) (r : Reply)

def State.await (s : State) (c : Call) : State := { s with calls := c :: s.calls }

/-- From the text of the watermark on; without an image the capture ends. -/
def draw (s : State) (index : Nat) (image : Bool) (position : Option Position)
    (area : Option LocationModel) : State :=
  if image then s.await (.drawOnXFile index ⟨position, area, s.locationdata⟩) else s

def resume (s : State) : Call → Reply → Option State
  | .pickImage index, .image picked => some (s.await (.getCurrentLocation index picked))
  | .getCurrentLocation index image, .position none => some (draw s index image none none)
  | .getCurrentLocation index image, .position (some position) =>
    some (s.await (.getAreaName index image position))
  | .getAreaName index image position, .response response =>
    let area := PhotoWatermark.getAreaName response
    some (draw { s with locationdata := area } index image position area)
  | .drawOnXFile index capture, .drawn => some { s with images := s.images.set index capture }
  | .pickImage _, .exception | .getCurrentLocation _ _, .exception
  | .drawOnXFile _ _, .exception => some s
  | _, _ => none

def step (s : State) : Event → Option State
  | .onAddImageClick index =>
    if s.images[index]? = some none then some (s.await (.pickImage index)) else none
  | .onRemoveClick index => some { s with images := s.images.set index none }
  | .resume call r => do
    let (c, rest) ← takeOut s.calls call
    resume { s with calls := rest } c r

/-- The watermark has the coordinates of the capture, and the name of the area that was returned for
them, if any was. -/
def Truthful (c : Capture) : Prop :=
  c.watermark = ⟨c.area.map LocationModel.nameTh, c.position⟩

def AllTruthful (s : State) : Prop := ∀ c, some c ∈ s.images → Truthful c

/-- A photo that is stored was taken at a known position, or no area was remembered. -/
def NothingRemembered (s : State) : Event → Prop
  | .resume call .drawn =>
    ∀ index capture rest, takeOut s.calls call = some (.drawOnXFile index capture, rest) →
      index < s.images.length → capture.position = none → capture.locationdata = none
  | .onAddImageClick _ | .onRemoveClick _ | .resume _ _ => True

/-- A capture with a position has just stored its own area, one without a position has none. -/
def OwnArea (c : Capture) : Prop :=
  (c.position = none → c.area = none) ∧ (c.position ≠ none → c.locationdata = c.area)

def Inv (s : State) : Prop := ∀ index c, .drawOnXFile index c ∈ s.calls → OwnArea c

theorem truthful_iff {c : Capture} (own : OwnArea c) :
    Truthful c ↔ (c.position = none → c.locationdata = none) := by
  rw [Truthful, Capture.watermark, Watermark.mk.injEq]
  by_cases hp : c.position = none
  · rw [own.1 hp]
    simp [hp]
  · rw [own.2 hp]
    simp [hp]

section Step

variable {s t : State}

theorem Inv.await (h : Inv s) {c : Call} (hc : ∀ index d, c = .drawOnXFile index d → OwnArea d) :
    Inv (s.await c) := by
  intro index d hmem
  rcases List.mem_cons.mp hmem with hmem | hmem
  · exact hc index d hmem.symm
  · exact h index d hmem

theorem Inv.draw (h : Inv s) (index : Nat) (image : Bool) {position : Option Position}
    {area : Option LocationModel} (own : OwnArea ⟨position, area, s.locationdata⟩) :
    Inv (draw s index image position area) := by
  rw [PhotoWatermark.draw]
  split
  · refine h.await fun index d hd => ?_
    cases hd
    exact own
  · exact h

/-- Only a drawn photo changes a slot, and only a position makes the field change. -/
theorem resume_inv {c : Call} {r : Reply} (h : Inv s) (hr : resume s c r = some t) : Inv t := by
  cases c with
  | pickImage index =>
    cases r with
    | image picked =>
      cases hr
      exact h.await fun _ _ hd => by cases hd
    | exception =>
      cases hr
      exact h
    | _ => cases hr
  | getCurrentLocation index image =>
    cases r with
    | position position =>
      cases position with
      | none =>
        cases hr
        exact h.draw index image ⟨fun _ => rfl, fun hne => absurd rfl hne⟩
      | some position =>
        cases hr
        exact h.await fun _ _ hd => by cases hd
    | exception =>
      cases hr
      exact h
    | _ => cases hr
  | getAreaName index image position =>
    cases r with
    | response response =>
      cases hr
      have hset : Inv { s with locationdata := getAreaName response } := h
      refine hset.draw index image ⟨fun hnone => ?_, fun _ => rfl⟩
      cases hnone
    | _ => cases hr
  | drawOnXFile index capture =>
    cases r with
    | drawn =>
      cases hr
      exact h
    | exception =>
      cases hr
      exact h
    | _ => cases hr

theorem step_inv {e : Event} (h : Inv s) (hstep : step s e = some t) : Inv t := by
  cases e with
  | onAddImageClick index =>
    simp only [step] at hstep
    split at hstep
    · cases hstep
      exact h.await fun _ _ hd => by cases hd
    · cases hstep
  | onRemoveClick index =>
    cases hstep
    exact h
  | resume call r =>
    obtain ⟨⟨c, rest⟩, ht, hstep⟩ := Option.bind_eq_some_iff.mp hstep
    have hrest : Inv { s with calls := rest } :=
      fun index d hmem => h index d (mem_of_mem_rest ht hmem)
    exact resume_inv hrest hstep

theorem AllTruthful.congr (h : AllTruthful s) (images : t.images = s.images) : AllTruthful t := by
  intro c hc
  rw [images] at hc
  exact h c hc

/-- Changing a slot adds at most the photo that is put there. -/
theorem AllTruthful.set (h : AllTruthful s) (index : Nat) {photo : Option Capture}
    (hphoto : ∀ c, photo = some c → Truthful c) :
    AllTruthful { s with images := s.images.set index photo } := by
  intro c hc
  rcases List.mem_or_eq_of_mem_set hc with hc | hc
  · exact h c hc
  · exact hphoto c hc.symm

@[simp] theorem images_draw (index : Nat) (image : Bool) (position : Option Position)
    (area : Option LocationModel) : (draw s index image position area).images = s.images := by
  cases image <;> rfl

/-- Only a drawn photo changes a slot. -/
theorem images_resume {c : Call} {r : Reply} (hr : resume s c r = some t)
    (hdrawn : r ≠ .drawn) : t.images = s.images := by
  cases c with
  | pickImage index => cases r <;> cases hr <;> rfl
  | getCurrentLocation index image =>
    cases r with
    | position position =>
      cases position with
      | none =>
        cases hr
        exact images_draw index image none none
      | some position =>
        cases hr
        rfl
    | exception =>
      cases hr
      rfl
    | _ => cases hr
  | getAreaName index image position =>
    cases r with
    | response response =>
      cases hr
      exact images_draw index image _ _
    | _ => cases hr
  | drawOnXFile index capture =>
    cases r with
    | drawn => exact absurd rfl hdrawn
    | exception =>
      cases hr
      rfl
    | _ => cases hr

/-- The photos stay truthful exactly if the one that is stored is. -/
theorem allTruthful_set_iff (h : AllTruthful s) {index : Nat} {c : Capture} :
    AllTruthful { s with images := s.images.set index (some c) } ↔
      (index < s.images.length → Truthful c) := by
  constructor
  · intro hall hindex
    exact hall c (List.mem_set hindex _)
  · intro hc
    by_cases hindex : index < s.images.length
    · apply h.set
      rintro d hd
      cases hd
      exact hc hindex
    · apply h.congr
      exact List.set_eq_of_length_le (Nat.le_of_not_lt hindex)

theorem step_allTruthful_iff {e : Event} (h : AllTruthful s) (inv : Inv s)
    (hstep : step s e = some t) : AllTruthful t ↔ NothingRemembered s e := by
  cases e with
  | onAddImageClick index =>
    simp only [step] at hstep
    split at hstep
    · cases hstep
      exact iff_of_true h trivial
    · cases hstep
  | onRemoveClick index =>
    cases hstep
    refine ⟨fun _ => trivial, fun _ => h.set index fun c hc => ?_⟩
    cases hc
  | resume call r =>
    obtain ⟨⟨c, rest⟩, ht, hstep⟩ := Option.bind_eq_some_iff.mp hstep
    have hrest : AllTruthful { s with calls := rest } := h
    cases r with
    | drawn =>
      cases c with
      | drawOnXFile index capture =>
        cases hstep
        have own := inv index capture (mem_takeOut ht)
        rw [allTruthful_set_iff hrest, truthful_iff own]
        constructor
        · intro hc i d others hd hi
          cases ht.symm.trans hd
          exact hc hi
        · intro hall hi
          exact hall index capture rest ht hi
      | _ => cases hstep
    | _ => exact iff_of_true (hrest.congr (images_resume hstep (by simp))) trivial

end Step

/-- The photos of a run are truthful in every state exactly if no photo without a position is stored
that was drawn with an area in the field. -/
theorem allTruthful_iff (imageCount : Nat) (es : List Event) :
    EveryState step AllTruthful { images := List.replicate imageCount none } es ↔
      EveryStep step NothingRemembered { images := List.replicate imageCount none } es := by
  have hall : AllTruthful { images := List.replicate imageCount none } := by
    intro c hc
    cases (List.mem_replicate.mp hc).2
  have hinv : Inv { images := List.replicate imageCount none } := by
    intro index c hc
    cases hc
  exact everyState_iff_everyStep_of_inv (fun _ _ _ _ h hstep => step_inv h hstep)
    (fun _ _ _ h inv hstep => step_allTruthful_iff h inv hstep) hall hinv es

/-- The first photo is taken at the terminal, the second where the device has no position. -/
theorem photo_without_position_has_area :
    ¬ ∀ (imageCount : Nat) (es : List Event),
        EveryState step AllTruthful { images := List.replicate imageCount none } es := by
  intro claim
  let terminal : AreaJson := ⟨some 1, some "Terminal", some "T", some "asm", some "asm"⟩
  refine not_everyState_of_run
    (fun t => t.images[1]? = some (some ⟨none, none, some ⟨1, "Terminal", "T", "asm", "asm"⟩⟩))
    ?_ ?_
    (claim 2 [.onAddImageClick 0, .resume 0 (.image true), .resume 0 (.position (some ⟨13, 100⟩)),
      .resume 0 (.response (some (200, [terminal]))), .resume 0 .drawn,
      .onAddImageClick 1, .resume 0 (.image true), .resume 0 (.position none), .resume 0 .drawn])
  · intro t hbad hall
    have hphoto := hall _ (List.mem_of_getElem? (of_decide_eq_true hbad))
    exact absurd hphoto (by rw [Truthful]; decide)
  · decide

end PhotoWatermark
