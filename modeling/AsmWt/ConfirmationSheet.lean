import AsmWt.PhotoWatermark

/-!
# What a confirmed sheet hands over

The sheet of a manual clocking looks for the position once, when it opens, and
keeps the photos that its slots report. A confirmation asks for the area of the
position; with the answer it hands position, photos and area to the page, which
uploads the photos one by one. While an answer is awaited the sheet may be
confirmed again, and photos may be taken and removed.
-/

namespace ConfirmationSheet

open Interleaving PendingCalls
open PhotoWatermark (Position Capture LocationModel AreaJson getAreaName)

inductive LocationPermission where
  | denied
  | deniedForever
  | whileInUse
  | always
  | unableToDetermine
  deriving DecidableEq

/-- Where `_fetchUserLocation` waits; `initState` calls it once. -/
inductive Fetch where
  | isLocationServiceEnabled
  | checkPermission
  | requestPermission
  | getCurrentPosition
  | done
  deriving DecidableEq

inductive FetchReply where
  | enabled (serviceEnabled : Bool)
  | permission (permission : LocationPermission)
  | position (position : Position)
  | exception

/-- A confirmation that waits for its area, with the number of photos removed before it. -/
structure Asked where
  position : Position
  removals : Nat

/-- The arguments of a call of `onConfirm`. Beside them, the position the area was asked for, the
answer, the slots at that moment, and whether a photo was removed after the confirmation. -/
structure Confirmed where
  position : Option Position
  images : List Capture
  locationdata : Option LocationModel
  asked : Position
  response : Option (Nat × List AreaJson)
  slots : List (Option Capture)
  removed : Bool

/-- The loop of `onConfirm`; `imagesList` has each id with the photo it was given for. -/
structure Loop where
  confirmed : Confirmed
  left : List Capture
  imagesList : List (Capture × String) := []

/-- The arguments of `_saveClockInTime` and `_clockOut`. -/
structure Save where
  imagesList : List String
  position : Option Position
  locationdata : Option LocationModel

/-- `upload` is the `SingleImageUpload` of the sheet and `images` the list of the sheet itself; the
route of the sheet is `popped` some time before the sheet is `disposed`. `files` is the bucket. -/
structure State where
  upload : PhotoWatermark.State := { images := List.replicate 2 none }
  fetch : Fetch := .isLocationServiceEnabled
  currentPosition : Option Position := none
  images : List Capture := []
  popped : Bool := false
  disposed : Bool := false
  asked : List Asked := []
  loops : List Loop := []
  files : List (Capture × String) := []
  removals : Nat := 0
  confirmed : List Confirmed := []
  saves : List (Confirmed × Save) := []

inductive Event where
  | fetched (r : FetchReply)
  | upload (e : PhotoWatermark.Event)
  | onConfirmPressed
  | onCancelPressed
  | dispose
  | answered (confirmation : Nat) (response : Option (Nat × List AreaJson))
  | uploaded (loop : Nat) (fileId : Option String)

/-- `_fetchUserLocation` after an answer. -/
def fetched (s : State) : Fetch → FetchReply → Option State
  | .isLocationServiceEnabled, .enabled serviceEnabled =>
    some { s with fetch := if serviceEnabled then .checkPermission else .done }
  | .checkPermission, .permission permission =>
    some { s with
      fetch := if permission = .denied then .requestPermission else .getCurrentPosition }
  | .requestPermission, .permission permission =>
    some { s with
      fetch :=
        if permission = .deniedForever ∨ permission = .denied then .done else .getCurrentPosition }
  | .getCurrentPosition, .position position =>
    some { s with fetch := .done, currentPosition := some position }
  | .isLocationServiceEnabled, .exception | .checkPermission, .exception
  | .requestPermission, .exception | .getCurrentPosition, .exception =>
    some { s with fetch := .done }
  | _, _ => none

/-- `_updateImages`: the slots that have a photo. -/
def updateImages (upload : PhotoWatermark.State) : List Capture := upload.images.filterMap id

/-- The loop goes on with the next photo, or ends with the call that saves. -/
def proceed (s : State) (l : Loop) : State :=
  match l.left with
  | [] =>
    { s with
      saves := (l.confirmed, ⟨l.imagesList.map (·.2), l.confirmed.position,
        l.confirmed.locationdata⟩) :: s.saves }
  | _ :: _ => { s with loops := l :: s.loops }

/-- The sheet is popped and `onConfirm` is called; a second time, a route below is popped. -/
def confirm (s : State) (a : Asked) (response : Option (Nat × List AreaJson)) : State :=
  let c : Confirmed :=
    { position := s.currentPosition
      images := s.images
      locationdata := getAreaName response
      asked := a.position
      response
      slots := s.upload.images
      removed := a.removals < s.removals }
  proceed { s with popped := true, confirmed := c :: s.confirmed } ⟨c, c.images, []⟩

def step (s : State) : Event → Option State
  | .fetched r => fetched s s.fetch r
  | .upload e =>
    if s.disposed then none
    else do
      let upload ← PhotoWatermark.step s.upload e
      match e with
      | .onRemoveClick _ =>
        return { s with upload, images := updateImages upload, removals := s.removals + 1 }
      | .resume _ .drawn => return { s with upload, images := updateImages upload }
      | .onAddImageClick _ | .resume _ _ => return { s with upload }
  | .onConfirmPressed =>
    if s.popped then none
    else
      match s.currentPosition with
      | none => some s
      | some position =>
        if s.images.isEmpty then some s
        else some { s with asked := ⟨position, s.removals⟩ :: s.asked }
  | .onCancelPressed => if s.popped then none else some { s with popped := true }
  | .dispose => if s.popped then some { s with disposed := true } else none
  | .answered confirmation response => do
    let (a, asked) ← takeOut s.asked confirmation
    -- `Navigator.of` throws without the sheet
    return if s.disposed then { s with asked } else confirm { s with asked } a response
  | .uploaded loop fileId => do
    let (l, loops) ← takeOut s.loops loop
    match l.left, fileId with
    | [], _ => none
    | image :: left, some fileId =>
      return proceed { s with loops, files := (image, fileId) :: s.files }
        { l with left, imagesList := l.imagesList ++ [(image, fileId)] }
    -- the exception is caught
    | _ :: left, none => return proceed { s with loops } { l with left }

/-- What is handed over was found for the position of the sheet, and the photos are those of the
slots; there is one, unless it was removed while the area was awaited. -/
structure Confirmed.Sound (c : Confirmed) : Prop where
  position : c.position = some c.asked
  area : c.locationdata = getAreaName c.response
  images : c.images = c.slots.filterMap id
  slots : c.slots.length = 2
  shown : c.removed = false → c.images ≠ []

/-- A save has the position and the area of its confirmation, and ids of stored photos of it, in
the order of the slots. -/
structure Made (files : List (Capture × String)) (c : Confirmed) (save : Save) : Prop where
  position : save.position = some c.asked
  area : save.locationdata = getAreaName c.response
  images : ∃ l : List (Capture × String), l.map (·.2) = save.imagesList ∧
    (l.map (·.1)).Sublist (c.slots.filterMap id) ∧ ∀ e ∈ l, e ∈ files

/-- Every confirmation is still uploading or was saved, once, and with what it was confirmed for. -/
structure Accounted (s : State) : Prop where
  sound : ∀ c ∈ s.confirmed, c.Sound
  account : s.confirmed.Perm (s.loops.map (·.confirmed) ++ s.saves.map (·.1))
  made : ∀ e ∈ s.saves, Made s.files e.1 e.2

/-- What a step of the slots does to them. -/
theorem images_step {u v : PhotoWatermark.State} {e : PhotoWatermark.Event}
    (hstep : PhotoWatermark.step u e = some v) :
    (∃ index, e = .onRemoveClick index ∧ v.images = u.images.set index none) ∨
      (∃ call index c, e = .resume call .drawn ∧ v.images = u.images.set index (some c)) ∨
        ((∀ index, e ≠ .onRemoveClick index) ∧ (∀ call, e ≠ .resume call .drawn) ∧
          v.images = u.images) := by
  cases e with
  | onAddImageClick index =>
    obtain ⟨-, hstep⟩ := Option.ite_none_right_eq_some.mp hstep
    cases hstep
    exact Or.inr (Or.inr ⟨nofun, nofun, rfl⟩)
  | onRemoveClick index =>
    cases hstep
    exact Or.inl ⟨index, rfl, rfl⟩
  | resume call r =>
    obtain ⟨⟨c, rest⟩, -, hresume⟩ := Option.bind_eq_some_iff.mp hstep
    by_cases hr : r = .drawn
    · subst hr
      cases c with
      | drawOnXFile index capture =>
        cases hresume
        exact Or.inr (Or.inl ⟨call, index, capture, rfl, rfl⟩)
      | _ => cases hresume
    · refine Or.inr (Or.inr ⟨nofun, fun call' he => ?_, ?_⟩)
      · cases he
        exact hr rfl
      · exact PhotoWatermark.images_resume (s := { u with calls := rest }) hresume hr

/-- A slot that is filled leaves no fewer photos than there were. -/
theorem filterMap_set_ne_nil {l : List (Option Capture)} (h : l.filterMap id ≠ []) (i : Nat)
    (c : Capture) : (l.set i (some c)).filterMap id ≠ [] := by
  by_cases hi : i < l.length
  · have hmem : c ∈ (l.set i (some c)).filterMap id :=
      List.mem_filterMap.mpr ⟨some c, List.mem_set hi _, rfl⟩
    exact List.ne_nil_of_mem hmem
  · rw [List.set_eq_of_length_le (Nat.le_of_not_lt hi)]
    exact h

section Run

variable {s t : State}

/-- The photos of a loop are those of its confirmation, without the uploads that failed. -/
structure Loop.Sound (files : List (Capture × String)) (l : Loop) : Prop where
  confirmed : l.confirmed.Sound
  order : (l.imagesList.map (·.1) ++ l.left).Sublist l.confirmed.images
  stored : ∀ e ∈ l.imagesList, e ∈ files

/-- The loops in flight, and `held` besides, of which one step takes care. -/
structure Inv (held : List Loop) (s : State) : Prop where
  sound : ∀ c ∈ s.confirmed, c.Sound
  account : s.confirmed.Perm ((held ++ s.loops).map (·.confirmed) ++ s.saves.map (·.1))
  made : ∀ e ∈ s.saves, Made s.files e.1 e.2
  loops : ∀ l ∈ held ++ s.loops, l.Sound s.files
  reported : s.images = updateImages s.upload
  slots : s.upload.images.length = 2
  once : s.fetch ≠ .done → s.currentPosition = none
  asked : ∀ a ∈ s.asked, s.currentPosition = some a.position ∧ a.removals ≤ s.removals ∧
    (a.removals = s.removals → s.images ≠ [])

theorem Loop.Sound.mono {files files' : List (Capture × String)} {l : Loop} (h : l.Sound files)
    (hfiles : ∀ e ∈ files, e ∈ files') : l.Sound files' :=
  ⟨h.confirmed, h.order, fun e he => hfiles e (h.stored e he)⟩

theorem Made.mono {files files' : List (Capture × String)} {c : Confirmed} {save : Save}
    (h : Made files c save) (hfiles : ∀ e ∈ files, e ∈ files') : Made files' c save := by
  obtain ⟨l, hids, hphotos, hstored⟩ := h.images
  exact ⟨h.position, h.area, l, hids, hphotos, fun e he => hfiles e (hstored e he)⟩

theorem Loop.Sound.made {files : List (Capture × String)} {l : Loop} (h : l.Sound files)
    (hleft : l.left = []) :
    Made files l.confirmed ⟨l.imagesList.map (·.2), l.confirmed.position,
      l.confirmed.locationdata⟩ where
  position := h.confirmed.position
  area := h.confirmed.area
  images := by
    refine ⟨l.imagesList, rfl, ?_, h.stored⟩
    have horder := h.order
    rw [hleft, List.append_nil, h.confirmed.images] at horder
    exact horder

theorem Inv.proceed {l : Loop} (h : Inv [l] s) : Inv [] (proceed s l) := by
  rw [ConfirmationSheet.proceed]
  split
  · case _ hleft =>
    refine { h with
      account := h.account.trans List.perm_middle.symm
      made := fun e he => ?_
      loops := fun l' hl' => h.loops l' (List.mem_cons_of_mem l hl') }
    rcases List.mem_cons.mp he with rfl | he
    · exact (h.loops l List.mem_cons_self).made hleft
    · exact h.made e he
  · exact { h with }

/-- A loop that gets an answer is held until it proceeds. -/
theorem Inv.held (h : Inv [] s) {i : Nat} {l : Loop} {rest : List Loop}
    (htake : takeOut s.loops i = some (l, rest)) : Inv [l] { s with loops := rest } :=
  { h with
    account := h.account.trans (((takeOut_perm htake).map _).append_right _)
    loops := fun l' hl' => h.loops l' ((takeOut_perm htake).mem_iff.mpr hl') }

theorem Inv.fetching (h : Inv [] s) (f : Fetch) (hnone : s.currentPosition = none) :
    Inv [] { s with fetch := f } :=
  { h with once := fun _ => hnone }

/-- Before there is a position nobody has been asked about one. -/
theorem Inv.located (h : Inv [] s) (position : Position) (hnone : s.currentPosition = none) :
    Inv [] { s with fetch := .done, currentPosition := some position } :=
  { h with
    once := fun hdone => absurd rfl hdone
    asked := fun a ha => by
      have hsome := (h.asked a ha).1
      rw [hnone] at hsome
      cases hsome }

theorem fetched_inv (h : Inv [] s) {r : FetchReply} (hstep : fetched s s.fetch r = some t) :
    Inv [] t := by
  have none_of : ∀ {f : Fetch}, s.fetch = f → f ≠ .done → s.currentPosition = none :=
    fun hf hne => h.once (hf ▸ hne)
  cases hf : s.fetch with
  | done =>
    rw [hf] at hstep
    cases hstep
  | isLocationServiceEnabled =>
    rw [hf] at hstep
    cases r with
    | enabled | exception =>
      cases hstep
      exact h.fetching _ (none_of hf (by decide))
    | _ => cases hstep
  | checkPermission =>
    rw [hf] at hstep
    cases r with
    | permission | exception =>
      cases hstep
      exact h.fetching _ (none_of hf (by decide))
    | _ => cases hstep
  | requestPermission =>
    rw [hf] at hstep
    cases r with
    | permission | exception =>
      cases hstep
      exact h.fetching _ (none_of hf (by decide))
    | _ => cases hstep
  | getCurrentPosition =>
    rw [hf] at hstep
    cases r with
    | position position =>
      cases hstep
      exact h.located position (none_of hf (by decide))
    | exception =>
      cases hstep
      exact h.fetching _ (none_of hf (by decide))
    | _ => cases hstep

/-- The list of the sheet follows the slots, and only a removal takes its last photo away. -/
theorem upload_inv (h : Inv [] s) {e : PhotoWatermark.Event}
    (hstep : step s (.upload e) = some t) : Inv [] t := by
  obtain ⟨-, hstep⟩ := Option.ite_none_left_eq_some.mp hstep
  obtain ⟨u, hu, hstep⟩ := Option.bind_eq_some_iff.mp hstep
  obtain ⟨index, rfl, himages⟩ | ⟨call, index, c, rfl, himages⟩ | ⟨hremove, hdrawn, himages⟩ :=
    images_step hu
  · cases hstep
    refine { h with
      reported := rfl
      slots := by rw [himages, List.length_set, h.slots]
      asked := fun a ha => ?_ }
    obtain ⟨hposition, hle, -⟩ := h.asked a ha
    exact ⟨hposition, Nat.le_succ_of_le hle, fun heq => by simp only at heq; omega⟩
  · cases hstep
    refine { h with
      reported := rfl
      slots := by rw [himages, List.length_set, h.slots]
      asked := fun a ha => ?_ }
    obtain ⟨hposition, hle, hshown⟩ := h.asked a ha
    refine ⟨hposition, hle, fun heq => ?_⟩
    have before := hshown heq
    rw [h.reported, updateImages] at before
    rw [updateImages, himages]
    exact filterMap_set_ne_nil before index c
  · have same : t = { s with upload := u } := by
      cases e with
      | onAddImageClick index =>
        cases hstep
        rfl
      | onRemoveClick index => exact absurd rfl (hremove index)
      | resume call r =>
        cases r with
        | drawn => exact absurd rfl (hdrawn call)
        | _ =>
          cases hstep
          rfl
    rw [same]
    exact { h with
      reported := by rw [updateImages, himages]; exact h.reported
      slots := by rw [himages]; exact h.slots }

/-- The position has not changed since the confirmation, so it is the one of the request. -/
theorem confirm_inv (h : Inv [] s) {a : Asked} {response : Option (Nat × List AreaJson)}
    (ha : s.currentPosition = some a.position ∧ a.removals ≤ s.removals ∧
      (a.removals = s.removals → s.images ≠ [])) : Inv [] (confirm s a response) := by
  obtain ⟨hposition, hle, hshown⟩ := ha
  have sound : Confirmed.Sound
      { position := s.currentPosition
        images := s.images
        locationdata := getAreaName response
        asked := a.position
        response
        slots := s.upload.images
        removed := a.removals < s.removals } :=
    { position := hposition
      area := rfl
      images := h.reported
      slots := h.slots
      shown := fun hnot => hshown (by have := of_decide_eq_false hnot; omega) }
  refine Inv.proceed { h with
    sound := fun c hc => ?_
    account := h.account.cons _
    loops := fun l hl => ?_ }
  · rcases List.mem_cons.mp hc with rfl | hc
    · exact sound
    · exact h.sound c hc
  · rcases List.mem_cons.mp hl with rfl | hl
    · exact ⟨sound, List.Sublist.refl _, nofun⟩
    · exact h.loops l hl

theorem uploaded_inv (h : Inv [] s) {i : Nat} {fileId : Option String}
    (hstep : step s (.uploaded i fileId) = some t) : Inv [] t := by
  obtain ⟨⟨l, loops⟩, htake, hstep⟩ := Option.bind_eq_some_iff.mp hstep
  have held := h.held htake
  have sound := held.loops l List.mem_cons_self
  cases hleft : l.left with
  | nil =>
    simp only [hleft] at hstep
    cases hstep
  | cons image left =>
    simp only [hleft] at hstep
    have order := sound.order
    rw [hleft] at order
    cases fileId with
    | none =>
      cases hstep
      refine Inv.proceed { held with loops := fun l' hl' => ?_ }
      rcases List.mem_cons.mp hl' with rfl | hl'
      · exact ⟨sound.confirmed, ((List.sublist_cons_self image left).append_left _).trans order,
          sound.stored⟩
      · exact held.loops l' (List.mem_cons_of_mem l hl')
    | some fileId =>
      cases hstep
      have more : ∀ e ∈ s.files, e ∈ (image, fileId) :: s.files :=
        fun e he => List.mem_cons_of_mem _ he
      refine Inv.proceed { held with
        made := fun e he => (held.made e he).mono more
        loops := fun l' hl' => ?_ }
      rcases List.mem_cons.mp hl' with rfl | hl'
      · refine ⟨sound.confirmed, ?_, fun e he => ?_⟩
        · rw [List.map_append, List.append_assoc]
          exact order
        · rcases List.mem_append.mp he with he | he
          · exact more e (sound.stored e he)
          · rw [List.mem_singleton.mp he]
            exact List.mem_cons_self
      · exact (held.loops l' (List.mem_cons_of_mem l hl')).mono more

theorem step_inv {e : Event} (h : Inv [] s) (hstep : step s e = some t) : Inv [] t := by
  cases e with
  | fetched r => exact fetched_inv h hstep
  | upload e => exact upload_inv h hstep
  | onConfirmPressed =>
    obtain ⟨-, hstep⟩ := Option.ite_none_left_eq_some.mp hstep
    split at hstep
    · cases hstep
      exact h
    · case _ position hposition =>
      split at hstep
      · cases hstep
        exact h
      · case isFalse hshown =>
        cases hstep
        refine { h with asked := fun a ha => ?_ }
        rcases List.mem_cons.mp ha with rfl | ha
        · exact ⟨hposition, Nat.le_refl _, fun _ hnil => hshown (List.isEmpty_iff.mpr hnil)⟩
        · exact h.asked a ha
  | onCancelPressed =>
    obtain ⟨-, hstep⟩ := Option.ite_none_left_eq_some.mp hstep
    cases hstep
    exact { h with }
  | dispose =>
    obtain ⟨-, hstep⟩ := Option.ite_none_right_eq_some.mp hstep
    cases hstep
    exact { h with }
  | answered i response =>
    obtain ⟨⟨a, asked⟩, htake, hstep⟩ := Option.bind_eq_some_iff.mp hstep
    have rest : Inv [] { s with asked } :=
      { h with asked := fun a' ha' => h.asked a' (mem_of_mem_rest htake ha') }
    cases hstep
    split
    · exact rest
    · exact confirm_inv rest (h.asked a (mem_takeOut htake))
  | uploaded i fileId => exact uploaded_inv h hstep

end Run

/-- Whenever the position comes, however often the sheet is confirmed, and whatever is taken and
removed meanwhile: a save has the one position of the sheet, the area that was answered for it and
photos of its slots in their order, and no confirmation is saved twice or lost. -/
theorem confirmations_accounted (es : List Event) : EveryState step Accounted {} es := by
  have start : Inv [] {} :=
    { sound := fun _ hc => nomatch hc
      account := .nil
      made := fun _ he => nomatch he
      loops := fun _ hl => nomatch hl
      reported := rfl
      slots := rfl
      once := fun _ => rfl
      asked := fun _ ha => nomatch ha }
  have always : EveryState step (Inv []) {} es :=
    everyState_of_inv (fun _ _ _ h hstep => step_inv h hstep) start es
  exact always.mono fun _ h => ⟨h.sound, h.account, h.made⟩

end ConfirmationSheet
