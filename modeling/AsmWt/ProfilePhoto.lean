import AsmWt.Interleaving
import AsmWt.Firestore

/-!
# The profile photo of a worker

An update first deletes the photo whose name the account page remembers, then
uploads the new one and writes its name to the employee record. Every call can
fail, nothing is undone, and the page learns the new name only by reading the
record again.
-/

namespace ProfilePhoto

open KeyedRecord Firestore Interleaving

/-- Which calls of an update succeed; the download URL is what the storage answers. -/
structure Outcome where
  delete : Bool := true
  upload : Bool := true
  downloadURL : Option String := some "https://storage/photo"
  record : Bool := true
  reread : Bool := true

/-- The record of the worker, the names under `images/<id>/profile` in storage, and the
`profileFileName` of the controller's user model. -/
structure State where
  employee : Doc
  objects : List String
  profileFileName : Option String

def photoName (uniqueFileName : Int) (name : String) : String :=
  toString uniqueFileName ++ "-" ++ name

/-- Deleting the previous photo, which throws for an object that is not there. -/
def deletePrevious (o : Outcome) (previousImageName : Option String) (objects : List String) :
    Option (List String) :=
  match previousImageName with
  | none => some objects
  | some previous =>
    if o.delete ∧ previous ∈ objects then some (objects.filter (· ≠ previous)) else none

/-- `UsersService.updateUserProfilePhotoByUserID`: the status and what is left behind. -/
def updateUserProfilePhotoByUserID (s : State) (userID : Option String) (now : Int)
    (name : String) (previousImageName : Option String) (o : Outcome) : String × State :=
  match userID with
  | none => ("E", s)
  | some _ =>
    match deletePrevious o previousImageName s.objects with
    | none => ("E", s)
    | some objects =>
      if o.upload then
        let uploaded := { s with objects := photoName now name :: objects }
        match o.downloadURL with
        | none => ("E", uploaded)
        | some imageUrl =>
          let data := [("profile_url", .str imageUrl),
            ("profile_file_name", .str (photoName now name))]
          if o.record then ("S", { uploaded with employee := update s.employee data })
          else ("E", uploaded)
      else ("E", { s with objects })

/-- `getUserDataByUserId`: a failed read keeps the old user model. -/
def getUserDataByUserId (s : State) (reached : Bool) : State :=
  match if reached then Codec.string.decode (s.employee "profile_file_name") else none with
  | none => s
  | some name => { s with profileFileName := name }

inductive Event where
  | getFromGallery (userId : String) (now : Int) (name : String) (o : Outcome)
  | openPage (reached : Bool)

/-- `getFromGallery` with the name the page passes, and the read when the page is opened. -/
def step (s : State) : Event → Option State
  | .getFromGallery userId now name o =>
    match updateUserProfilePhotoByUserID s userId now name s.profileFileName o with
    | (status, t) => some (if status = "S" then getUserDataByUserId t o.reread else t)
  | .openPage reached => some (getUserDataByUserId s reached)

/-- The photo the record names, if it names one, is in storage. -/
def ValidPhoto (s : State) : Prop :=
  ∃ name, s.employee "profile_file_name" = Codec.string.encode name ∧
    ∀ n, name = some n → n ∈ s.objects

/-- Nothing stands in the way of an update with the remembered name. -/
def UpdatesSucceed (s : State) : Prop :=
  ∀ userId now name (o : Outcome), o.delete = true → o.upload = true → o.downloadURL.isSome →
    o.record = true →
      (updateUserProfilePhotoByUserID s (some userId) now name s.profileFileName o).1 = "S"

structure PhotoKept (s : State) : Prop where
  valid : ValidPhoto s
  updates : UpdatesSucceed s

/-- The page as it is after it read the record. -/
structure Loaded (s : State) : Prop where
  valid : ValidPhoto s
  read : s.employee "profile_file_name" = Codec.string.encode s.profileFileName

/-- Once the previous photo is deleted, every other call succeeds, unless the new photo takes the
name of the previous one and is uploaded. -/
def NotCutOff (s : State) : Event → Prop
  | .getFromGallery _ now name o =>
    ∀ previous, s.profileFileName = some previous → o.delete = true → o.upload = true ∧
      (photoName now name = previous ∨
        o.downloadURL.isSome ∧ o.record = true ∧ o.reread = true)
  | .openPage _ => True

theorem updatesSucceed_iff {s : State} :
    UpdatesSucceed s ↔ ∀ previous, s.profileFileName = some previous → previous ∈ s.objects := by
  constructor
  · intro h previous hprevious
    by_contra hmissing
    have := h "" 0 "" {} rfl rfl rfl rfl
    simp [updateUserProfilePhotoByUserID, deletePrevious, hprevious, hmissing] at this
  · rintro h userId now name ⟨delete, upload, downloadURL, record, reread⟩ rfl rfl hurl rfl
    obtain ⟨imageUrl, rfl⟩ := Option.isSome_iff_exists.mp hurl
    cases hprevious : s.profileFileName with
    | none => rfl
    | some previous =>
      simp [updateUserProfilePhotoByUserID, deletePrevious, h previous hprevious]

theorem photoKept_iff {s : State} :
    PhotoKept s ↔ ValidPhoto s ∧
      ∀ previous, s.profileFileName = some previous → previous ∈ s.objects := by
  constructor
  · exact fun h => ⟨h.valid, updatesSucceed_iff.mp h.updates⟩
  · exact fun h => ⟨h.1, updatesSucceed_iff.mpr h.2⟩

theorem Loaded.photoKept {s : State} (h : Loaded s) : PhotoKept s := by
  refine photoKept_iff.mpr ⟨h.valid, fun previous hprevious => ?_⟩
  obtain ⟨name, hname, hmem⟩ := h.valid
  apply hmem
  rw [← hprevious]
  exact Codec.string.encode_inj (hname.symm.trans h.read)

/-- A read remembers what the record names, or changes nothing. -/
theorem getUserDataByUserId_photoKept {s : State} (h : PhotoKept s) (reached : Bool) :
    PhotoKept (getUserDataByUserId s reached) := by
  obtain ⟨name, hname, hmem⟩ := h.valid
  cases reached with
  | false => exact h
  | true =>
    rw [getUserDataByUserId, hname, if_pos rfl, Codec.decode_encode]
    exact photoKept_iff.mpr ⟨⟨name, hname, hmem⟩, hmem⟩

section Delete

variable {o : Outcome} {previousImageName : Option String} {objects left : List String}

/-- A delete that goes through removes the previous photo and nothing else. -/
theorem deletePrevious_eq_some
    (h : deletePrevious o previousImageName objects = some left) :
    (previousImageName = none ∧ left = objects) ∨
      ∃ previous, previousImageName = some previous ∧ o.delete = true ∧
        left = objects.filter (· ≠ previous) := by
  cases previousImageName with
  | none => exact Or.inl ⟨rfl, (Option.some.inj h).symm⟩
  | some previous =>
    rw [deletePrevious] at h
    split at h
    · case isTrue hd => exact Or.inr ⟨previous, rfl, hd.1, (Option.some.inj h).symm⟩
    · cases h

/-- Whatever still has the previous photo has everything that was there. -/
theorem subset_of_deletePrevious (h : deletePrevious o previousImageName objects = some left)
    {after : List String} (hleft : left ⊆ after)
    (hprevious : ∀ previous, previousImageName = some previous → previous ∈ after) :
    objects ⊆ after := by
  intro n hn
  rcases deletePrevious_eq_some h with ⟨-, rfl⟩ | ⟨previous, hp, -, rfl⟩
  · exact hleft hn
  · by_cases hnp : n = previous
    · exact hnp ▸ hprevious previous hp
    · exact hleft (List.mem_filter.mpr ⟨hn, decide_eq_true hnp⟩)

/-- The previous photo comes back only under its own name. -/
theorem previous_mem_iff (h : deletePrevious o previousImageName objects = some left)
    {previous : String} (hp : previousImageName = some previous) (uploaded : List String) :
    previous ∈ uploaded ++ left ↔ previous ∈ uploaded := by
  rcases deletePrevious_eq_some h with ⟨hnone, -⟩ | ⟨previous', hp', -, rfl⟩
  · rw [hnone] at hp
    cases hp
  · cases hp.symm.trans hp'
    simp

end Delete

/-- An update that stops after its delete leaves a page that remembers the photo it deleted. -/
theorem photoKept_stopped_iff {s : State} (h : PhotoKept s) {o : Outcome} {left : List String}
    (hdelete : deletePrevious o s.profileFileName s.objects = some left)
    (uploaded : List String) :
    PhotoKept { s with objects := uploaded ++ left } ↔
      ∀ previous, s.profileFileName = some previous → previous ∈ uploaded := by
  have mem : ∀ previous, s.profileFileName = some previous →
      (previous ∈ uploaded ++ left ↔ previous ∈ uploaded) :=
    fun previous hp => previous_mem_iff hdelete hp uploaded
  rw [photoKept_iff]
  constructor
  · exact fun hkept previous hp => (mem previous hp).mp (hkept.2 previous hp)
  · intro hback
    have still : ∀ previous, s.profileFileName = some previous → previous ∈ uploaded ++ left :=
      fun previous hp => (mem previous hp).mpr (hback previous hp)
    obtain ⟨name, hname, hmem⟩ := h.valid
    refine ⟨⟨name, hname, fun n hn => ?_⟩, still⟩
    exact subset_of_deletePrevious hdelete (List.subset_append_right _ _) still (hmem n hn)

/-- After an update that succeeded, the page is in order iff it read the new name or the photo it
remembers is still there. -/
theorem photoKept_updated_iff {s : State} (photo imageUrl : String) (objects : List String)
    (reread : Bool) :
    PhotoKept (getUserDataByUserId { s with
        objects := photo :: objects
        employee := update s.employee
          [("profile_url", .str imageUrl), ("profile_file_name", .str photo)] } reread) ↔
      (reread = true ∨
        ∀ previous, s.profileFileName = some previous → previous ∈ photo :: objects) := by
  have valid : ∀ profileFileName, ValidPhoto { s with
      profileFileName
      objects := photo :: objects
      employee := update s.employee
        [("profile_url", .str imageUrl), ("profile_file_name", .str photo)] } := by
    refine fun _ => ⟨some photo, ?_, fun n hn => ?_⟩
    · rfl
    · cases hn
      exact List.mem_cons_self
  cases reread with
  | false =>
    simp only [getUserDataByUserId, Bool.false_eq_true, if_false, false_or]
    rw [photoKept_iff]
    exact and_iff_right (valid _)
  | true =>
    refine iff_of_true ?_ (Or.inl rfl)
    obtain ⟨name, hname, hmem⟩ := valid s.profileFileName
    rw [getUserDataByUserId, hname, if_pos rfl, Codec.decode_encode]
    exact photoKept_iff.mpr ⟨valid _, hmem⟩

/-- Once the previous photo is deleted, only the calls after the delete decide. -/
theorem notCutOff_iff_of_deleted {s : State} {userId : String} {now : Int} {name : String}
    {o : Outcome} {left : List String}
    (hdelete : deletePrevious o s.profileFileName s.objects = some left) :
    NotCutOff s (.getFromGallery userId now name o) ↔
      ∀ previous, s.profileFileName = some previous → o.upload = true ∧
        (photoName now name = previous ∨
          o.downloadURL.isSome ∧ o.record = true ∧ o.reread = true) := by
  rw [NotCutOff]
  rcases deletePrevious_eq_some hdelete with ⟨hnone, -⟩ | ⟨previous, hp, ho, -⟩
  · simp [hnone]
  · simp [hp, ho]

/-- One update keeps the photo in order iff it is not cut off after its delete. -/
theorem photoKept_step_iff {s t : State} {e : Event} (h : PhotoKept s)
    (hstep : step s e = some t) : PhotoKept t ↔ NotCutOff s e := by
  cases e with
  | openPage reached =>
    cases hstep
    exact iff_of_true (getUserDataByUserId_photoKept h reached) trivial
  | getFromGallery userId now name o =>
    rw [step, updateUserProfilePhotoByUserID] at hstep
    cases hdelete : deletePrevious o s.profileFileName s.objects with
    | none =>
      simp only [hdelete, Option.some.injEq] at hstep
      have unchanged : s = t := hstep
      refine iff_of_true (unchanged ▸ h) fun previous hp ho => ?_
      have hmem := (photoKept_iff.mp h).2 previous hp
      simp [deletePrevious, hp, ho, hmem] at hdelete
    | some left =>
      rw [notCutOff_iff_of_deleted hdelete]
      simp only [hdelete] at hstep
      cases hupload : o.upload with
      | false =>
        simp only [hupload, Bool.false_eq_true, if_false, Option.some.injEq] at hstep
        have stopped : { s with objects := [] ++ left } = t := hstep
        rw [← stopped, photoKept_stopped_iff h hdelete]
        simp
      | true =>
        simp only [hupload, if_true] at hstep
        have back : ∀ previous, previous ∈ [photoName now name] ↔ photoName now name = previous :=
          fun previous => List.mem_singleton.trans eq_comm
        cases hurl : o.downloadURL with
        | none =>
          simp only [hurl, Option.some.injEq] at hstep
          have stopped : { s with objects := [photoName now name] ++ left } = t := hstep
          rw [← stopped, photoKept_stopped_iff h hdelete]
          simp [back]
        | some imageUrl =>
          cases hrecord : o.record with
          | false =>
            simp only [hurl, hrecord, Bool.false_eq_true, if_false, Option.some.injEq] at hstep
            have stopped : { s with objects := [photoName now name] ++ left } = t := hstep
            rw [← stopped, photoKept_stopped_iff h hdelete]
            simp [back]
          | true =>
            simp only [hurl, hrecord, if_true, Option.some.injEq] at hstep
            rw [← hstep, photoKept_updated_iff]
            have mem : ∀ previous, s.profileFileName = some previous →
                (previous ∈ photoName now name :: left ↔ photoName now name = previous) := by
              intro previous hp
              exact (previous_mem_iff hdelete hp [photoName now name]).trans (back previous)
            cases hreread : o.reread with
            | true => simp
            | false =>
              simp only [Bool.false_eq_true, false_or, true_and, and_false, or_false]
              exact forall₂_congr mem

/-- Over every sequence of updates and visits of the account page. -/
theorem photoKept_run_iff {s : State} (h : Loaded s) (es : List Event) :
    EveryState step PhotoKept s es ↔ EveryStep step NotCutOff s es :=
  everyState_iff_everyStep (fun _ _ _ hs hstep => photoKept_step_iff hs hstep) h.photoKept es

/-- A worker whose photo is in storage. -/
def withPhoto : State where
  employee := update (fun _ => .null) [("profile_file_name", .str "1-a.jpg")]
  objects := ["1-a.jpg"]
  profileFileName := some "1-a.jpg"

theorem withPhoto_loaded : Loaded withPhoto :=
  ⟨⟨some "1-a.jpg", rfl, by simp [withPhoto]⟩, rfl⟩

theorem photoKept_two_updates :
    EveryState step PhotoKept withPhoto
      [.getFromGallery "e1" 2 "b.jpg" {}, .openPage false,
        .getFromGallery "e1" 3 "c.jpg" { delete := false }] := by
  refine (photoKept_run_iff withPhoto_loaded _).mpr ?_
  rintro t ⟨⟩
  refine ⟨fun _ _ _ => ⟨rfl, Or.inr ⟨rfl, rfl, rfl⟩⟩, ?_⟩
  rintro t ⟨⟩
  refine ⟨trivial, ?_⟩
  rintro t ⟨⟩
  refine ⟨fun previous _ hdelete => ?_, trivial⟩
  cases hdelete

/-- The upload fails after the delete: the record names a photo that is gone. -/
theorem upload_fails_after_delete :
    ¬ ∀ (s : State) (es : List Event), Loaded s → EveryState step PhotoKept s es := by
  intro claim
  have kept := ((claim withPhoto [.getFromGallery "e1" 2 "b.jpg" { upload := false }]
    withPhoto_loaded).2 _ rfl)
  obtain ⟨name, hname, hmem⟩ := kept.valid
  have named : some "1-a.jpg" = name :=
    Codec.string.encode_inj (hname ▸ rfl : Codec.string.encode (some "1-a.jpg") = _)
  exact absurd (hmem "1-a.jpg" named.symm) (by decide)

end ProfilePhoto
