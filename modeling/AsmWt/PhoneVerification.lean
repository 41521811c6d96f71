import AsmWt.LoadingOverlay

/-!
# The verification of a phone number under the overlay

A verification is begun under two overlays and hides one of them. The other one
goes away with its page, when a page for the code comes in its place; a page
that comes too early takes both with it.
-/

namespace PhoneVerification

open LoadingOverlay

/-- What happens while a phone number is verified. The callback `verificationFailed` asks the other
provider for a code. -/
inductive Happening where
  | frame
  | verificationCompleted
  | verificationFailed (requestThaiBulkSmsOTP : Outcome)
  | codeSent
  | codeAutoRetrievalTimeout
  deriving DecidableEq

/-- The happening asks for the page that takes the code. -/
def Happening.asks : Happening → Bool
  | codeSent => true
  | verificationFailed request => request = .success
  | frame | verificationCompleted | codeAutoRetrievalTimeout => false

def Happening.handle (n : Nav) (h : Happening) : Nav :=
  if h = frame then n.frame
  else if h.asks then { n with replacements := n.replacements ++ ["register2"] }
  else n

/-- What happens before and after `verifyPhoneNumber` completes. -/
structure Verification where
  before : List Happening := []
  verifyPhoneNumber : Outcome := .success
  after : List Happening := []

def verifyPhoneNumber (v : Verification) : Dart Unit := do
  modify fun n => v.before.foldl Happening.handle n
  discard <| complete v.verifyPhoneNumber

/-- The employee a phone number belongs to; `otherDevice` is one who is bound to another device. -/
inductive PhoneNumber where
  | exception
  | notFound
  | notActivated
  | otherDevice
  | activated
  deriving DecidableEq

def verifyPhone (isLogin : Bool) (exist : PhoneNumber) (v : Verification) : Dart Unit := do
  showOverlay
  if isLogin then whenComplete (verifyPhoneNumber v) hide
  else
    whenComplete (do
      frame
      match exist with
      | .exception => throw .other
      | .otherDevice | .activated => pure ()
      | .notFound | .notActivated => verifyPhoneNumber v) hide

/-- The page is replaced before the verification completes. -/
def Verification.Replaced (v : Verification) : Prop :=
  ∃ first last, v.before = first ++ .frame :: last ∧ ∃ h ∈ first, h.asks = true

/-- A page for the code is asked for, and it does not come before the verification completes. -/
structure Verification.Clean (v : Verification) : Prop where
  asked : ∃ h ∈ v.before ++ v.after, h.asks = true
  inTime : ¬ v.Replaced

/-- Whether the page for the code is asked for, and whether it has come. -/
inductive Phase where
  | waiting
  | asked
  | replaced
  deriving DecidableEq

def Phase.next : Phase → Happening → Phase
  | .waiting, h => if h.asks then .asked else .waiting
  | .asked, h => if h = .frame then .replaced else .asked
  | .replaced, _ => .replaced

/-- What happens from then on, step by step. -/
def phase (p : Phase) (hs : List Happening) : Phase := hs.foldl Phase.next p

theorem phase_ne_waiting_iff (p : Phase) (hs : List Happening) :
    phase p hs ≠ .waiting ↔ p ≠ .waiting ∨ ∃ h ∈ hs, h.asks = true := by
  induction hs generalizing p with
  | nil => simp [phase]
  | cons h hs ih =>
    rw [phase, List.foldl_cons, ← phase, ih, List.exists_mem_cons_iff, ← or_assoc]
    refine or_congr_left ?_
    cases p with
    | waiting =>
      cases hasks : h.asks with
      | true | false => simp [Phase.next, hasks]
    | asked =>
      by_cases hframe : h = .frame
      · simp [Phase.next, hframe]
      · simp [Phase.next, hframe]
    | replaced => simp [Phase.next]

/-- A page that is asked for comes with the next frame. -/
theorem phase_asked_eq_replaced_iff (hs : List Happening) :
    phase .asked hs = .replaced ↔ .frame ∈ hs := by
  induction hs with
  | nil => simp [phase]
  | cons h hs ih =>
    rw [phase, List.foldl_cons, ← phase, List.mem_cons]
    by_cases hframe : h = .frame
    · have stays : ∀ hs, phase .replaced hs = .replaced := by
        intro hs
        induction hs with
        | nil => rfl
        | cons h hs ih => exact ih
      rw [hframe, Phase.next, if_pos rfl, stays]
      exact iff_of_true rfl (Or.inl rfl)
    · rw [Phase.next, if_neg hframe, ih]
      exact (or_iff_right (Ne.symm hframe)).symm

theorem phase_waiting_eq_replaced_iff (hs : List Happening) :
    phase .waiting hs = .replaced ↔
      ∃ first last, hs = first ++ .frame :: last ∧ ∃ h ∈ first, h.asks = true := by
  induction hs with
  | nil => simp [phase]
  | cons h hs ih =>
    rw [phase, List.foldl_cons, ← phase, Phase.next]
    by_cases hasks : h.asks = true
    · rw [if_pos hasks, phase_asked_eq_replaced_iff]
      constructor
      · intro hframe
        obtain ⟨first, last, rfl⟩ := List.append_of_mem hframe
        exact ⟨h :: first, last, rfl, h, List.mem_cons_self, hasks⟩
      · rintro ⟨first, last, hsplit, h', hmem, -⟩
        cases first with
        | nil => cases hmem
        | cons x first =>
          rw [(List.cons.inj hsplit).2]
          exact List.mem_append_right _ List.mem_cons_self
    · rw [if_neg hasks, ih]
      constructor
      · rintro ⟨first, last, rfl, h', hmem, hasks'⟩
        exact ⟨h :: first, last, rfl, h', List.mem_cons_of_mem h hmem, hasks'⟩
      · rintro ⟨first, last, hsplit, h', hmem, hasks'⟩
        cases first with
        | nil => cases hmem
        | cons x first =>
          obtain ⟨rfl, rfl⟩ := List.cons.inj hsplit
          refine ⟨first, last, rfl, h', (List.mem_cons.mp hmem).resolve_left ?_, hasks'⟩
          rintro rfl
          exact hasks hasks'

/-- The navigation in a phase: overlays on a page, with a page asked for or not, or the page that
has come in place of all of them. -/
def Represents (overlays : Nat) (page : String) (below : List Route) (hidOther : Bool) :
    Phase → Nav → Prop
  | .waiting, n => n = {
      stack := List.replicate overlays .overlay ++ .other (.page page) :: below, hidOther }
  | .asked, n => ∃ again, n = {
      stack := List.replicate overlays .overlay ++ .other (.page page) :: below
      replacements := List.replicate (again + 1) "register2"
      hidOther }
  | .replaced, n => ∃ again, n = {
      stack := .other (.page "register2") :: below
      replacements := List.replicate again "register2"
      hidOther }

variable {overlays : Nat} {page : String} {below : List Route} {hidOther : Bool}

theorem replacePage_overlays (overlays : Nat) (page name : String) (below : List Route) :
    replacePage (List.replicate overlays .overlay ++ .other (.page page) :: below) name =
      .other (.page name) :: below := by
  induction overlays with
  | zero => rfl
  | succ overlays ih => exact ih

theorem replacePage_again (again : Nat) (below : List Route) :
    (List.replicate again "register2").foldl replacePage (.other (.page "register2") :: below) =
      .other (.page "register2") :: below := by
  induction again with
  | zero => rfl
  | succ again ih => exact ih

/-- A page that was asked for takes the place of its page and of all overlays. -/
theorem represents_frame {p : Phase} {n : Nav}
    (h : Represents overlays page below hidOther p n) :
    Represents overlays page below hidOther (p.next .frame) n.frame := by
  cases p with
  | waiting =>
    cases h
    rfl
  | asked =>
    obtain ⟨again, rfl⟩ := h
    refine ⟨0, ?_⟩
    rw [Nav.frame, List.replicate_succ, List.foldl_cons, replacePage_overlays, replacePage_again]
    rfl
  | replaced =>
    obtain ⟨again, rfl⟩ := h
    refine ⟨0, ?_⟩
    rw [Nav.frame, replacePage_again]
    rfl

theorem represents_handle {p : Phase} {n : Nav} (h : Represents overlays page below hidOther p n)
    (e : Happening) : Represents overlays page below hidOther (p.next e) (e.handle n) := by
  by_cases hframe : e = .frame
  · rw [Happening.handle, if_pos hframe, hframe]
    exact represents_frame h
  · rw [Happening.handle, if_neg hframe]
    cases hasks : e.asks with
    | true =>
      rw [if_pos rfl]
      cases p with
      | waiting =>
        cases h
        rw [Phase.next, if_pos hasks]
        exact ⟨0, rfl⟩
      | asked =>
        obtain ⟨again, rfl⟩ := h
        rw [Phase.next, if_neg hframe]
        refine ⟨again + 1, ?_⟩
        rw [← List.replicate_succ']
      | replaced =>
        obtain ⟨again, rfl⟩ := h
        refine ⟨again + 1, ?_⟩
        rw [← List.replicate_succ']
    | false =>
      rw [if_neg Bool.false_ne_true]
      cases p with
      | waiting =>
        rw [Phase.next, hasks, if_neg Bool.false_ne_true]
        exact h
      | asked =>
        rw [Phase.next, if_neg hframe]
        exact h
      | replaced => exact h

theorem represents_run {p : Phase} {n : Nav} (h : Represents overlays page below hidOther p n)
    (hs : List Happening) :
    Represents overlays page below hidOther (phase p hs) (hs.foldl Happening.handle n) := by
  induction hs generalizing p n with
  | nil => exact h
  | cons e hs ih => exact ih (represents_handle h e)

theorem hidOther_run (n : Nav) (hs : List Happening) :
    (hs.foldl Happening.handle n).hidOther = n.hidOther := by
  induction hs generalizing n with
  | nil => rfl
  | cons e hs ih =>
    rw [List.foldl_cons, ih, Happening.handle]
    split
    · rfl
    · split <;> rfl

/-- One overlay that is left goes away with its page. -/
theorem balanced_frame_iff {p : Phase} {n : Nav} {others : List Other}
    (h : Represents 1 page (others.map .other) false p n) : Balanced n.frame ↔ p ≠ .waiting := by
  cases p with
  | waiting =>
    cases h
    exact iff_of_false (not_balanced_of_top _ rfl) fun hne => hne rfl
  | asked | replaced =>
    obtain ⟨again, hn⟩ := represents_frame h
    refine iff_of_true ?_ nofun
    rw [hn]
    exact balanced_of_below (.page "register2" :: others) rfl rfl

/-- Hiding takes the top overlay, as long as there is one. -/
theorem represents_hide {p : Phase} {n : Nav}
    (h : Represents (overlays + 1) page below false p n) (hp : p ≠ .replaced) :
    Represents overlays page below false p n.hide := by
  cases p with
  | waiting =>
    cases h
    rfl
  | asked =>
    obtain ⟨again, rfl⟩ := h
    exact ⟨again, rfl⟩
  | replaced => exact absurd rfl hp

theorem hidOther_hide {n : Nav} (h : Represents overlays page below hidOther .replaced n) :
    n.hide.hidOther = true := by
  obtain ⟨again, rfl⟩ := h
  exact Bool.or_true hidOther

theorem whenComplete_verifyPhoneNumber (v : Verification) (n : Nav) :
    ended (whenComplete (verifyPhoneNumber v) hide) n =
      (v.before.foldl Happening.handle n).hide := by
  have before_apply : (modify fun n => v.before.foldl Happening.handle n : Dart Unit) n =
      .ok () (v.before.foldl Happening.handle n) := rfl
  by_cases hthrows : v.verifyPhoneNumber = .exception
  · simp [ended, whenComplete, verifyPhoneNumber, before_apply, hthrows, Nav.hide]
  · simp [ended, whenComplete, verifyPhoneNumber, before_apply, hthrows, Nav.hide]

theorem clean_iff_phase (v : Verification) :
    v.Clean ↔ phase .waiting v.before ≠ .replaced ∧
      phase (phase .waiting v.before) v.after ≠ .waiting := by
  have hasked : phase (phase .waiting v.before) v.after ≠ .waiting ↔
      ∃ h ∈ v.before ++ v.after, h.asks = true := by
    rw [phase, phase, ← List.foldl_append, ← phase, phase_ne_waiting_iff]
    exact or_iff_right fun hne => hne rfl
  rw [hasked, ne_eq, phase_waiting_eq_replaced_iff]
  exact ⟨fun h => ⟨h.inTime, h.asked⟩, fun h => ⟨h.2, h.1⟩⟩

/-- A verification under two overlays, of which it hides one. -/
theorem verification_balanced_iff (v : Verification) (page : String) (others : List Other) :
    Balanced (v.after.foldl Happening.handle (ended (whenComplete (verifyPhoneNumber v) hide)
      { stack := .overlay :: .overlay :: .other (.page page) :: others.map .other })).frame ↔
        v.Clean := by
  have start : Represents 2 page (others.map .other) false .waiting
      { stack := .overlay :: .overlay :: .other (.page page) :: others.map .other } := rfl
  have before := represents_run start v.before
  rw [whenComplete_verifyPhoneNumber, clean_iff_phase]
  by_cases hp : phase .waiting v.before = .replaced
  · rw [hp] at before
    refine iff_of_false (not_balanced_of_hidOther ?_) fun h => h.1 hp
    rw [frame_hidOther, hidOther_run]
    exact hidOther_hide before
  · have after := represents_run (represents_hide before hp) v.after
    rw [balanced_frame_iff after]
    exact (and_iff_right hp).symm

end PhoneVerification
