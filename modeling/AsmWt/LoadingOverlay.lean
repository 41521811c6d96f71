import Mathlib.Data.List.Basic

/-!
# The loading overlay on the navigation stack

`LoadingOverlay.show` pushes the overlay, and `hide` pops whatever is on top. A
page that `pushReplacementNamed` asks for takes the place of the top page with
the next frame, and the routes without a page over it go away with it. Every
call a flow awaits lets a frame through.
-/

namespace LoadingOverlay

/-- A route that is not the overlay of the flow: a page of the router, or a route without one. -/
inductive Other where
  | page (name : String)
  | sheet
  | dialog
  | overlay
  deriving DecidableEq

inductive Route where
  | overlay
  | other (o : Other)
  deriving DecidableEq

namespace Route

def isOverlay : Route → Bool
  | overlay | other .overlay => true
  | other _ => false

@[simp] theorem isOverlay_overlay : overlay.isOverlay = true := rfl

@[simp] theorem isOverlay_page (name : String) : (other (.page name)).isOverlay = false := rfl

def isPage : Route → Bool
  | other (.page _) => true
  | _ => false

end Route

/-- The routes, the top one first, the pages asked for since the last frame, and whether a `hide`
has popped something else than an overlay. -/
structure Nav where
  stack : List Route
  replacements : List String := []
  hidOther : Bool := false
  deriving DecidableEq

inductive Exception where
  | firebaseAuth
  | other
  deriving DecidableEq

/-- What becomes of an awaited call. -/
inductive Outcome where
  | success
  | failure
  | exception
  deriving DecidableEq

/-- Code that moves on the stack and may throw. -/
abbrev Dart := EStateM Exception Nav

def replacePage (stack : List Route) (name : String) : List Route :=
  .other (.page name) :: (stack.dropWhile fun r => !r.isPage).tail

namespace Nav

def frame (n : Nav) : Nav :=
  { n with stack := n.replacements.foldl replacePage n.stack, replacements := [] }

def hide (n : Nav) : Nav :=
  { n with
    stack := n.stack.tail
    hidOther := n.hidOther || !n.stack.head?.any Route.isOverlay }

end Nav

/-- `LoadingOverlay.show`. -/
def showOverlay : Dart Unit := modify fun n => { n with stack := .overlay :: n.stack }

/-- `Navigator.pop`. -/
def pop : Dart Unit := modify fun n => { n with stack := n.stack.tail }

/-- `LoadingOverlay.hide`. -/
def hide : Dart Unit := modify Nav.hide

def pushReplacementNamed (name : String) : Dart Unit :=
  modify fun n => { n with replacements := n.replacements ++ [name] }

def frame : Dart Unit := modify Nav.frame

/-- The end of a call; `true` is its success. -/
def complete : Outcome → Dart Bool
  | .success => pure true
  | .failure => pure false
  | .exception => throw .other

def await (o : Outcome) : Dart Bool := do
  frame
  complete o

/-- `Future.whenComplete`. -/
def whenComplete (f action : Dart Unit) : Dart Unit := do
  try f catch e =>
    action
    throw e
  action

/-- A future that nobody waits for. -/
def spawn (f : Dart Unit) : Dart Unit := tryCatch f fun _ => pure ()

/-- The end of some code, with an exception or without. -/
def ended (f : Dart Unit) (n : Nav) : Nav :=
  match f n with
  | .ok _ n | .error _ n => n

/-- No overlay of the flow is left, and `hide` has only popped overlays. -/
structure Balanced (n : Nav) : Prop where
  gone : .overlay ∉ n.stack
  hid : n.hidOther = false

section Run

variable {α β : Type} (n : Nav)

@[simp] theorem pure_apply (a : α) : (pure a : Dart α) n = .ok a n := rfl

@[simp] theorem throw_apply (e : Exception) : (throw e : Dart α) n = .error e n := rfl

@[simp] theorem bind_apply (f : Dart α) (g : α → Dart β) : (f >>= g) n =
    match f n with
    | .ok a n => g a n
    | .error e n => .error e n := by
  change EStateM.bind f g n = _
  rw [EStateM.bind]
  cases f n with
  | ok a n => rfl
  | error e n => rfl

@[simp] theorem tryCatch_apply (f : Dart α) (handle : Exception → Dart α) :
    (tryCatch f handle) n =
      match f n with
      | .ok a n => .ok a n
      | .error e n => handle e n := by
  change EStateM.tryCatch f handle n = _
  rw [EStateM.tryCatch]
  cases f n with
  | ok a n => rfl
  | error e n => rfl

@[simp] theorem showOverlay_apply :
    showOverlay n = .ok () { n with stack := .overlay :: n.stack } := rfl

@[simp] theorem pop_apply : pop n = .ok () { n with stack := n.stack.tail } := rfl

@[simp] theorem hide_apply : hide n = .ok () { n with
    stack := n.stack.tail
    hidOther := n.hidOther || !n.stack.head?.any Route.isOverlay } := rfl

@[simp] theorem pushReplacementNamed_apply (name : String) : pushReplacementNamed name n =
    .ok () { n with replacements := n.replacements ++ [name] } := rfl

@[simp] theorem frame_apply : frame n = .ok () n.frame := rfl

@[simp] theorem await_apply (o : Outcome) : await o n =
    if o = .exception then .error .other n.frame else .ok (o = .success) n.frame := by
  cases o with
  | success | failure | exception => rfl

@[simp] theorem discard_await_apply (o : Outcome) : (discard (await o)) n =
    if o = .exception then .error .other n.frame else .ok () n.frame := by
  cases o with
  | success | failure | exception => rfl

@[simp] theorem discard_complete_apply (o : Outcome) : (discard (complete o)) n =
    if o = .exception then .error .other n else .ok () n := by
  cases o with
  | success | failure | exception => rfl

@[simp] theorem ite_apply (c : Prop) [Decidable c] (f g : Dart α) :
    (if c then f else g) n = if c then f n else g n := by
  split <;> rfl

@[simp] theorem spawn_apply (f : Dart Unit) : spawn f n = .ok () (ended f n) := by
  rw [spawn, tryCatch_apply, ended]
  cases f n with
  | ok a n | error e n => rfl

@[simp] theorem frame_hidOther : n.frame.hidOther = n.hidOther := rfl

@[simp] theorem frame_settled (stack : List Route) (hidOther : Bool) :
    Nav.frame { stack, hidOther } = { stack, hidOther } := rfl

end Run

/-- Routes that were there before a flow hold none of its overlays. -/
theorem not_mem_below (below : List Other) : .overlay ∉ below.map Route.other := by
  intro h
  obtain ⟨o, -, ho⟩ := List.mem_map.mp h
  cases ho

theorem balanced_of_below {n : Nav} (below : List Other) (hstack : n.stack = below.map .other)
    (hhid : n.hidOther = false) : Balanced n :=
  ⟨hstack ▸ not_mem_below below, hhid⟩

theorem not_balanced_of_top {n : Nav} (stack : List Route) (h : n.stack = .overlay :: stack) :
    ¬ Balanced n := fun hb => hb.gone (h ▸ List.mem_cons_self)

theorem not_balanced_of_hidOther {n : Nav} (h : n.hidOther = true) : ¬ Balanced n :=
  fun hb => Bool.false_ne_true (hb.hid.symm.trans h)

theorem not_mem_replacePage {stack : List Route} (h : .overlay ∉ stack) (name : String) :
    .overlay ∉ replacePage stack name := by
  intro hmem
  rcases List.mem_cons.mp hmem with heq | hrest
  · cases heq
  · exact h ((List.dropWhile_sublist _).subset (List.mem_of_mem_tail hrest))

/-- A frame takes nothing of the balance away. -/
theorem Balanced.frame {n : Nav} (h : Balanced n) : Balanced n.frame := by
  have gone : ∀ (names : List String) (stack : List Route), .overlay ∉ stack →
      .overlay ∉ names.foldl replacePage stack := by
    intro names
    induction names with
    | nil => exact fun stack hstack => hstack
    | cons name names ih =>
      exact fun stack hstack => ih _ (not_mem_replacePage hstack name)
  exact ⟨gone n.replacements n.stack h.gone, h.hid⟩

/-- A frame brings a page to the top, or nothing. -/
theorem frame_top {n : Nav} (h : n.stack.head?.any Route.isOverlay = false) :
    n.frame.stack.head?.any Route.isOverlay = false := by
  have top : ∀ (names : List String) (stack : List Route),
      stack.head?.any Route.isOverlay = false →
        (names.foldl replacePage stack).head?.any Route.isOverlay = false := by
    intro names
    induction names with
    | nil => exact fun stack hstack => hstack
    | cons name names ih => exact fun stack _ => ih _ rfl
  exact top n.replacements n.stack h

end LoadingOverlay
