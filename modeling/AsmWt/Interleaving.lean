import Mathlib.Data.List.Basic

/-!
# Runs of event-driven systems

A system is given by a partial step function: an event either happens in a
state or cannot happen there. A run is any finite list of events, so a
statement about all runs is a statement about all interleavings of the actors
behind the events. Nothing here refers to a particular system.
-/

namespace Interleaving

universe u v
variable {State : Type u} {Event : Type v}

/-- Execute the events in order; `none` as soon as one of them cannot happen. -/
def run (step : State → Event → Option State) : State → List Event → Option State
  | s, [] => some s
  | s, e :: es => (step s e).bind fun t => run step t es

/-- `P` holds in the first state and after every event that happens. -/
def EveryState (step : State → Event → Option State) (P : State → Prop) :
    State → List Event → Prop
  | s, [] => P s
  | s, e :: es => P s ∧ ∀ t, step s e = some t → EveryState step P t es

/-- `C` holds of every event that happens, in the state it happens in. -/
def EveryStep (step : State → Event → Option State) (C : State → Event → Prop) :
    State → List Event → Prop
  | _, [] => True
  | s, e :: es => ∀ t, step s e = some t → C s e ∧ EveryStep step C t es

/-- The states before and after the event are related by `R`. -/
def Moves (step : State → Event → Option State) (R : State → State → Prop) :
    State → Event → Prop :=
  fun s e => ∀ t, step s e = some t → R s t

variable {step : State → Event → Option State}

/-- A run can be interrupted anywhere. -/
theorem run_append (s : State) (es es' : List Event) :
    run step s (es ++ es') = (run step s es).bind fun t => run step t es' := by
  induction es generalizing s with
  | nil => rfl
  | cons e es ih =>
    rw [List.cons_append, run, run, Option.bind_assoc]
    exact Option.bind_congr fun t _ => ih t

/-- If another system can follow every step, by as many steps as it likes, it can follow every
run. -/
theorem run_followed {State' : Type*} {Event' : Type*} {step' : State' → Event' → Option State'}
    {R : State → State' → Prop}
    (follow : ∀ s e t u, R s u → step s e = some t → ∃ es' v, run step' u es' = some v ∧ R t v)
    {s t : State} {u : State'} {es : List Event} (h : R s u) (hr : run step s es = some t) :
    ∃ es' v, run step' u es' = some v ∧ R t v := by
  induction es generalizing s u with
  | nil =>
    cases hr
    exact ⟨[], u, rfl, h⟩
  | cons e es ih =>
    obtain ⟨w, hw, hr⟩ := Option.bind_eq_some_iff.mp hr
    obtain ⟨first, v, hfirst, hv⟩ := follow s e w u h hw
    obtain ⟨rest, x, hrest, hx⟩ := ih hv hr
    refine ⟨first ++ rest, x, ?_, hx⟩
    rw [run_append, hfirst, Option.bind_some, hrest]

/-- The same where every step is followed by the step of one event. -/
theorem run_map_followed {State' : Type*} {Event' : Type*}
    {step' : State' → Event' → Option State'} {R : State → State' → Prop} (f : Event → Event')
    (follow : ∀ s e t u, R s u → step s e = some t → ∃ v, step' u (f e) = some v ∧ R t v)
    {s t : State} {u : State'} {es : List Event} (h : R s u) (hr : run step s es = some t) :
    ∃ v, run step' u (es.map f) = some v ∧ R t v := by
  induction es generalizing s u with
  | nil =>
    cases hr
    exact ⟨u, rfl, h⟩
  | cons e es ih =>
    obtain ⟨w, hw, hr⟩ := Option.bind_eq_some_iff.mp hr
    obtain ⟨v, hv, hwv⟩ := follow s e w u h hw
    obtain ⟨x, hx, htx⟩ := ih hwv hr
    refine ⟨x, ?_, htx⟩
    rw [List.map_cons, run, hv, Option.bind_some, hx]

/-- A step has one outcome, so a statement about its outcomes is one about that outcome. -/
theorem moves_iff {R : State → State → Prop} {s t : State} {e : Event}
    (h : step s e = some t) : Moves step R s e ↔ R s t := by
  constructor
  · exact fun hm => hm t h
  · intro hR u hu
    cases h.symm.trans hu
    exact hR

/-- A condition that can be checked in a state can be checked along a run. -/
instance decidableEveryStep {C : State → Event → Prop} [∀ s e, Decidable (C s e)] :
    ∀ (s : State) (es : List Event), Decidable (EveryStep step C s es)
  | _, [] => isTrue trivial
  | s, e :: es =>
    match h : step s e with
    | none => isTrue fun _ ht => nomatch h.symm.trans ht
    | some t =>
      have := decidableEveryStep (C := C) t es
      decidable_of_iff (C s e ∧ EveryStep step C t es) <| by
        constructor
        · intro hc u hu
          cases h.symm.trans hu
          exact hc
        · exact fun hc => hc t h

theorem EveryState.head {P : State → Prop} {s : State} {es : List Event}
    (h : EveryState step P s es) : P s := by
  cases es with
  | nil => exact h
  | cons e es => exact h.1

/-- A property of every state of a run holds in the state a run ends in. -/
theorem EveryState.of_run {P : State → Prop} {s t : State} {es : List Event}
    (h : EveryState step P s es) (hr : run step s es = some t) : P t := by
  induction es generalizing s with
  | nil =>
    cases hr
    exact h
  | cons e es ih =>
    obtain ⟨u, hu, hr⟩ := Option.bind_eq_some_iff.mp hr
    exact ih (h.2 u hu) hr

/-- What every step keeps holds at the end of a run. -/
theorem inv_of_run {Inv : State → Prop} (keep : ∀ s e t, Inv s → step s e = some t → Inv t)
    {s t : State} {es : List Event} (hs : Inv s) (hr : run step s es = some t) : Inv t := by
  induction es generalizing s with
  | nil =>
    cases hr
    exact hs
  | cons e es ih =>
    obtain ⟨u, hu, hr⟩ := Option.bind_eq_some_iff.mp hr
    exact ih (keep s e u hs hu) hr

/-- One bad final state refutes a claim about every state. -/
theorem not_everyState_of_run {P : State → Prop} {s : State} {es : List Event}
    (bad : State → Bool) (hbad : ∀ t, bad t = true → ¬ P t)
    (hr : (run step s es).any bad = true) : ¬ EveryState step P s es := by
  intro h
  cases ht : run step s es with
  | none => rw [ht] at hr; cases hr
  | some t =>
    rw [ht] at hr
    exact hbad t hr (h.of_run ht)

theorem EveryState.mono {P Q : State → Prop} (hPQ : ∀ s, P s → Q s) {s : State}
    {es : List Event} (h : EveryState step P s es) : EveryState step Q s es := by
  induction es generalizing s with
  | nil => exact hPQ s h
  | cons e es ih => exact ⟨hPQ s h.1, fun t ht => ih (h.2 t ht)⟩

/-- The invariant rule: `C` is what every step of the run is allowed to assume. -/
theorem everyState_of_everyStep {Inv : State → Prop} {C : State → Event → Prop}
    (keep : ∀ s e t, Inv s → C s e → step s e = some t → Inv t) {s : State}
    {es : List Event} (hs : Inv s) (hC : EveryStep step C s es) :
    EveryState step Inv s es := by
  induction es generalizing s with
  | nil => exact hs
  | cons e es ih =>
    refine ⟨hs, fun t ht => ?_⟩
    obtain ⟨hc, hrest⟩ := hC t ht
    exact ih (keep s e t hs hc ht) hrest

/-- A condition on the events alone. -/
theorem everyStep_of_forall {p : Event → Prop} {es : List Event} (h : ∀ e ∈ es, p e) (s : State) :
    EveryStep step (fun _ e => p e) s es := by
  induction es generalizing s with
  | nil => trivial
  | cons e es ih =>
    obtain ⟨he, hes⟩ := List.forall_mem_cons.mp h
    exact fun t _ => ⟨he, ih hes t⟩

/-- What every step keeps holds in every state. -/
theorem everyState_of_inv {Inv : State → Prop}
    (keep : ∀ s e t, Inv s → step s e = some t → Inv t) {s : State} (hs : Inv s)
    (es : List Event) : EveryState step Inv s es :=
  everyState_of_everyStep (fun s e t h _ ht => keep s e t h ht) hs
    (everyStep_of_forall (fun _ _ => trivial) s)

/-- Under the same invariant, what each step does follows for every step of the run. -/
theorem everyStep_of_everyStep {Inv : State → Prop} {C D : State → Event → Prop}
    (keep : ∀ s e t, Inv s → C s e → step s e = some t → Inv t)
    (does : ∀ s e t, Inv s → C s e → step s e = some t → D s e) {s : State}
    {es : List Event} (hs : Inv s) (hC : EveryStep step C s es) :
    EveryStep step D s es := by
  induction es generalizing s with
  | nil => trivial
  | cons e es ih =>
    intro t ht
    obtain ⟨hc, hrest⟩ := hC t ht
    exact ⟨does s e t hs hc ht, ih (keep s e t hs hc ht) hrest⟩

theorem EveryStep.mono {C D : State → Event → Prop} (hCD : ∀ s e, C s e → D s e) {s : State}
    {es : List Event} (h : EveryStep step C s es) : EveryStep step D s es := by
  induction es generalizing s with
  | nil => trivial
  | cons e es ih =>
    intro t ht
    obtain ⟨hc, hrest⟩ := h t ht
    exact ⟨hCD s e hc, ih hrest⟩

/-- Conditions that agree on every step that happens agree on whole runs. -/
theorem everyStep_congr {C D : State → Event → Prop}
    (agree : ∀ s e t, step s e = some t → (C s e ↔ D s e)) (s : State) (es : List Event) :
    EveryStep step C s es ↔ EveryStep step D s es := by
  induction es generalizing s with
  | nil => exact Iff.rfl
  | cons e es ih =>
    constructor
    · intro h t ht
      exact ⟨(agree s e t ht).mp (h t ht).1, (ih t).mp (h t ht).2⟩
    · intro h t ht
      exact ⟨(agree s e t ht).mpr (h t ht).1, (ih t).mpr (h t ht).2⟩

/-- Conditions that agree next to an invariant, which the first of them keeps, agree on whole
runs. -/
theorem everyStep_iff_of_inv {Inv : State → Prop} {C D : State → Event → Prop}
    (keep : ∀ s e t, Inv s → C s e → step s e = some t → Inv t)
    (agree : ∀ s e t, Inv s → step s e = some t → (C s e ↔ D s e)) {s : State} (hs : Inv s)
    (es : List Event) : EveryStep step C s es ↔ EveryStep step D s es := by
  induction es generalizing s with
  | nil => exact Iff.rfl
  | cons e es ih =>
    constructor
    · intro h t ht
      obtain ⟨hc, hrest⟩ := h t ht
      exact ⟨(agree s e t hs ht).mp hc, (ih (keep s e t hs hc ht)).mp hrest⟩
    · intro h t ht
      obtain ⟨hd, hrest⟩ := h t ht
      have hc := (agree s e t hs ht).mpr hd
      exact ⟨hc, (ih (keep s e t hs hc ht)).mpr hrest⟩

/-- What holds of every step of a run holds of the step after a part of it. -/
theorem EveryStep.of_run {C : State → Event → Prop} {s u t : State} {es : List Event} {e : Event}
    (h : EveryStep step C s (es ++ [e])) (hr : run step s es = some u)
    (he : step u e = some t) : C u e := by
  induction es generalizing s with
  | nil =>
    cases hr
    exact (h t he).1
  | cons f es ih =>
    obtain ⟨v, hv, hr⟩ := Option.bind_eq_some_iff.mp hr
    exact ih (h v hv).2 hr

/-- One bad last step refutes a claim about every step. -/
theorem not_everyStep_of_run {C : State → Event → Prop} {s : State} {es : List Event} {e : Event}
    (bad : State → State → Bool) (hbad : ∀ u t, step u e = some t → bad u t = true → ¬ C u e)
    (hr : ((run step s es).any fun u => (step u e).any (bad u)) = true) :
    ¬ EveryStep step C s (es ++ [e]) := by
  intro h
  cases hu : run step s es with
  | none => rw [hu] at hr; cases hr
  | some u =>
    rw [hu, Option.any_some] at hr
    cases ht : step u e with
    | none => rw [ht] at hr; cases hr
    | some t =>
      rw [ht] at hr
      exact hbad u t ht hr (h.of_run hu ht)

/-- A condition that decides, step by step and next to an invariant, whether `P` survives decides
it for whole runs. -/
theorem everyState_iff_everyStep_of_inv {P Inv : State → Prop} {C : State → Event → Prop}
    (keep : ∀ s e t, P s → Inv s → step s e = some t → Inv t)
    (decides : ∀ s e t, P s → Inv s → step s e = some t → (P t ↔ C s e)) {s : State}
    (hs : P s) (hinv : Inv s) (es : List Event) :
    EveryState step P s es ↔ EveryStep step C s es := by
  induction es generalizing s with
  | nil => exact iff_of_true hs trivial
  | cons e es ih =>
    constructor
    · intro h t ht
      have hP := (h.2 t ht).head
      exact ⟨(decides s e t hs hinv ht).mp hP, (ih hP (keep s e t hs hinv ht)).mp (h.2 t ht)⟩
    · intro h
      refine ⟨hs, fun t ht => ?_⟩
      obtain ⟨hc, hrest⟩ := h t ht
      have hP := (decides s e t hs hinv ht).mpr hc
      exact (ih hP (keep s e t hs hinv ht)).mpr hrest

/-- The same rule where `P` needs no other invariant. -/
theorem everyState_iff_everyStep {P : State → Prop} {C : State → Event → Prop}
    (decides : ∀ s e t, P s → step s e = some t → (P t ↔ C s e)) {s : State}
    (hs : P s) (es : List Event) :
    EveryState step P s es ↔ EveryStep step C s es :=
  everyState_iff_everyStep_of_inv (fun _ _ _ _ _ _ => trivial)
    (fun s e t hP _ ht => decides s e t hP ht) hs trivial es

end Interleaving
