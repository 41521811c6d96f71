import Mathlib.Data.List.Basic
import Mathlib.Data.List.Perm.Basic

/-!
# Calls in flight

The calls a program waits for are kept in a list; a reply may arrive for any of
them. `takeOut` removes the call a reply belongs to. The other calls keep their
multiplicity, which is all that later counting arguments use.
-/

namespace PendingCalls

universe u
variable {Call : Type u}

/-- The `i`-th call and the calls that stay in flight. -/
def takeOut (calls : List Call) (i : Nat) : Option (Call × List Call) :=
  (calls[i]?).map fun c => (c, calls.eraseIdx i)

theorem takeOut_perm {calls rest : List Call} {i : Nat} {c : Call}
    (h : takeOut calls i = some (c, rest)) : calls.Perm (c :: rest) := by
  obtain ⟨a, ha, he⟩ := Option.map_eq_some_iff.mp h
  obtain ⟨hi, rfl⟩ := List.getElem?_eq_some_iff.mp ha
  cases he
  exact (List.getElem_cons_eraseIdx_perm hi).symm

theorem mem_takeOut {calls rest : List Call} {i : Nat} {c : Call}
    (h : takeOut calls i = some (c, rest)) : c ∈ calls :=
  (takeOut_perm h).mem_iff.mpr List.mem_cons_self

theorem mem_of_mem_rest {calls rest : List Call} {i : Nat} {c d : Call}
    (h : takeOut calls i = some (c, rest)) (hd : d ∈ rest) : d ∈ calls :=
  (takeOut_perm h).mem_iff.mpr (List.mem_cons_of_mem c hd)

/-- A reply belongs to one call, so a condition on whichever call it belongs to is one on that. -/
theorem forall_takeOut_iff {calls rest : List Call} {i : Nat} {c : Call}
    {p : Call → List Call → Prop} (h : takeOut calls i = some (c, rest)) :
    (∀ d others, takeOut calls i = some (d, others) → p d others) ↔ p c rest := by
  constructor
  · exact fun hall => hall c rest h
  · intro hc d others hd
    cases h.symm.trans hd
    exact hc

/-- Counting before the reply is counting the call itself and then the others. -/
theorem countP_takeOut {calls rest : List Call} {i : Nat} {c : Call} (p : Call → Bool)
    (h : takeOut calls i = some (c, rest)) :
    calls.countP p = rest.countP p + if p c then 1 else 0 := by
  rw [(takeOut_perm h).countP_eq p, List.countP_cons]

/-- Two lists of calls that correspond are answered alike. -/
theorem takeOut_forall₂ {Call' : Type*} {R : Call → Call' → Prop} {calls rest : List Call}
    {calls' : List Call'} {i : Nat} {c : Call} (h : List.Forall₂ R calls calls')
    (htake : takeOut calls i = some (c, rest)) :
    ∃ c' rest', takeOut calls' i = some (c', rest') ∧ R c c' ∧ List.Forall₂ R rest rest' := by
  induction h generalizing i rest with
  | nil =>
    obtain ⟨_, hget, -⟩ := Option.map_eq_some_iff.mp htake
    cases hget
  | @cons a a' calls calls' ha hcalls ih =>
    obtain ⟨a, hget, he⟩ := Option.map_eq_some_iff.mp htake
    cases he
    cases i with
    | zero =>
      cases hget
      exact ⟨_, _, rfl, ha, hcalls⟩
    | succ i =>
      rw [List.getElem?_cons_succ] at hget
      obtain ⟨c', rest', htake', hc, hrest⟩ := ih (i := i) (by rw [takeOut, hget]; rfl)
      refine ⟨c', a' :: rest', ?_, hc, .cons ha hrest⟩
      obtain ⟨_, hget', he'⟩ := Option.map_eq_some_iff.mp htake'
      cases he'
      rw [takeOut, List.getElem?_cons_succ, hget']
      rfl

end PendingCalls
