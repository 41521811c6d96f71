import Mathlib.Data.List.Basic

/-!
# Iterators over lists that grow

An iterator remembers the length its list had when it was made, and a move is an
exception once the list has another length. A loop may wait between two moves,
and its list may be appended to meanwhile. What the loop has seen is described
relative to the list as it was at the beginning.
-/

namespace ListIterator

universe u
variable {α : Type u}

/-- The list is not part of the iterator: every move is given the list as it is then. -/
structure Iterator where
  length : Nat
  index : Nat := 0

inductive Move (α : Type u) where
  | exception
  | done
  | found (a : α) (next : Iterator)

/-- The first element with `p` and the index behind it; `i` is the index of the head. -/
def search (p : α → Bool) : List α → Nat → Option (Nat × α)
  | [], _ => none
  | a :: l, i => if p a then some (i + 1, a) else search p l (i + 1)

/-- Moves to the next element with `p`, passing the others without waiting. -/
def Iterator.moveTo (p : α → Bool) (it : Iterator) (l : List α) : Move α :=
  if l.length = it.length then
    match search p (l.drop it.index) it.index with
    | none => .done
    | some (i, a) => .found a { it with index := i }
  else .exception

/-- `seen` are the elements with `p` that the iterator has passed since the list was `start`. -/
structure Seen (p : α → Bool) (start : List α) (it : Iterator) (seen : List α) : Prop where
  length : start.length = it.length
  passed : seen = (start.take it.index).filter p

theorem search_eq_none {p : α → Bool} {l : List α} {i : Nat} (h : search p l i = none) :
    l.filter p = [] := by
  induction l generalizing i with
  | nil => rfl
  | cons a l ih =>
    rw [search] at h
    split at h
    · cases h
    · case isFalse ha =>
      rw [List.filter_cons_of_neg ha]
      exact ih h

theorem search_eq_some {p : α → Bool} {l : List α} {i j : Nat} {a : α}
    (h : search p l i = some (j, a)) :
    ∃ k, j = i + k ∧ (l.take k).filter p = [a] := by
  induction l generalizing i with
  | nil => cases h
  | cons b l ih =>
    rw [search] at h
    split at h
    · case isTrue hb =>
      cases h
      exact ⟨1, rfl, by simp [hb]⟩
    · case isFalse hb =>
      obtain ⟨k, rfl, hk⟩ := ih h
      refine ⟨k + 1, by omega, ?_⟩
      rw [List.take_succ_cons, List.filter_cons_of_neg hb]
      exact hk

theorem seen_start (p : α → Bool) (start : List α) : Seen p start ⟨start.length, 0⟩ [] :=
  ⟨rfl, by simp⟩

section Move

variable {p : α → Bool} {start l seen : List α} {it : Iterator}

/-- A list that was only appended to and has its old length is the old list. -/
theorem Seen.eq_start (h : Seen p start it seen) (grown : start <+: l)
    (hlength : l.length = it.length) : l = start :=
  (grown.eq_of_length (h.length.trans hlength.symm)).symm

/-- A loop that ends without an exception has seen everything. -/
theorem Seen.of_done (h : Seen p start it seen) (grown : start <+: l)
    (hdone : it.moveTo p l = .done) : seen = start.filter p := by
  rw [Iterator.moveTo] at hdone
  split at hdone
  · case isTrue hlength =>
    have same := h.eq_start grown hlength
    subst same
    split at hdone
    · case _ hsearch =>
      rw [h.passed, ← List.append_nil (List.filter p _), ← search_eq_none hsearch,
        ← List.filter_append, List.take_append_drop]
    · cases hdone
  · cases hdone

theorem Seen.of_found (h : Seen p start it seen) (grown : start <+: l) {a : α} {next : Iterator}
    (hfound : it.moveTo p l = .found a next) :
    Seen p start next (seen ++ [a]) := by
  rw [Iterator.moveTo] at hfound
  split at hfound
  · case isTrue hlength =>
    have same := h.eq_start grown hlength
    subst same
    split at hfound
    · cases hfound
    · case _ i b hsearch =>
      cases hfound
      obtain ⟨k, rfl, hk⟩ := search_eq_some hsearch
      refine ⟨h.length, ?_⟩
      rw [List.take_add, List.filter_append, ← h.passed, hk]
  · cases hfound

theorem Seen.mem (h : Seen p start it seen) {a : α} (ha : a ∈ seen) : a ∈ start ∧ p a = true := by
  rw [h.passed] at ha
  obtain ⟨hmem, hp⟩ := List.mem_filter.mp ha
  exact ⟨List.mem_of_mem_take hmem, hp⟩

end Move

end ListIterator
