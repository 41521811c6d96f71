import AsmWt.KeyedRecord
import Mathlib.Data.List.Count

/-!
# Stores of records under unique identifiers

A store is a list of records with pairwise different identifiers. A record can
be modified in place, which fails for an unknown identifier, and a record can be
added under a fresh identifier. Counting the records that satisfy a test is
described by how the one affected record changes.
-/

namespace DocStore

universe u v
variable {Id : Type u} {Rec : Type v}

structure Store (Id : Type u) (Rec : Type v) where
  entries : List (Id × Rec)
  unique : (entries.map Prod.fst).Nodup

namespace Store

/-- The number of records that satisfy the test. -/
def count (s : Store Id Rec) (p : Rec → Bool) : Nat :=
  s.entries.countP fun e => p e.2

/-- Records that are all one record are counted at most once. -/
theorem count_le_one {s : Store Id Rec} {p : Rec → Bool}
    (h : ∀ e ∈ s.entries, ∀ f ∈ s.entries, p e.2 = true → p f.2 = true → e.1 = f.1) :
    s.count p ≤ 1 := by
  have hsub : (s.entries.filter fun e => p e.2).Sublist s.entries := List.filter_sublist
  have hnodup := (hsub.map Prod.fst).nodup s.unique
  unfold count
  rw [List.countP_eq_length_filter]
  have hmem : ∀ e ∈ s.entries.filter fun e => p e.2, e ∈ s.entries ∧ p e.2 = true :=
    fun e he => List.mem_filter.mp he
  generalize s.entries.filter (fun e => p e.2) = found at hnodup hmem
  rcases found with _ | ⟨e, _ | ⟨f, rest⟩⟩
  · simp
  · simp
  · obtain ⟨he, hpe⟩ := hmem e (by simp)
    obtain ⟨hf, hpf⟩ := hmem f (by simp)
    have heq := h e he f hf hpe hpf
    simp [heq] at hnodup

theorem ext_entries {s t : Store Id Rec} (h : s.entries = t.entries) : s = t := by
  cases s
  cases h
  rfl

variable [DecidableEq Id]

def get? (s : Store Id Rec) (i : Id) : Option Rec := s.entries.lookup i

def replaceIn (i : Id) (f : Rec → Rec) (e : Id × Rec) : Id × Rec :=
  if e.1 = i then (e.1, f e.2) else e

@[simp] theorem replaceIn_fst (i : Id) (f : Rec → Rec) (e : Id × Rec) :
    (replaceIn i f e).1 = e.1 := by
  unfold replaceIn
  split <;> rfl

/-- Change the record with identifier `i`; there has to be one. -/
def modify (s : Store Id Rec) (i : Id) (f : Rec → Rec) : Option (Store Id Rec) :=
  if i ∈ s.entries.map Prod.fst then
    some ⟨s.entries.map (replaceIn i f), by
      rw [List.map_map, show Prod.fst ∘ replaceIn i f = Prod.fst from
        funext (replaceIn_fst i f)]
      exact s.unique⟩
  else none

/-- Add a record; its identifier must not be in use. -/
def insert (s : Store Id Rec) (i : Id) (r : Rec) : Option (Store Id Rec) :=
  if h : i ∈ s.entries.map Prod.fst then none
  else some ⟨(i, r) :: s.entries, List.nodup_cons.mpr ⟨h, s.unique⟩⟩

theorem get?_eq_some_iff {s : Store Id Rec} {i : Id} {r : Rec} :
    s.get? i = some r ↔ (i, r) ∈ s.entries :=
  KeyedRecord.lookup_eq_some_iff s.unique

theorem get?_isSome_iff {s : Store Id Rec} {i : Id} :
    (s.get? i).isSome ↔ i ∈ s.entries.map Prod.fst := by
  rw [Option.isSome_iff_exists]
  simp only [get?_eq_some_iff, List.mem_map, Prod.exists, exists_and_right, exists_eq_right]

/-- What a modification does to every record, and when it is possible. -/
theorem modify_eq_some {s t : Store Id Rec} {i : Id} {f : Rec → Rec}
    (h : s.modify i f = some t) :
    (∃ r, s.get? i = some r) ∧ t.entries = s.entries.map (replaceIn i f) := by
  unfold modify at h
  split at h
  · case isTrue hi =>
    cases h
    exact ⟨Option.isSome_iff_exists.mp (get?_isSome_iff.mpr hi), rfl⟩
  · cases h

theorem mem_modify {s t : Store Id Rec} {i : Id} {f : Rec → Rec}
    (h : s.modify i f = some t) {j : Id} {q : Rec} :
    (j, q) ∈ t.entries ↔
      (j ≠ i ∧ (j, q) ∈ s.entries) ∨ (j = i ∧ ∃ r, (i, r) ∈ s.entries ∧ q = f r) := by
  rw [(modify_eq_some h).2, List.mem_map]
  constructor
  · rintro ⟨⟨k, r⟩, hk, he⟩
    unfold replaceIn at he
    split at he
    · case isTrue hi =>
      subst hi
      cases he
      exact Or.inr ⟨rfl, r, hk, rfl⟩
    · case isFalse hi =>
      cases he
      exact Or.inl ⟨hi, hk⟩
  · rintro (⟨hne, hj⟩ | ⟨rfl, r, hr, rfl⟩)
    · exact ⟨(j, q), hj, by simp [replaceIn, hne]⟩
    · exact ⟨(j, r), hr, by simp [replaceIn]⟩

/-- A record that is there can be modified, and is what the function makes of it afterwards. -/
theorem modify_of_get? {s : Store Id Rec} {i : Id} {r : Rec} (h : s.get? i = some r)
    (f : Rec → Rec) : ∃ t, s.modify i f = some t ∧ t.get? i = some (f r) := by
  have hi : i ∈ s.entries.map Prod.fst := by
    rw [← get?_isSome_iff, h]
    rfl
  obtain ⟨t, ht⟩ : ∃ t, s.modify i f = some t := ⟨_, if_pos hi⟩
  refine ⟨t, ht, get?_eq_some_iff.mpr ((mem_modify ht).mpr ?_)⟩
  exact Or.inr ⟨rfl, r, get?_eq_some_iff.mp h, rfl⟩

/-- A modification changes a count by what it does to the one record. -/
theorem count_modify {s t : Store Id Rec} {i : Id} {f : Rec → Rec} {r : Rec}
    (h : s.modify i f = some t) (hr : s.get? i = some r) (p : Rec → Bool) :
    t.count p + (if p r then 1 else 0) = s.count p + if p (f r) then 1 else 0 := by
  have hmem := get?_eq_some_iff.mp hr
  unfold count
  rw [(modify_eq_some h).2]
  obtain ⟨es, hu⟩ := s
  clear h hr
  change (i, r) ∈ es at hmem
  change (es.map (replaceIn i f)).countP _ + _ = es.countP _ + _
  induction es with
  | nil => cases hmem
  | cons e es ih =>
    obtain ⟨j, q⟩ := e
    obtain ⟨hj, hu⟩ := List.nodup_cons.mp (show (j :: es.map Prod.fst).Nodup from hu)
    rw [List.map_cons, List.countP_cons, List.countP_cons]
    rcases List.mem_cons.mp hmem with he | hmem
    · cases he
      have others : ∀ e ∈ es, replaceIn i f e = id e := by
        rintro ⟨k, w⟩ hk
        have hne : k ≠ i := by
          rintro rfl
          exact hj (List.mem_map.mpr ⟨_, hk, rfl⟩)
        simp [replaceIn, hne]
      have rest : es.map (replaceIn i f) = es :=
        (List.map_congr_left others).trans (List.map_id es)
      rw [rest]
      simp only [replaceIn, if_true]
      omega
    · have hne : j ≠ i := by
        rintro rfl
        exact hj (List.mem_map.mpr ⟨_, hmem, rfl⟩)
      have := ih hu hmem
      simp only [replaceIn, if_neg hne]
      omega

/-- A modification that is passed over when there is no such record. -/
def modifyIfThere (s : Store Id Rec) (i : Id) (f : Rec → Rec) : Store Id Rec :=
  (s.modify i f).getD s

theorem entries_modifyIfThere (s : Store Id Rec) (i : Id) (f : Rec → Rec) :
    (s.modifyIfThere i f).entries = s.entries.map (replaceIn i f) := by
  rw [modifyIfThere]
  cases h : s.modify i f with
  | some t => exact (modify_eq_some h).2
  | none =>
    have absent : i ∉ s.entries.map Prod.fst := fun hi => by
      rw [modify, if_pos hi] at h
      cases h
    have same : ∀ e ∈ s.entries, replaceIn i f e = id e := fun e he => by
      rw [replaceIn, if_neg]
      · rfl
      · rintro rfl
        exact absent (List.mem_map.mpr ⟨e, he, rfl⟩)
    rw [List.map_congr_left same, List.map_id]
    rfl

theorem ids_modifyIfThere (s : Store Id Rec) (i : Id) (f : Rec → Rec) :
    (s.modifyIfThere i f).entries.map Prod.fst = s.entries.map Prod.fst := by
  rw [entries_modifyIfThere, List.map_map]
  exact List.map_congr_left fun e _ => replaceIn_fst i f e

theorem get?_modifyIfThere (s : Store Id Rec) (i j : Id) (f : Rec → Rec) :
    (s.modifyIfThere i f).get? j = (s.get? j).map fun r => if j = i then f r else r := by
  rw [get?, get?, entries_modifyIfThere]
  induction s.entries with
  | nil => rfl
  | cons e es ih =>
    obtain ⟨k, r⟩ := e
    rw [List.map_cons, replaceIn]
    by_cases hj : j = k
    · subst hj
      by_cases hi : j = i
      · simp [hi]
      · simp [hi]
    · have other : (j == k) = false := beq_eq_false_iff_ne.mpr hj
      split
      · rw [List.lookup_cons, List.lookup_cons, other, ih]
      · rw [List.lookup_cons, List.lookup_cons, other, ih]

/-- Modifications of two records commute, and those of one record as far as they do there. -/
theorem modifyIfThere_comm {f g : Rec → Rec} {i j : Id} (comm : i = j → ∀ r, f (g r) = g (f r))
    (s : Store Id Rec) : (s.modifyIfThere i f).modifyIfThere j g =
      (s.modifyIfThere j g).modifyIfThere i f := by
  apply ext_entries
  simp only [entries_modifyIfThere, List.map_map]
  refine List.map_congr_left fun e _ => ?_
  simp only [Function.comp_apply, replaceIn]
  by_cases hi : e.1 = i
  · by_cases hj : e.1 = j
    · simp [hi, ← hj, comm (hi.symm.trans hj)]
    · simp [hi, show ¬ i = j from fun h => hj (hi.trans h)]
  · by_cases hj : e.1 = j
    · simp [hj, show ¬ j = i from fun h => hi (hj.trans h)]
    · simp [hi, hj]

theorem entries_insert {s t : Store Id Rec} {i : Id} {r : Rec} (h : s.insert i r = some t) :
    t.entries = (i, r) :: s.entries := by
  unfold insert at h
  split at h
  · cases h
  · cases h
    rfl

theorem mem_insert {s t : Store Id Rec} {i : Id} {r : Rec}
    (h : s.insert i r = some t) {j : Id} {q : Rec} :
    (j, q) ∈ t.entries ↔ (j = i ∧ q = r) ∨ (j, q) ∈ s.entries := by
  unfold insert at h
  split at h
  · cases h
  · cases h
    simp

theorem count_insert {s t : Store Id Rec} {i : Id} {r : Rec} (h : s.insert i r = some t)
    (p : Rec → Bool) : t.count p = s.count p + if p r then 1 else 0 := by
  unfold insert at h
  split at h
  · cases h
  · cases h
    exact List.countP_cons

/-- Other records are found as before. -/
theorem get?_insert_of_get? {s t : Store Id Rec} {i j : Id} {r q : Rec}
    (h : s.insert i r = some t) (hq : s.get? j = some q) : t.get? j = some q :=
  get?_eq_some_iff.mpr ((mem_insert h).mpr (Or.inr (get?_eq_some_iff.mp hq)))

/-- Remove the record with identifier `i`, if there is one. -/
def remove (s : Store Id Rec) (i : Id) : Store Id Rec :=
  ⟨s.entries.filter fun e => e.1 ≠ i, (List.filter_sublist.map Prod.fst).nodup s.unique⟩

theorem mem_remove {s : Store Id Rec} {i j : Id} {q : Rec} :
    (j, q) ∈ (s.remove i).entries ↔ (j, q) ∈ s.entries ∧ j ≠ i := by
  simp [remove]

end Store

end DocStore
