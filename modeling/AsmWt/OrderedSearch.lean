import Mathlib.Data.List.Sort

/-!
# The first hit in an ordered list

A search that walks through a sorted list ends at its first hit. When the order
tells any two elements apart, the first hit is the one with no hit below it,
which says what the search finds without mentioning the list's order.
-/

namespace OrderedSearch

universe u v
variable {α : Type u} {β : Type v}

/-- A search is stopped by an element that has no hit below it. -/
theorem findSome?_sorted_eq_some_iff {le : α → α → Prop} {l : List α} (sorted : l.Pairwise le)
    (antisymm : ∀ a ∈ l, ∀ b ∈ l, le a b → le b a → a = b) (distinct : l.Nodup)
    {f : α → Option β} {b : β} :
    l.findSome? f = some b ↔
      ∃ a ∈ l, f a = some b ∧ ∀ x ∈ l, x ≠ a → le x a → f x = none := by
  rw [List.findSome?_eq_some_iff]
  constructor
  · rintro ⟨pre, a, post, rfl, ha, hpre⟩
    refine ⟨a, by simp, ha, fun x hx hne hle => ?_⟩
    rcases List.mem_append.mp hx with hx | hx
    · exact hpre x hx
    · have hpost : x ∈ post := (List.mem_cons.mp hx).resolve_left hne
      have hge : le a x := (List.pairwise_cons.mp (List.pairwise_append.mp sorted).2.1).1 x hpost
      exact absurd (antisymm x (by simp [hpost]) a (by simp) hle hge) hne
  · rintro ⟨a, hmem, ha, hbelow⟩
    obtain ⟨pre, post, rfl⟩ := List.append_of_mem hmem
    refine ⟨pre, a, post, rfl, ha, fun x hx => ?_⟩
    have hle : le x a := (List.pairwise_append.mp sorted).2.2 x hx a List.mem_cons_self
    have hne : x ≠ a := by
      rintro rfl
      exact List.disjoint_of_nodup_append distinct hx List.mem_cons_self
    exact hbelow x (by simp [hx]) hne hle

end OrderedSearch
