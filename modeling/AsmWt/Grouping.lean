import Mathlib.Data.List.Nodup
import Mathlib.Data.List.Perm.Basic

/-!
# Grouping a list by a key

The elements of a list are sorted into groups, one for each key of a list of
keys. Elements without a key belong nowhere. The groups partition the others if
every key that occurs is listed, and listed once.
-/

namespace Grouping

universe u v
variable {α : Type u} {κ : Type v} [DecidableEq κ]

/-- The elements with this key, in their order. -/
def group (key : α → Option κ) (l : List α) (k : κ) : List α := l.filter fun a => key a = some k

/-- The groups of the keys hold every element that has a key once, in the group of its key, and in
the order of the list. -/
structure Partitions (key : α → Option κ) (l : List α) (keys : List κ) (groups : List (List α)) :
    Prop where
  length : groups.length = keys.length
  ordered : ∀ g ∈ groups, g.Sublist l
  own : ∀ (i : Nat) k g, keys[i]? = some k → groups[i]? = some g → ∀ a ∈ g, key a = some k
  once : ∀ a ∈ l, ∀ k, key a = some k → ∃! i : Nat, ∃ g, groups[i]? = some g ∧ a ∈ g
  complete : groups.flatten.Perm (l.filter fun a => (key a).isSome)

theorem mem_group {key : α → Option κ} {l : List α} {k : κ} {a : α} :
    a ∈ group key l k ↔ a ∈ l ∧ key a = some k := by
  simp [group]

theorem perm_flatten_groups {key : α → Option κ} {keys : List κ} (distinct : keys.Nodup)
    (l : List α) :
    (keys.map (group key l)).flatten.Perm (l.filter fun a => (key a).any (· ∈ keys)) := by
  induction keys with
  | nil => simp
  | cons k keys ih =>
    obtain ⟨other, distinct⟩ := List.nodup_cons.mp distinct
    have first : (l.filter fun a => (key a).any (· ∈ k :: keys)).filter (fun a => key a = some k) =
        group key l k := by
      rw [List.filter_filter, group]
      refine List.filter_congr fun a _ => ?_
      cases key a with
      | none => rfl
      | some k' => by_cases h : k' = k <;> simp [h]
    have rest : (l.filter fun a => (key a).any (· ∈ k :: keys)).filter
        (fun a => !decide (key a = some k)) = l.filter fun a => (key a).any (· ∈ keys) := by
      rw [List.filter_filter]
      refine List.filter_congr fun a _ => ?_
      cases key a with
      | none => rfl
      | some k' => by_cases h : k' = k <;> simp [h, other]
    rw [List.map_cons, List.flatten_cons]
    refine List.Perm.trans ?_ (List.filter_append_perm (fun a => key a = some k) _)
    rw [first, rest]
    exact (ih distinct).append_left _

/-- Keys that are listed once and cover the list partition it. -/
theorem partitions_group {key : α → Option κ} {l : List α} {keys : List κ} (distinct : keys.Nodup)
    (covered : ∀ a ∈ l, ∀ k, key a = some k → k ∈ keys) :
    Partitions key l keys (keys.map (group key l)) where
  length := List.length_map _
  ordered := by
    intro g hg
    obtain ⟨k, -, rfl⟩ := List.mem_map.mp hg
    exact List.filter_sublist
  own := by
    intro i k g hk hg a ha
    rw [List.getElem?_map, hk] at hg
    cases hg
    exact (mem_group.mp ha).2
  once := by
    intro a ha k hk
    obtain ⟨i, hi, rfl⟩ := List.getElem_of_mem (covered a ha k hk)
    refine ⟨i, ⟨group key l keys[i], by simp [hi], mem_group.mpr ⟨ha, hk⟩⟩, ?_⟩
    rintro j ⟨g, hg, hag⟩
    rw [List.getElem?_map] at hg
    obtain ⟨k', hk', rfl⟩ := Option.map_eq_some_iff.mp hg
    obtain ⟨hj, rfl⟩ := List.getElem?_eq_some_iff.mp hk'
    have same : keys[j] = keys[i] := Option.some.inj ((mem_group.mp hag).2.symm.trans hk)
    exact (distinct.getElem_inj_iff).mp same
  complete := by
    refine (perm_flatten_groups distinct l).trans (List.Perm.of_eq ?_)
    refine List.filter_congr fun a ha => ?_
    cases hk : key a with
    | none => rfl
    | some k => simp [covered a ha k hk]

end Grouping
