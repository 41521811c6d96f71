import Mathlib.Data.List.Basic
import Mathlib.Data.List.Induction
import Mathlib.Data.List.Nodup

/-!
# Records that are updated key by key

A record is a total map from keys to values, with one value standing for an
absent key. An update names some keys and replaces exactly these; all other keys
keep their value. A history of updates is a list of them in order.
-/

namespace KeyedRecord

universe u v
variable {Key : Type u} {Val : Type v} [DecidableEq Key]

/-- Replace the named keys, keep the others. -/
def update (d : Key → Val) (p : List (Key × Val)) : Key → Val :=
  fun k => (p.lookup k).getD (d k)

def keys (p : List (Key × Val)) : List Key := p.map Prod.fst

/-- The updates one after the other, the first of the list first. -/
def updates (d : Key → Val) (ps : List (List (Key × Val))) : Key → Val :=
  ps.foldl update d

/-- The value the history wrote last under `k`, if it wrote `k` at all. -/
def lastWritten (ps : List (List (Key × Val))) (k : Key) : Option Val :=
  ps.foldl (fun v p => (p.lookup k).or v) none

theorem lookup_eq_none_iff {p : List (Key × Val)} {k : Key} :
    p.lookup k = none ↔ k ∉ keys p := by
  induction p with
  | nil => simp [keys]
  | cons a p ih =>
    obtain ⟨a, w⟩ := a
    by_cases h : k = a
    · simp [keys, h]
    · have hb : (k == a) = false := by simpa using h
      rw [List.lookup_cons, hb, ih]
      simp [keys, h]

/-- With distinct keys an entry of the update is what the lookup finds. -/
theorem lookup_eq_some_iff {p : List (Key × Val)} (distinct : (keys p).Nodup)
    {k : Key} {w : Val} : p.lookup k = some w ↔ (k, w) ∈ p := by
  induction p with
  | nil => simp
  | cons a p ih =>
    obtain ⟨a, w'⟩ := a
    have hnd := List.nodup_cons.mp (show (a :: keys p).Nodup from distinct)
    by_cases h : k = a
    · subst h
      have hnot : (k, w) ∉ p := fun hm => hnd.1 (List.mem_map.mpr ⟨_, hm, rfl⟩)
      simp [hnot, eq_comm]
    · have hb : (k == a) = false := by simpa using h
      rw [List.lookup_cons, hb, ih hnd.2]
      simp [h]

theorem update_of_not_mem {d : Key → Val} {p : List (Key × Val)} {k : Key}
    (h : k ∉ keys p) : update d p k = d k := by
  simp [update, lookup_eq_none_iff.mpr h]

theorem update_of_mem {d : Key → Val} {p : List (Key × Val)} (distinct : (keys p).Nodup)
    {k : Key} {w : Val} (h : (k, w) ∈ p) : update d p k = w := by
  simp [update, (lookup_eq_some_iff distinct).mpr h]

/-- An update is harmless for a key iff it does not name it or repeats its value. -/
theorem update_eq_self_iff {d : Key → Val} {p : List (Key × Val)}
    (distinct : (keys p).Nodup) {k : Key} :
    update d p k = d k ↔ ∀ w, (k, w) ∈ p → w = d k := by
  by_cases h : k ∈ keys p
  · obtain ⟨⟨_, w⟩, hw, rfl⟩ := List.mem_map.mp h
    rw [update_of_mem distinct hw]
    constructor
    · intro he w' hw'
      have hs := (lookup_eq_some_iff distinct).mpr hw
      have hs' := (lookup_eq_some_iff distinct).mpr hw'
      exact (Option.some.inj (hs'.symm.trans hs)).trans he
    · intro hall
      exact hall w hw
  · rw [update_of_not_mem h]
    refine ⟨fun _ w hw => ?_, fun _ => rfl⟩
    exact absurd (List.mem_map.mpr ⟨_, hw, rfl⟩) h

theorem updates_append (d : Key → Val) (ps qs : List (List (Key × Val))) :
    updates d (ps ++ qs) = updates (updates d ps) qs := by
  simp [updates, List.foldl_append]

theorem lastWritten_append (ps qs : List (List (Key × Val))) (k : Key) :
    lastWritten (ps ++ qs) k = (lastWritten qs k).or (lastWritten ps k) := by
  have general : ∀ v : Option Val,
      qs.foldl (fun v p => (p.lookup k).or v) v =
        (qs.foldl (fun v p => (p.lookup k).or v) none).or v := by
    induction qs with
    | nil => intro v; simp
    | cons q qs ih =>
      intro v
      rw [List.foldl_cons, List.foldl_cons, ih, ih ((q.lookup k).or none)]
      cases List.lookup k q <;> simp
  rw [lastWritten, List.foldl_append]
  exact general _

/-- A history leaves under each key what it wrote there last. -/
theorem updates_apply (d : Key → Val) (ps : List (List (Key × Val))) (k : Key) :
    updates d ps k = (lastWritten ps k).getD (d k) := by
  induction ps using List.reverseRecOn with
  | nil => rfl
  | append_singleton ps p ih =>
    rw [updates_append, lastWritten_append]
    simp only [updates, lastWritten, List.foldl_cons, List.foldl_nil, update]
    rw [show ps.foldl update d k = updates d ps k from rfl, ih]
    cases List.lookup k p <;> simp [lastWritten]

theorem updates_of_lastWritten {d : Key → Val} {ps : List (List (Key × Val))} {k : Key}
    {w : Val} (h : lastWritten ps k = some w) : updates d ps k = w := by
  rw [updates_apply, h, Option.getD_some]

end KeyedRecord
