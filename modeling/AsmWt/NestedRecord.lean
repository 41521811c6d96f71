import Mathlib.Logic.Function.Basic

/-!
# Records inside records

A node is a leaf or a record of nodes, and the default leaf stands for what is
absent. A path names a node. Changing the node at a path makes the nodes above
it records, and leaves every node alone whose path is neither above nor below.
-/

namespace NestedRecord

universe u v

inductive Node (Key : Type u) (Leaf : Type v) where
  | leaf (value : Leaf)
  | record (fields : Key → Node Key Leaf)

namespace Node
variable {Key : Type u} {Leaf : Type v} [Inhabited Leaf]

def children : Node Key Leaf → Key → Node Key Leaf
  | .leaf _, _ => .leaf default
  | .record fields, k => fields k

theorem children_record (fields : Key → Node Key Leaf) : (record fields).children = fields := rfl

def getAt : List Key → Node Key Leaf → Node Key Leaf
  | [], n => n
  | k :: path, n => getAt path (n.children k)

variable [DecidableEq Key]

def modifyAt (f : Node Key Leaf → Node Key Leaf) : List Key → Node Key Leaf → Node Key Leaf
  | [], n => f n
  | k :: path, n => .record (Function.update n.children k (modifyAt f path (n.children k)))

variable {f : Node Key Leaf → Node Key Leaf} {path other : List Key} {n : Node Key Leaf}

theorem children_modifyAt_self (f : Node Key Leaf → Node Key Leaf) (k : Key) (path : List Key)
    (n : Node Key Leaf) :
    (modifyAt f (k :: path) n).children k = modifyAt f path (n.children k) :=
  Function.update_self ..

theorem children_modifyAt_of_ne (f : Node Key Leaf → Node Key Leaf) {j k : Key} (h : j ≠ k)
    (path : List Key) (n : Node Key Leaf) :
    (modifyAt f (k :: path) n).children j = n.children j :=
  Function.update_of_ne h ..

theorem getAt_modifyAt_self : getAt path (modifyAt f path n) = f (getAt path n) := by
  induction path generalizing n with
  | nil => rfl
  | cons k path ih => rw [getAt, children_modifyAt_self, ih, getAt]

/-- What lies at a path that parts from the changed one stays as it was. -/
theorem getAt_modifyAt_of_diverge (above : ¬ other <+: path) (below : ¬ path <+: other) :
    getAt other (modifyAt f path n) = getAt other n := by
  induction path generalizing other n with
  | nil => exact absurd List.nil_prefix below
  | cons k path ih =>
    cases other with
    | nil => exact absurd List.nil_prefix above
    | cons j other =>
      by_cases h : j = k
      · subst h
        rw [getAt, children_modifyAt_self, getAt]
        apply ih
        · exact fun hp => above (List.cons_prefix_cons.mpr ⟨rfl, hp⟩)
        · exact fun hp => below (List.cons_prefix_cons.mpr ⟨rfl, hp⟩)
      · rw [getAt, children_modifyAt_of_ne f h, getAt]

/-- Changes at two paths of the same length commute if they do at one node. -/
theorem modifyAt_comm {g : Node Key Leaf → Node Key Leaf} (comm : ∀ n, f (g n) = g (f n))
    (h : path.length = other.length) (n : Node Key Leaf) :
    modifyAt f path (modifyAt g other n) = modifyAt g other (modifyAt f path n) := by
  induction path generalizing other n with
  | nil =>
    cases List.length_eq_zero_iff.mp h.symm
    exact comm n
  | cons k path ih =>
    cases other with
    | nil => cases h
    | cons j other =>
      have rest : path.length = other.length := Nat.succ.inj h
      rw [modifyAt, modifyAt, modifyAt, modifyAt]
      simp only [children_record]
      by_cases same : k = j
      · subst same
        simp only [Function.update_self, Function.update_idem, ih rest]
      · simp only [Function.update_of_ne same, Function.update_of_ne (Ne.symm same)]
        rw [Function.update_comm same]

end Node

end NestedRecord
