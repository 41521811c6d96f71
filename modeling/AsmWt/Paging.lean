import Mathlib.Data.List.Basic
import Mathlib.Data.List.Nodup

/-!
# Pages of an ordered list

The elements of a sorted list are fetched page by page: the first ones, and then
those that come later than an element. Appending the page after the last
element shown extends what is shown; the page after any other element, if there
is anything on it, does not.
-/

namespace Paging

universe u
variable {α : Type u} (later : α → α → Prop) [DecidableRel later]

/-- The first elements that come later than `d`. -/
def pageAfter (seq : List α) (d : α) (limit : Nat) : List α :=
  (seq.filter fun x => later d x).take limit

variable {later} {seq shown : List α} {d : α} {limit : Nat}

/-- What comes later than an element is what stands behind it. -/
theorem pageAfter_append (asymm : ∀ a b, later a b → ¬ later b a) {pre post : List α}
    (sorted : (pre ++ d :: post).Pairwise later) :
    pageAfter later (pre ++ d :: post) d limit = post.take limit := by
  obtain ⟨-, htail, hcross⟩ := List.pairwise_append.mp sorted
  have hpre : pre.filter (fun x => later d x) = [] := by
    rw [List.filter_eq_nil_iff]
    intro x hx
    simpa using asymm x d (hcross x hx d List.mem_cons_self)
  have hpost : post.filter (fun x => later d x) = post := by
    rw [List.filter_eq_self]
    intro x hx
    simpa using (List.pairwise_cons.mp htail).1 x hx
  have hself : ¬ later d d := fun h => asymm d d h h
  rw [pageAfter, List.filter_append, hpre, List.filter_cons, if_neg (by simpa using hself), hpost,
    List.nil_append]

omit [DecidableRel later] in
theorem nodup_of_sorted (asymm : ∀ a b, later a b → ¬ later b a) (sorted : seq.Pairwise later) :
    seq.Nodup := by
  refine sorted.imp ?_
  rintro a b hab rfl
  exact asymm a a hab hab

/-- The page after the last element shown is the start of what is not shown. -/
theorem pageAfter_last (asymm : ∀ a b, later a b → ¬ later b a) {rest : List α}
    (sorted : (shown ++ rest).Pairwise later) (hlast : shown.getLast? = some d) :
    pageAfter later (shown ++ rest) d limit = rest.take limit := by
  obtain ⟨pre, rfl⟩ := List.getLast?_eq_some_iff.mp hlast
  have hseq : pre ++ [d] ++ rest = pre ++ d :: rest := List.append_cons pre d rest |>.symm
  rw [hseq] at sorted ⊢
  exact pageAfter_append asymm sorted

theorem append_pageAfter_prefix (asymm : ∀ a b, later a b → ¬ later b a)
    (sorted : seq.Pairwise later) (hshown : shown <+: seq) (hlast : shown.getLast? = some d) :
    shown ++ pageAfter later seq d limit <+: seq := by
  obtain ⟨rest, rfl⟩ := hshown
  rw [pageAfter_last asymm sorted hlast]
  exact (List.prefix_append_right_inj _).mpr (List.take_prefix limit rest)

/-- Behind the first `n` elements come the next ones. -/
theorem pageAfter_take (asymm : ∀ a b, later a b → ¬ later b a) (sorted : seq.Pairwise later)
    {n : Nat} (hlast : (seq.take n).getLast? = some d) :
    pageAfter later seq d limit = (seq.drop n).take limit := by
  have hsplit : seq.take n ++ seq.drop n = seq := List.take_append_drop n seq
  calc pageAfter later seq d limit
      = pageAfter later (seq.take n ++ seq.drop n) d limit := by rw [hsplit]
    _ = (seq.drop n).take limit := pageAfter_last asymm (hsplit.symm ▸ sorted) hlast

/-- A page that fits behind what is shown was asked for after its last element. -/
theorem getLast_of_append_pageAfter_prefix (asymm : ∀ a b, later a b → ¬ later b a)
    (sorted : seq.Pairwise later) (hd : d ∈ seq) (hne : pageAfter later seq d limit ≠ [])
    (h : shown ++ pageAfter later seq d limit <+: seq) : shown.getLast? = some d := by
  have distinct := nodup_of_sorted asymm sorted
  obtain ⟨pre, post, rfl⟩ := List.append_of_mem hd
  rw [pageAfter_append asymm sorted] at h hne
  cases post with
  | nil => simp at hne
  | cons x post =>
    cases limit with
    | zero => simp at hne
    | succ limit =>
      rw [List.take_succ_cons] at h
      obtain ⟨rest, hrest⟩ := h
      have hsplit : shown ++ x :: (post.take limit ++ rest) = (pre ++ [d]) ++ x :: post := by
        simpa using hrest
      have hx : x ∉ pre ++ [d] ∧ x ∉ post := by
        have hnd : ((pre ++ [d]) ++ x :: post).Nodup := by simpa using distinct
        have hmid := List.nodup_middle.mp hnd
        simpa [and_assoc] using (List.nodup_cons.mp hmid).1
      have hpre := (List.append_cons_inj_of_notMem hx.1 hx.2).mp hsplit.symm
      rw [← hpre.1]
      exact List.getLast?_append_of_ne_nil _ (by simp)

end Paging
