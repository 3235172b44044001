import Mathlib.Data.List.Nodup
import Mathlib.Data.List.Perm.Basic

/-!
# Lists in another order

A stable sort leaves members that are tied in their order (`List.filter_mergeSort`, `List.pairwise_mergeSort_of_tied`). If of
several conditions exactly one holds of each member of a list, then the parts that they select are together the list in
another order (`List.flatMap_filter_perm`).
-/

namespace List

universe u v

variable {α : Type u}

section Sorting

variable {le : α → α → Bool} (trans : ∀ a b c, le a b = true → le b c = true → le a c = true)
  (total : ∀ a b, (le a b || le b a) = true)
include trans total

/-- Members that are all tied stay in their order. -/
theorem filter_mergeSort {p : α → Bool} (tied : ∀ a b, p a = true → p b = true → le a b = true) (l : List α) :
    (l.mergeSort le).filter p = l.filter p := by
  have sorted : (l.filter p).Pairwise fun a b => le a b = true :=
    pairwise_of_forall_mem_list fun a mem b mem' => tied a b (of_mem_filter mem) (of_mem_filter mem')
  have within : (l.filter p).Sublist ((l.mergeSort le).filter p) := by
    have kept : (l.filter p).Sublist (l.mergeSort le) := sublist_mergeSort trans total sorted filter_sublist
    simpa using kept.filter p
  have count : ((l.mergeSort le).filter p).length = (l.filter p).length := ((mergeSort_perm l le).filter p).length_eq
  exact (within.eq_of_length count.symm).symm

/-- Of two members of a sorted list the first is not above the second, and if they are tied they stand as they stood before. -/
theorem pairwise_mergeSort_of_tied {R : α → α → Prop} {l : List α} (placed : l.Pairwise R) :
    (l.mergeSort le).Pairwise fun a b => le a b = true ∧ (le b a = true → R a b) := by
  rw [pairwise_iff_forall_sublist]
  intro a b before
  have sorted : le a b = true := pairwise_iff_forall_sublist.mp (pairwise_mergeSort trans total l) before
  refine ⟨sorted, fun back => ?_⟩
  -- all members that are tied with the first one stand as before
  have reflexive : le a a = true := trans a b a sorted back
  have tied : ∀ x y, (le a x && le x a) = true → (le a y && le y a) = true → le x y = true := by
    intro x y hx hy
    rw [Bool.and_eq_true] at hx hy
    exact trans x a y hx.2 hy.1
  have kept : [a, b].Sublist (l.filter fun x => le a x && le x a) := by
    have both := before.filter fun x => le a x && le x a
    rwa [filter_mergeSort trans total tied, filter_eq_self.mpr (by simp [sorted, back, reflexive])] at both
  exact pairwise_iff_forall_sublist.mp placed (kept.trans filter_sublist)

end Sorting

/-- If exactly one of the conditions holds, it alone selects the members. -/
theorem flatMap_ite_of_unique {κ : Type v} {keys : List κ} {p : κ → Bool} (distinct : keys.Nodup) {k : κ}
    (mem : k ∈ keys) (one : ∀ k' ∈ keys, p k' = true ↔ k' = k) (l : List α) :
    (keys.flatMap fun k' => if p k' then l else []) = l := by
  obtain ⟨front, back, rfl⟩ := append_of_mem mem
  have apart : k ∉ front ∧ k ∉ back := by
    have fresh := nodup_middle.mp distinct
    rw [nodup_cons, mem_append, not_or] at fresh
    exact fresh.1
  have nothing : ∀ {part : List κ}, (∀ k' ∈ part, k' ∈ front ++ k :: back) → k ∉ part →
      (part.flatMap fun k' => if p k' then l else []) = [] := by
    intro part within absent
    refine flatMap_eq_nil_iff.mpr fun k' mem' => if_neg fun holds => ?_
    exact absent ((one k' (within k' mem')).mp holds ▸ mem')
  rw [flatMap_append, flatMap_cons, if_pos ((one k mem).mpr rfl), nothing (by simp_all) apart.1,
    nothing (by simp_all) apart.2, append_nil, nil_append]

/-- If exactly one of the conditions holds of each member of a list, the members that they select are together all of
them. -/
theorem flatMap_filter_perm {κ : Type v} {keys : List κ} {p : κ → α → Bool} {l : List α} (distinct : keys.Nodup)
    (one : ∀ a ∈ l, ∃ k ∈ keys, ∀ k' ∈ keys, p k' a = true ↔ k' = k) : (keys.flatMap fun k => l.filter (p k)).Perm l := by
  induction l with
  | nil => simp
  | cons a l ih =>
    obtain ⟨⟨k, mem, here⟩, rest⟩ := forall_mem_cons.mp one
    have split : ∀ k, (a :: l).filter (p k) = (if p k a then [a] else []) ++ l.filter (p k) := by
      intro k
      rw [filter_cons]
      split <;> rfl
    calc (keys.flatMap fun k => (a :: l).filter (p k))
        = keys.flatMap fun k => (if p k a then [a] else []) ++ l.filter (p k) := by simp only [split]
      _ ~ (keys.flatMap fun k => if p k a then [a] else []) ++ keys.flatMap fun k => l.filter (p k) :=
        (flatMap_append_perm keys _ _).symm
      _ = a :: keys.flatMap fun k => l.filter (p k) := by rw [flatMap_ite_of_unique distinct mem here, singleton_append]
      _ ~ a :: l := (ih rest).cons a

end List
