import Mathlib.Data.List.Nodup

/-!
# Lists without repetitions

Appending values unless they are there leaves the first occurrence of each (`List.foldl_appendNew`): the members are those of
both lists (`List.mem_foldl_appendNew`), none of them is repeated (`List.nodup_foldl_appendNew`), and nothing is left out
where nothing is repeated (`List.foldl_appendNew_of_nodup`).
-/

namespace List

universe u

variable {α β : Type u} [BEq α] [LawfulBEq α] [BEq β] [LawfulBEq β]

theorem nodup_eraseDups (xs : List α) : xs.eraseDups.Nodup := by
  match xs with
  | [] => simp
  | x :: xs =>
    rw [eraseDups_cons, nodup_cons]
    refine ⟨fun mem => ?_, nodup_eraseDups (xs.filter (!· == x))⟩
    have other := of_mem_filter (mem_eraseDups.mp mem)
    simp at other
termination_by xs.length
decreasing_by exact Nat.lt_succ_of_le (length_filter_le _ _)

/-- A map that keeps the values of a list apart keeps their first occurrences. -/
theorem eraseDups_map {g : α → β} {xs : List α} (injective : ∀ a ∈ xs, ∀ b ∈ xs, g a = g b → a = b) :
    (xs.map g).eraseDups = xs.eraseDups.map g := by
  match xs with
  | [] => rfl
  | x :: xs =>
    have others : (xs.map g).filter (!· == g x) = (xs.filter (!· == x)).map g := by
      rw [filter_map]
      congr 1
      refine filter_congr fun y mem => ?_
      have apart : g y = g x ↔ y = x := ⟨injective y (mem_cons_of_mem _ mem) x mem_cons_self, congrArg g⟩
      rw [Function.comp_apply, Bool.not_inj_iff, Bool.eq_iff_iff, beq_iff_eq, beq_iff_eq, apart]
    have inner : ∀ a ∈ xs.filter (!· == x), ∀ b ∈ xs.filter (!· == x), g a = g b → a = b := fun a ha b hb =>
      injective a (mem_cons_of_mem _ (mem_of_mem_filter ha)) b (mem_cons_of_mem _ (mem_of_mem_filter hb))
    rw [map_cons, eraseDups_cons, others, eraseDups_map inner, eraseDups_cons, map_cons]
termination_by xs.length
decreasing_by exact Nat.lt_succ_of_le (length_filter_le _ _)

/-- Appends a value that is not there yet. -/
def appendNew (xs : List α) (x : α) : List α := if xs.contains x then xs else xs ++ [x]

variable {xs found : List α} {x y : α}

theorem mem_appendNew : y ∈ xs.appendNew x ↔ y ∈ xs ∨ y = x := by
  unfold appendNew
  split
  · rename_i listed
    exact ⟨Or.inl, fun h => h.elim id fun same => same ▸ contains_iff_mem.mp listed⟩
  · rw [mem_append, mem_singleton]

theorem nodup_appendNew (distinct : xs.Nodup) (x : α) : (xs.appendNew x).Nodup := by
  unfold appendNew
  split
  · exact distinct
  · rename_i new
    exact nodup_append_comm.mp (nodup_cons.mpr ⟨fun mem => new (contains_iff_mem.mpr mem), distinct⟩ : ([x] ++ xs).Nodup)

theorem mem_foldl_appendNew : y ∈ xs.foldl appendNew found ↔ y ∈ found ∨ y ∈ xs := by
  induction xs generalizing found with
  | nil => simp
  | cons x xs ih => rw [foldl_cons, ih, mem_appendNew, or_assoc, mem_cons]

theorem nodup_foldl_appendNew (distinct : found.Nodup) (xs : List α) : (xs.foldl appendNew found).Nodup := by
  induction xs generalizing found with
  | nil => exact distinct
  | cons x xs ih => exact ih (nodup_appendNew distinct x)

/-- Of the values that are new the first occurrences are appended. -/
theorem foldl_appendNew (xs found : List α) : xs.foldl appendNew found = found ++ (xs.filter (· ∉ found)).eraseDups := by
  induction xs generalizing found with
  | nil => simp
  | cons x xs ih =>
    rw [foldl_cons, ih, appendNew]
    by_cases old : x ∈ found
    · simp [old]
    · have further : xs.filter (· ∉ found ++ [x]) = (xs.filter (· ∉ found)).filter (!· == x) := by
        rw [filter_filter]
        congr 1
        funext y
        by_cases same : y = x <;> simp [same]
      have appended : (if found.contains x then found else found ++ [x]) = found ++ [x] := by simp [old]
      have kept : (x :: xs).filter (· ∉ found) = x :: xs.filter (· ∉ found) := by simp [old]
      rw [appended, kept, eraseDups_cons, further, append_assoc, singleton_append]

theorem foldl_appendNew_of_nodup (distinct : (found ++ xs).Nodup) : xs.foldl appendNew found = found ++ xs := by
  induction xs generalizing found with
  | nil => simp
  | cons x xs ih =>
    have new : found.contains x = false := by
      have apart := (nodup_append.mp distinct).2.2
      simpa using fun mem => apart x mem x mem_cons_self rfl
    rw [foldl_cons, appendNew, new, ih]
    · simp
    · simpa using distinct

end List
