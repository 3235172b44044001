import CodeAtlas.Dependency.Order
import CodeAtlas.Proofs.Table
import Mathlib.Data.List.Nodup

/-!
# Files in dependency order

The search over a dependency map reaches files of the map only, each of them once, and what it has reached is emitted or
being searched (`Sound`). Every step of the search keeps this (`Sound.emit`, `Sound.reach`), so does a whole search
(`Sound.search`), and searches start from every file. So the order lists each file of the map once and nothing else
(`mem_order`, `nodup_order`).

The searches start in path order and look up imports file by file, so the order of the entries of a map has no influence
(`order_congr`).
-/

namespace CodeAtlas.DependencyMap

/-- Files of the map are reached once, and those reached are emitted or on the stack. -/
structure Sound (m : DependencyMap) (p : Progress) (stack : List Frame) : Prop where
  known : ∀ file ∈ p.marked, file ∈ m.keys
  distinct : p.marked.Nodup
  settled : (stack.map (·.file) ++ p.emitted).Perm p.marked

namespace Sound

variable {m : DependencyMap} {p : Progress} {stack : List Frame} {file d : String}

/-- A file is marked if it is done, that is emitted, or in progress, that is on the stack; other files are not. -/
theorem mem_marked (h : Sound m p stack) : file ∈ p.marked ↔ file ∈ p.emitted ∨ file ∈ stack.map (·.file) := by
  rw [← h.settled.mem_iff, List.mem_append, or_comm]

/-- A file is emitted when its imports are done. -/
theorem emit (h : Sound m p (⟨file, []⟩ :: stack)) : Sound m { p with emitted := p.emitted ++ [file] } stack := by
  refine ⟨h.known, h.distinct, List.Perm.trans ?_ h.settled⟩
  rw [← List.append_assoc]
  exact List.perm_append_singleton file _

/-- A file is reached through an import. -/
theorem reach (h : Sound m p stack) (known : d ∈ m.keys) (new : d ∉ p.marked) (pending : List String) :
    Sound m { p with marked := d :: p.marked } (⟨d, pending⟩ :: stack) := by
  refine ⟨fun file mem => ?_, List.nodup_cons.mpr ⟨new, h.distinct⟩, List.Perm.cons d h.settled⟩
  rcases List.mem_cons.mp mem with rfl | mem
  · exact known
  · exact h.known file mem

/-- A search leaves nothing on its stack and forgets no file that was reached. -/
theorem search (h : Sound m p stack) :
    Sound m (DependencyMap.search m p stack) [] ∧ p.marked ⊆ (DependencyMap.search m p stack).marked := by
  fun_induction DependencyMap.search m p stack with
  | case1 p => exact ⟨h, List.Subset.refl _⟩
  | case2 p file stack ih => exact ih h.emit
  | case3 p file d pending stack new ih =>
    have pendingLess : Sound m p (⟨file, pending⟩ :: stack) := ⟨h.known, h.distinct, h.settled⟩
    obtain ⟨sound, more⟩ := ih (pendingLess.reach new.1 new.2 _)
    exact ⟨sound, fun x hx => more (List.mem_cons_of_mem d hx)⟩
  | case4 p file d pending stack old ih => exact ih ⟨h.known, h.distinct, h.settled⟩

/-- A search from a file of the map reaches it. -/
theorem searchFrom (h : Sound m p []) (known : file ∈ m.keys) :
    Sound m (DependencyMap.searchFrom m p file) [] ∧
      file :: p.marked ⊆ (DependencyMap.searchFrom m p file).marked := by
  unfold DependencyMap.searchFrom
  split
  · rename_i reached
    exact ⟨h, List.cons_subset.mpr ⟨reached, List.Subset.refl _⟩⟩
  · rename_i new
    exact (h.reach known new _).search

/-- Searches from some files of the map reach them all. -/
theorem searchAll (files : List String) (h : Sound m p []) (known : files ⊆ m.keys) :
    Sound m (files.foldl (DependencyMap.searchFrom m) p) [] ∧
      files ++ p.marked ⊆ (files.foldl (DependencyMap.searchFrom m) p).marked := by
  induction files generalizing p with
  | nil => exact ⟨h, List.Subset.refl _⟩
  | cons file files ih =>
    obtain ⟨first, reached⟩ := h.searchFrom (known List.mem_cons_self)
    obtain ⟨sound, more⟩ := ih first fun x hx => known (List.mem_cons_of_mem file hx)
    refine ⟨sound, fun x hx => more ?_⟩
    rcases List.mem_cons.mp hx with rfl | hx
    · exact List.mem_append_right _ (reached List.mem_cons_self)
    · rcases List.mem_append.mp hx with hx | hx
      · exact List.mem_append_left _ hx
      · exact List.mem_append_right _ (reached (List.mem_cons_of_mem _ hx))

end Sound

/-- What the whole search leaves behind, with all files of the map reached. -/
theorem sound_order (m : DependencyMap) : ∃ p, p.emitted = m.order ∧ Sound m p [] ∧ m.keys ⊆ p.marked := by
  have start : Sound m ⟨[], []⟩ [] := ⟨by simp, List.nodup_nil, List.Perm.refl _⟩
  have sorted : ∀ file, file ∈ m.keys.mergeSort Text.precedes ↔ file ∈ m.keys := fun _ => List.mem_mergeSort
  obtain ⟨sound, reached⟩ := start.searchAll (m.keys.mergeSort Text.precedes) fun x hx => (sorted x).mp hx
  exact ⟨_, rfl, sound, fun x hx => reached (List.mem_append_left _ ((sorted x).mpr hx))⟩

/-- The order lists exactly the files of the map. -/
theorem mem_order {m : DependencyMap} {file : String} : file ∈ m.order ↔ file ∈ m.keys := by
  obtain ⟨p, emitted, sound, reached⟩ := sound_order m
  rw [← emitted]
  constructor
  · intro mem
    exact sound.known file (sound.mem_marked.mpr (Or.inl mem))
  · intro mem
    exact (sound.mem_marked.mp (reached mem)).resolve_right List.not_mem_nil

/-- The order lists no file twice. -/
theorem nodup_order (m : DependencyMap) : m.order.Nodup := by
  obtain ⟨p, emitted, sound, -⟩ := sound_order m
  rw [← emitted]
  exact sound.settled.nodup_iff.mpr sound.distinct

/-! ## Maps that say the same -/

/-- Files in path order do not depend on the order in which they come. -/
theorem sorted_congr {files files' : List String} (perm : files.Perm files') :
    files.mergeSort Text.precedes = files'.mergeSort Text.precedes := by
  have sorted : ∀ l : List String, (l.mergeSort Text.precedes).Pairwise fun a b => Text.precedes a b = true := by
    refine List.pairwise_mergeSort (fun a b c first second => ?_) fun a b => ?_
    · exact decide_eq_true (String.le_trans (of_decide_eq_true first) (of_decide_eq_true second))
    · rcases String.le_total a b with le | le
      · exact Bool.or_eq_true_iff.mpr (Or.inl (decide_eq_true le))
      · exact Bool.or_eq_true_iff.mpr (Or.inr (decide_eq_true le))
  refine List.Perm.eq_of_pairwise (fun a b _ _ first second => ?_) (sorted files) (sorted files') ?_
  · exact String.le_antisymm (of_decide_eq_true first) (of_decide_eq_true second)
  · exact (List.mergeSort_perm _ _).trans (perm.trans (List.mergeSort_perm _ _).symm)

section Congr

variable {m m' : DependencyMap} (same : ∀ file, m.get? file = m'.get? file)
include same

theorem search_congr (p : Progress) (stack : List Frame) : search m p stack = search m' p stack := by
  have imports : ∀ file, m.imports? file = m'.imports? file := fun file => by rw [imports?, imports?, same]
  have keys : ∀ file, file ∈ m.keys ↔ file ∈ m'.keys := fun _ => Table.mem_keys_congr same
  fun_induction search m p stack with
  | case1 p => rw [search]
  | case2 p file stack ih => rw [search, ih]
  | case3 p file d pending stack new ih =>
    rw [ih, search.eq_def m' p, imports]
    simp only [(keys d).mp new.1, new.2, not_false_eq_true, and_self, dite_true]
  | case4 p file d pending stack old ih =>
    rw [ih, search.eq_def m' p (⟨file, d :: pending⟩ :: stack)]
    simp only [keys] at old
    simp only [old, dite_false]

/-- The order depends only on what the map says of each file. -/
theorem order_congr : m.order = m'.order := by
  have keys : m.keys.Perm m'.keys :=
    (List.perm_ext_iff_of_nodup m.distinct m'.distinct).mpr fun _ => Table.mem_keys_congr same
  have searches : searchFrom m = searchFrom m' := by
    funext p file
    rw [searchFrom, searchFrom, search_congr same, imports?, imports?, same]
  rw [order, order, sorted_congr keys, searches]

end Congr

end CodeAtlas.DependencyMap
