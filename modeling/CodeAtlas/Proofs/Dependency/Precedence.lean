import CodeAtlas.Proofs.Dependency.Order
import Mathlib.Logic.Relation

/-!
# Imported files come first

In the order of a dependency map every file stands after the files of the map that it imports, except where an import leads
back to the file that imports it (`order_respects_imports`). If no file leads back to itself, the order is a topological one.

- The files on the stack of a search are a path of imports, so every file on it leads to the one on top
  (`Pursued.reaches`).
- An import that a search has passed by is emitted, leads back to its importer, or is the file searched right above it
  (`Pursued`). What is emitted stands in order (`Ordered`), and every step of a search keeps both (`Orderly`).
-/

namespace CodeAtlas.DependencyMap

/-- A file of the map imports a file of the map. -/
def Imports (m : DependencyMap) (file imported : String) : Prop :=
  ∃ entry, m.get? file = some entry ∧ imported ∈ entry.dependencies ∧ imported ∈ m.keys

/-- Imports between files of the map lead from the first file to the second one, in any number of steps. -/
abbrev Reaches (m : DependencyMap) : String → String → Prop := Relation.ReflTransGen m.Imports

theorem imports_iff {m : DependencyMap} {file d : String} :
    m.Imports file d ↔ d ∈ (m.imports? file).getD [] ∧ d ∈ m.keys := by
  unfold Imports imports?
  cases m.get? file <;> simp

/-- Every import of a listed file stands before it in the list or leads back to it. -/
def Ordered (m : DependencyMap) (emitted : List String) : Prop :=
  ∀ file ∈ emitted, ∀ d, m.Imports file d → [d, file].Sublist emitted ∨ m.Reaches d file

/-- The frames of a stack pursue imports: those of each file are pending, emitted, lead back to the file, or are the file
searched right above it, and each file is imported by the one below. -/
def Pursued (m : DependencyMap) (emitted : List String) : Option String → List Frame → Prop
  | _, [] => True
  | above, f :: stack =>
    (∀ d, m.Imports f.file d → d ∈ f.pending ∨ d ∈ emitted ∨ m.Reaches d f.file ∨ above = some d) ∧
      (∀ d ∈ f.pending, d ∈ (m.imports? f.file).getD []) ∧
      (∀ below, stack.head? = some below → m.Imports below.file f.file) ∧ Pursued m emitted (some f.file) stack

section Steps

variable {m : DependencyMap} {emitted emitted' : List String} {stack : List Frame} {above above' : Option String}
  {f : Frame} {file d : String} {pending : List String}

/-- Every file of a stack leads to the one on top of it. -/
theorem Pursued.reaches (h : Pursued m emitted above (f :: stack)) {g : Frame} (mem : g ∈ f :: stack) :
    m.Reaches g.file f.file := by
  induction stack generalizing above f with
  | nil =>
    obtain rfl := List.mem_singleton.mp mem
    exact .refl
  | cons below stack ih =>
    obtain ⟨-, -, path, rest⟩ := h
    rcases List.mem_cons.mp mem with rfl | mem
    · exact .refl
    · exact (ih rest mem).tail (path below rfl)

/-- A stack is pursued as well when more is emitted, among it perhaps the file searched above it. -/
theorem Pursued.mono (h : Pursued m emitted above stack) (more : emitted ⊆ emitted')
    (next : ∀ d, above = some d → d ∈ emitted' ∨ above' = some d) : Pursued m emitted' above' stack := by
  induction stack generalizing above above' with
  | nil => trivial
  | cons f stack ih =>
    obtain ⟨passed, listed, path, rest⟩ := h
    refine ⟨fun d imported => ?_, listed, path, ih rest fun d same => Or.inr same⟩
    rcases passed d imported with pending | done | back | same
    · exact Or.inl pending
    · exact Or.inr (Or.inl (more done))
    · exact Or.inr (Or.inr (Or.inl back))
    · rcases next d same with done | same
      · exact Or.inr (Or.inl done)
      · exact Or.inr (Or.inr (Or.inr same))

/-- A file may be emitted once each of its imports is emitted or leads back to it. -/
theorem Ordered.emit (h : Ordered m emitted) (passed : ∀ d, m.Imports file d → d ∈ emitted ∨ m.Reaches d file) :
    Ordered m (emitted ++ [file]) := by
  intro a mem d imported
  rcases List.mem_append.mp mem with mem | mem
  · rcases h a mem d imported with before | back
    · exact Or.inl (before.trans (List.sublist_append_left emitted [file]))
    · exact Or.inr back
  · obtain rfl := List.mem_singleton.mp mem
    rcases passed d imported with done | back
    · exact Or.inl ((List.singleton_sublist.mpr done).append (.refl [a]))
    · exact Or.inr back

end Steps

/-- What a search keeps: files are reached once, what is emitted stands in order, and the stack pursues imports. -/
structure Orderly (m : DependencyMap) (p : Progress) (stack : List Frame) : Prop extends Sound m p stack where
  ordered : Ordered m p.emitted
  pursued : Pursued m p.emitted none stack

namespace Orderly

variable {m : DependencyMap} {p : Progress} {stack : List Frame} {file d : String} {pending : List String}

theorem emit (h : Orderly m p (⟨file, []⟩ :: stack)) : Orderly m { p with emitted := p.emitted ++ [file] } stack := by
  obtain ⟨passed, -, -, rest⟩ := h.pursued
  refine ⟨h.toSound.emit, h.ordered.emit fun d imported => ?_, rest.mono (List.subset_append_left _ _) fun d same => ?_⟩
  · rcases passed d imported with pending | done | back | same
    · cases pending
    · exact Or.inl done
    · exact Or.inr back
    · cases same
  · obtain rfl := Option.some.inj same
    exact Or.inl (List.mem_append_right _ (List.mem_singleton.mpr rfl))

/-- An import that is no file of the map, or was reached before, is passed by. -/
theorem pass (h : Orderly m p (⟨file, d :: pending⟩ :: stack)) (old : ¬ (d ∈ m.keys ∧ d ∉ p.marked)) :
    Orderly m p (⟨file, pending⟩ :: stack) := by
  obtain ⟨passed, listed, path, rest⟩ := h.pursued
  refine ⟨⟨h.known, h.distinct, h.settled⟩, h.ordered, fun x imported => ?_,
    fun x mem => listed x (List.mem_cons_of_mem d mem), path, rest⟩
  rcases passed x imported with mem | other
  · rcases List.mem_cons.mp mem with rfl | mem
    · -- a file of the map that was reached is emitted, or on the stack and so leads to the file on top
      have reached : x ∈ p.marked := by
        by_contra new
        exact old ⟨(imports_iff.mp imported).2, new⟩
      rcases h.mem_marked.mp reached with done | open_
      · exact Or.inr (Or.inl done)
      · obtain ⟨g, mem, rfl⟩ := List.mem_map.mp open_
        exact Or.inr (Or.inr (Or.inl (h.pursued.reaches mem)))
    · exact Or.inl mem
  · exact Or.inr other

/-- A new file is put on the stack with all its imports pending. -/
theorem reach (h : Orderly m p (⟨file, d :: pending⟩ :: stack)) (known : d ∈ m.keys) (new : d ∉ p.marked) :
    Orderly m { p with marked := d :: p.marked } (⟨d, (m.imports? d).getD []⟩ :: ⟨file, pending⟩ :: stack) := by
  obtain ⟨passed, listed, path, rest⟩ := h.pursued
  have sound : Sound m p (⟨file, pending⟩ :: stack) := ⟨h.known, h.distinct, h.settled⟩
  have top : ∀ x, m.Imports d x → x ∈ (m.imports? d).getD [] := fun x imported => (imports_iff.mp imported).1
  have imported : m.Imports file d := imports_iff.mpr ⟨listed d List.mem_cons_self, known⟩
  refine ⟨sound.reach known new _, h.ordered, fun x imported => Or.inl (top x imported), fun x mem => mem, ?_, ?_, ?_⟩
  · intro below same
    obtain rfl := Option.some.inj same
    exact imported
  · intro x imported
    rcases passed x imported with mem | done | back | same
    · rcases List.mem_cons.mp mem with rfl | mem
      · exact Or.inr (Or.inr (Or.inr rfl))
      · exact Or.inl mem
    · exact Or.inr (Or.inl done)
    · exact Or.inr (Or.inr (Or.inl back))
    · cases same
  · exact ⟨fun x mem => listed x (List.mem_cons_of_mem d mem), path, rest⟩

/-- A search leaves everything in order. -/
theorem search (h : Orderly m p stack) : Orderly m (DependencyMap.search m p stack) [] := by
  fun_induction DependencyMap.search m p stack with
  | case1 p => exact h
  | case2 p file stack ih => exact ih h.emit
  | case3 p file d pending stack new ih => exact ih (h.reach new.1 new.2)
  | case4 p file d pending stack old ih => exact ih (h.pass old)

theorem searchFrom (h : Orderly m p []) (known : file ∈ m.keys) : Orderly m (DependencyMap.searchFrom m p file) [] := by
  unfold DependencyMap.searchFrom
  split
  · exact h
  · rename_i new
    refine search ⟨h.toSound.reach known new _, h.ordered, fun d imported => ?_, fun d mem => mem, nofun, trivial⟩
    exact Or.inl (imports_iff.mp imported).1

theorem searchAll (files : List String) (h : Orderly m p []) (known : files ⊆ m.keys) :
    Orderly m (files.foldl (DependencyMap.searchFrom m) p) [] := by
  induction files generalizing p with
  | nil => exact h
  | cons file files ih =>
    exact ih (h.searchFrom (known List.mem_cons_self)) fun x mem => known (List.mem_cons_of_mem file mem)

end Orderly

/-- The order of a map stands in order. -/
theorem ordered_order (m : DependencyMap) : Ordered m m.order := by
  have start : Orderly m ⟨[], []⟩ [] := ⟨⟨nofun, List.nodup_nil, .refl _⟩, nofun, trivial⟩
  exact (start.searchAll _ fun _ mem => List.mem_mergeSort.mp mem).ordered

/-- The order lists each file of the map once and nothing else. A file that a file of the map imports stands before it,
unless imports lead back from there; so it always does if no file leads back to itself. -/
theorem order_respects_imports (m : DependencyMap) :
    (m.order.Nodup ∧ ∀ file, file ∈ m.order ↔ file ∈ m.keys) ∧
      (∀ file d, m.Imports file d → [d, file].Sublist m.order ∨ m.Reaches d file) ∧
      ((∀ file, ¬ Relation.TransGen m.Imports file file) → ∀ file d, m.Imports file d → [d, file].Sublist m.order) := by
  have before : ∀ file d, m.Imports file d → [d, file].Sublist m.order ∨ m.Reaches d file := by
    intro file d imported
    have known : file ∈ m.keys := by
      obtain ⟨entry, found, -⟩ := imported
      exact List.mem_map_of_mem (Table.mem_of_get? found)
    exact ordered_order m file (mem_order.mpr known) d imported
  refine ⟨⟨nodup_order m, fun _ => mem_order⟩, before, fun acyclic file d imported => ?_⟩
  rcases before file d imported with before | back
  · exact before
  · exact absurd (Relation.TransGen.head' imported back) (acyclic file)

/-! ## A map with a cycle -/

namespace Sample

/-- The first file imports itself, a cycle of two files, and a file that is not there. -/
def tangled : DependencyMap :=
  .ofList [("a", ⟨"a", ["a", "b", "x"]⟩), ("b", ⟨"b", ["c"]⟩), ("c", ⟨"c", ["b", "d"]⟩), ("d", ⟨"d", []⟩)]

/-- Files import later ones only. -/
def layered : DependencyMap := .ofList [("a", ⟨"a", ["c", "b"]⟩), ("b", ⟨"b", ["c"]⟩), ("c", ⟨"c", ["x"]⟩)]

/-- Nothing leads from the cycle to the file that imports it. -/
theorem not_reaches_tangled : ¬ tangled.Reaches "b" "a" := by
  have away : ∀ e ∈ tangled.entries, e.1 ≠ "a" → ∀ d ∈ e.2.dependencies, d ≠ "a" := by decide +kernel
  intro back
  have kept : ∀ file, tangled.Reaches "b" file → file ≠ "a" := by
    intro file path
    induction path with
    | refl => decide
    | tail _ imported ih =>
      obtain ⟨entry, found, mem, -⟩ := imported
      exact away _ (Table.mem_of_get? found) ih _ mem
  exact kept "a" back rfl

theorem acyclic_layered (file : String) : ¬ Relation.TransGen layered.Imports file file := by
  have later : ∀ e ∈ layered.entries, ∀ d ∈ e.2.dependencies, e.1 < d := by decide +kernel
  intro cycle
  have ascends : ∀ d, Relation.TransGen layered.Imports file d → file < d := by
    intro d path
    induction path with
    | single imported =>
      obtain ⟨entry, found, mem, -⟩ := imported
      exact later _ (Table.mem_of_get? found) _ mem
    | tail _ imported ih =>
      obtain ⟨entry, found, mem, -⟩ := imported
      exact String.lt_trans ih (later _ (Table.mem_of_get? found) _ mem)
  exact String.lt_irrefl file (ascends file cycle)

end Sample

/-- A file stands after the cycle that it imports, and files that import later ones only are put the other way round. -/
theorem sample_respects_imports :
    (Sample.tangled.Imports "a" "b" ∧ ["b", "a"].Sublist Sample.tangled.order) ∧
      Sample.layered.Imports "a" "b" ∧ ["b", "a"].Sublist Sample.layered.order := by
  have first : Sample.tangled.Imports "a" "b" := ⟨⟨"a", ["a", "b", "x"]⟩, by decide +kernel⟩
  have second : Sample.layered.Imports "a" "b" := ⟨⟨"a", ["c", "b"]⟩, by decide +kernel⟩
  refine ⟨⟨first, ?_⟩, second, (order_respects_imports Sample.layered).2.2 Sample.acyclic_layered "a" "b" second⟩
  exact ((order_respects_imports Sample.tangled).2.1 "a" "b" first).resolve_right Sample.not_reaches_tangled

end CodeAtlas.DependencyMap
