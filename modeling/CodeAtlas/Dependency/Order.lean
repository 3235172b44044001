import CodeAtlas.Table
import CodeAtlas.Text.Split

/-!
# Dependency order

A dependency map lists, for each file, the repository files it imports. `order` puts the files into an order in which
imported files come first: it searches depth-first from the files in path order and emits a file when its imports are
done. An import cycle is broken at the import that closes it.
-/

namespace CodeAtlas

/-- A file and the repository files that it imports, in the order of its imports. -/
structure DependencyEntry where
  file : String
  dependencies : List String
deriving Repr, DecidableEq

/-- The dependency entries of a set of files. -/
abbrev DependencyMap := Table String DependencyEntry

namespace DependencyMap

/-- The imports of a file of the map. -/
def imports? (m : DependencyMap) (file : String) : Option (List String) := (m.get? file).map (·.dependencies)

/-- A file whose imports are being searched, with the imports still to be looked at. -/
structure Frame where
  file : String
  pending : List String
deriving Repr, DecidableEq

/-- The files reached and the files emitted so far. A file that is reached is marked once and for all: the marks stand for
the files that are done and for those in progress together, as no search asks which of both a file is. The files that are
done are the emitted ones, and those in progress are on the stack of the search. -/
structure Progress where
  marked : List String
  emitted : List String
deriving Repr, DecidableEq

/-- The number of files of the map that are not reached yet. -/
def unreached (m : DependencyMap) (marked : List String) : Nat := m.keys.countP (· ∉ marked)

/-- The number of imports and files on the stack. -/
def workload : List Frame → Nat
  | [] => 0
  | f :: stack => f.pending.length + 1 + workload stack

/-- A narrower property that fails at a member of the wider one holds of fewer members. -/
theorem countP_lt_countP {p q : String → Bool} (narrower : ∀ x, p x = true → q x = true) {d : String}
    {l : List String} (mem : d ∈ l) (held : q d = true) (lost : p d = false) : l.countP p < l.countP q := by
  induction l with
  | nil => cases mem
  | cons a l ih =>
    have le : l.countP p ≤ l.countP q := List.countP_mono_left fun x _ => narrower x
    rw [List.countP_cons, List.countP_cons]
    rcases List.mem_cons.mp mem with rfl | mem
    · simpa [held, lost] using Nat.lt_succ_of_le le
    · have lt := ih mem
      cases hp : p a with
      | false => simp only [Bool.false_eq_true, if_false]; omega
      | true => simpa [narrower a hp] using lt

/-- Reaching a file of the map leaves fewer files unreached. -/
theorem unreached_cons_lt (m : DependencyMap) {marked : List String} {d : String} (hk : d ∈ m.keys)
    (hm : d ∉ marked) : m.unreached (d :: marked) < m.unreached marked :=
  countP_lt_countP (by simp) hk (by simpa using hm) (by simp)

/-- Searches with an explicit stack until it is empty. -/
def search (m : DependencyMap) (p : Progress) : List Frame → Progress
  | [] => p
  | ⟨file, []⟩ :: stack => search m { p with emitted := p.emitted ++ [file] } stack
  | ⟨file, d :: pending⟩ :: stack =>
    if _h : d ∈ m.keys ∧ d ∉ p.marked then
      search m { p with marked := d :: p.marked } (⟨d, (m.imports? d).getD []⟩ :: ⟨file, pending⟩ :: stack)
    else search m p (⟨file, pending⟩ :: stack)
termination_by stack => (m.unreached p.marked, workload stack)
decreasing_by
  · exact Prod.Lex.right _ (by simp [workload])
  · exact Prod.Lex.left _ _ (unreached_cons_lt m _h.1 _h.2)
  · exact Prod.Lex.right _ (by simp [workload])

/-- Searches from a file unless it was reached before. -/
def searchFrom (m : DependencyMap) (p : Progress) (file : String) : Progress :=
  if file ∈ p.marked then p
  else search m { p with marked := file :: p.marked } [⟨file, (m.imports? file).getD []⟩]

/-- The files of the map with imported files first. -/
def order (m : DependencyMap) : List String :=
  ((m.keys.mergeSort Text.precedes).foldl (searchFrom m) ⟨[], []⟩).emitted

end DependencyMap

end CodeAtlas
