import CodeAtlas.Proofs.Dependency.Precedence

/-!
# The order as a recursion

The order of a dependency map is found with an explicit stack, on which every file keeps the imports that it has still to
look at. It is the order in which a plain recursion emits the files (`order_eq_postorder`): to visit a file, mark it, visit
what it imports, then emit it, and skip what is marked.

A frame on the stack is a call of the recursion that is not finished: to search on from a stack is to finish the visit of
the frame on top, emit its file and search on from the frames below (`search_cons`).
-/

namespace CodeAtlas.DependencyMap

/-! ## The recursion -/

/-- Visits files in turn. A file of the map that is not marked is marked, then the files that it imports are visited, then
it is emitted. Marked files, and those that are not in the map, are skipped. No mark is taken back. -/
def visitAll (m : DependencyMap) (p : Progress) : (files : List String) → { q : Progress // p.marked ⊆ q.marked }
  | [] => ⟨p, List.Subset.refl _⟩
  | file :: files =>
    if _new : file ∈ m.keys ∧ file ∉ p.marked then
      let inside := visitAll m { p with marked := file :: p.marked } ((m.imports? file).getD [])
      let after := visitAll m { inside.1 with emitted := inside.1.emitted ++ [file] } files
      ⟨after.1, fun _ mem => after.2 (inside.2 (List.mem_cons_of_mem file mem))⟩
    else visitAll m p files
termination_by files => (m.unreached p.marked, files.length)
decreasing_by
  · exact Prod.Lex.left _ _ (unreached_cons_lt m _new.1 _new.2)
  · have fewer := unreached_cons_lt m _new.1 _new.2
    have kept : m.unreached inside.1.marked ≤ m.unreached (file :: p.marked) :=
      List.countP_mono_left fun x _ free => by
        have unmarked : x ∉ inside.1.marked := of_decide_eq_true free
        exact decide_eq_true fun mem => unmarked (inside.2 mem)
    exact Prod.Lex.left _ _ (Nat.lt_of_le_of_lt kept fewer)
  · exact Prod.Lex.right _ (Nat.lt_succ_self _)

/-- The files that are marked and emitted once some files were visited. -/
def visited (m : DependencyMap) (p : Progress) (files : List String) : Progress := (m.visitAll p files).1

/-- The files of the map in the order in which a recursion from the files in path order emits them. -/
def postorder (m : DependencyMap) : List String := (m.visited ⟨[], []⟩ (m.keys.mergeSort Text.precedes)).emitted

/-- Emits a file. -/
def Progress.emit (p : Progress) (file : String) : Progress := { p with emitted := p.emitted ++ [file] }

section Visits

variable {m : DependencyMap} {p : Progress} {file : String} {files : List String}

@[simp] theorem visited_nil : m.visited p [] = p := by rw [visited, visitAll]

/-- A new file is marked, its imports are visited, and it is emitted. -/
theorem visited_cons_of_new (known : file ∈ m.keys) (new : file ∉ p.marked) :
    m.visited p (file :: files) =
      m.visited ((m.visited { p with marked := file :: p.marked } ((m.imports? file).getD [])).emit file) files := by
  rw [visited, visitAll, dif_pos ⟨known, new⟩]
  rfl

/-- A file that is marked or unknown is skipped. -/
theorem visited_cons_of_old (old : ¬ (file ∈ m.keys ∧ file ∉ p.marked)) :
    m.visited p (file :: files) = m.visited p files := by
  rw [visited, visitAll, dif_neg old, visited]

/-- To visit files is to visit the first of them, then the others. -/
theorem visited_cons : m.visited p (file :: files) = m.visited (m.visited p [file]) files := by
  by_cases new : file ∈ m.keys ∧ file ∉ p.marked
  · rw [visited_cons_of_new new.1 new.2, visited_cons_of_new new.1 new.2, visited_nil]
  · rw [visited_cons_of_old new, visited_cons_of_old new, visited_nil]

end Visits

/-! ## The stack follows the recursion -/

variable {m : DependencyMap}

/-- A search with a file on top of its stack visits the imports pending there, emits the file and goes on with the stack
below. -/
theorem search_cons (p : Progress) (file : String) (pending : List String) (stack : List Frame) :
    search m p (⟨file, pending⟩ :: stack) = search m ((m.visited p pending).emit file) stack := by
  -- along the recursion: while an import is visited, the file below it waits on the stack
  fun_induction visitAll m p pending generalizing file stack with
  | case1 p => rw [search, visited_nil, Progress.emit]
  | case2 p d pending new inside after inner outer =>
    have entered : search m p (⟨file, d :: pending⟩ :: stack) =
        search m { p with marked := d :: p.marked } (⟨d, (m.imports? d).getD []⟩ :: ⟨file, pending⟩ :: stack) := by
      rw [search, dif_pos new]
    rw [entered, inner d (⟨file, pending⟩ :: stack), visited_cons_of_new new.1 new.2]
    exact outer file stack
  | case3 p d pending old ih =>
    rw [search, dif_neg old, ih file stack, visited_cons_of_old old]

/-- A search from a file of the map is a visit of it. -/
theorem searchFrom_eq_visited {p : Progress} {file : String} (known : file ∈ m.keys) :
    searchFrom m p file = m.visited p [file] := by
  rw [searchFrom]
  split
  · rename_i marked
    rw [visited_cons_of_old fun new => new.2 marked, visited_nil]
  · rename_i new
    rw [search_cons, search, visited_cons_of_new known new, visited_nil]

/-- Searches from files of the map visit them in turn. -/
theorem foldl_searchFrom {files : List String} (known : files ⊆ m.keys) (p : Progress) :
    files.foldl (searchFrom m) p = m.visited p files := by
  induction files generalizing p with
  | nil => rw [List.foldl_nil, visited_nil]
  | cons file files ih =>
    obtain ⟨first, others⟩ := List.cons_subset.mp known
    rw [List.foldl_cons, searchFrom_eq_visited first, ih others, ← visited_cons]

/-- The order is that of the recursion, for every map, with cycles or without. So it does not depend on the order in which
the entries of the map stand. -/
theorem order_eq_postorder (m : DependencyMap) :
    m.order = m.postorder ∧ ∀ m' : DependencyMap, m'.entries.Perm m.entries → m'.order = m.order := by
  constructor
  · have known : m.keys.mergeSort Text.precedes ⊆ m.keys := fun _ mem => List.mem_mergeSort.mp mem
    rw [order, foldl_searchFrom known, postorder]
  · intro m' perm
    exact order_congr fun file => Table.get?_perm perm file

/-- The map with a cycle, its entries the other way round. -/
def Sample.reversed : DependencyMap := ⟨Sample.tangled.entries.reverse, by decide +kernel⟩

/-- A map with a cycle has the order of the recursion, whichever way round its entries stand. -/
theorem sample_postorder : Sample.reversed.entries.Perm Sample.tangled.entries ∧
    Sample.tangled.order = Sample.tangled.postorder ∧ Sample.reversed.order = Sample.tangled.order := by
  have perm : Sample.reversed.entries.Perm Sample.tangled.entries := List.reverse_perm _
  obtain ⟨same, any⟩ := order_eq_postorder Sample.tangled
  exact ⟨perm, same, any Sample.reversed perm⟩

end CodeAtlas.DependencyMap
