import CodeAtlas.Language.Imports
import CodeAtlas.Proofs.Pattern.Search
import CodeAtlas.Proofs.Rearrangement

/-!
# Imports found piece by piece

A pattern finds imports from a cursor on (`Imports.Finds`), and what it finds is put together piece by piece: a piece in
which no match starts adds nothing, and one that a match reads adds the imports of the match. The imports of several
patterns are sorted by where they start, and imports that start first can be taken out of the sort (`sorted_block`).
-/

namespace CodeAtlas.Imports

/-- From the cursor on the pattern finds these imports. -/
def Finds (dotted : Bool) (p : Pattern) (bound : Nat) (s : Cursor) (found : List FoundImport) : Prop :=
  s.captures = [] ∧ ((p.matchesFrom bound s).mapM (ofMatch dotted p)).map List.flatten = .ok found

section Finds

variable {dotted : Bool} {p : Pattern} {bound : Nat} {s : Cursor} {found block : List FoundImport}
  {text rest : List Char} {m : Match}

theorem ofPattern_of_finds (h : Finds dotted p (text.length + 1) (.start text) found) :
    ofPattern dotted text p = .ok found := by
  rw [ofPattern, Pattern.findAll_eq_matchesFrom]
  exact h.2

namespace Finds

/-- At the end of a text nothing is found. -/
theorem at_end (fresh : s.captures = []) (ended : s.rest = []) (none : p.matchAt bound s true = none) :
    Finds dotted p bound s [] := by
  refine ⟨fresh, ?_⟩
  rw [Pattern.matchesFrom_end fresh ended none]
  rfl

/-- A character at which no match starts adds nothing. -/
theorem skip {c : Char} (later : Finds dotted p bound (s.skip c rest) found) (next : s.rest = c :: rest)
    (none : p.matchAt bound s true = none) : Finds dotted p bound s found := by
  obtain ⟨fresh, later⟩ := later
  change s.captures = [] at fresh
  refine ⟨fresh, ?_⟩
  rw [Pattern.matchesFrom_skip fresh next none]
  exact later

/-- A piece in which no match starts adds nothing. -/
theorem quiet (later : Finds dotted p bound (s.after text rest) found) (passes : s.rest = text ++ rest)
    (quiet : p.IsQuiet bound s text rest) : Finds dotted p bound s found := by
  obtain ⟨fresh, later⟩ := later
  change s.captures = [] at fresh
  refine ⟨fresh, ?_⟩
  rw [Pattern.matchesFrom_quiet fresh passes quiet]
  exact later

/-- A piece that a match reads adds the imports of the match. -/
theorem hit (later : Finds dotted p bound (s.after text rest) found) (passes : s.rest = text ++ rest)
    (hits : p.matchAt bound s true = some m) (some : text ≠ []) (stop : m.stop = s.position + text.length)
    (gives : ofMatch dotted p m = .ok block) : Finds dotted p bound s (block ++ found) := by
  obtain ⟨fresh, later⟩ := later
  change s.captures = [] at fresh
  refine ⟨fresh, ?_⟩
  obtain ⟨lists, maps, rfl⟩ : ∃ lists, (p.matchesFrom bound (s.after text rest)).mapM (ofMatch dotted p) = .ok lists ∧
      lists.flatten = found := by
    cases all : (p.matchesFrom bound (s.after text rest)).mapM (ofMatch dotted p) with
    | error e => simp [all, Except.map] at later
    | ok lists => exact ⟨lists, rfl, by simpa [all, Except.map] using later⟩
  rw [Pattern.matchesFrom_hit fresh passes hits some stop, List.mapM_cons, gives, maps]
  rfl

end Finds

end Finds

/-! ## Sorting -/

/-- The imports in the order in which they start. -/
def sorted (found : List FoundImport) : List FoundImport := found.mergeSort fun a b => a.start ≤ b.start

theorem start_trans (a b c : FoundImport) (h : decide (a.start ≤ b.start) = true)
    (h' : decide (b.start ≤ c.start) = true) : decide (a.start ≤ c.start) = true :=
  decide_eq_true (Int.le_trans (of_decide_eq_true h) (of_decide_eq_true h'))

theorem start_total (a b : FoundImport) : (decide (a.start ≤ b.start) || decide (b.start ≤ a.start)) = true := by
  simpa using Int.le_total a.start b.start

theorem pairwise_sorted (found : List FoundImport) : (sorted found).Pairwise fun a b => a.start ≤ b.start :=
  (List.pairwise_mergeSort start_trans start_total found).imp of_decide_eq_true

/-- Imports that start at the same place stay in their order. -/
theorem filter_sorted (found : List FoundImport) (k : Int) :
    (sorted found).filter (·.start = k) = found.filter (·.start = k) := by
  refine List.filter_mergeSort start_trans start_total (fun a b ha hb => decide_eq_true (Int.le_of_eq ?_)) found
  exact (of_decide_eq_true ha).trans (of_decide_eq_true hb).symm

/-- Sorted lists are equal if the imports that start at each place are. -/
theorem eq_of_filter_eq : ∀ {l l' : List FoundImport}, l.Pairwise (fun a b => a.start ≤ b.start) →
    l'.Pairwise (fun a b => a.start ≤ b.start) → (∀ k : Int, l.filter (·.start = k) = l'.filter (·.start = k)) → l = l'
  | [], [], _, _, _ => rfl
  | [], b :: l', _, _, same => by simpa using same b.start
  | a :: l, [], _, _, same => by simpa using same a.start
  | a :: l, b :: l', sorts, sorts', same => by
    have first : ∀ {a b : FoundImport} {l l' : List FoundImport}, (b :: l').Pairwise (fun a b => a.start ≤ b.start) →
        (a :: l).filter (·.start = a.start) = (b :: l').filter (·.start = a.start) → b.start ≤ a.start := by
      intro a b l l' sorts same
      have mem : a ∈ b :: l' := (List.mem_filter.mp (same ▸ by simp : a ∈ (b :: l').filter (·.start = a.start))).1
      rcases List.mem_cons.mp mem with rfl | mem
      · exact Int.le_refl _
      · exact List.rel_of_pairwise_cons sorts mem
    have equal : a.start = b.start := Int.le_antisymm (first sorts (same b.start).symm) (first sorts' (same a.start))
    have heads := same a.start
    simp only [List.filter_cons, equal, decide_true, if_true] at heads
    obtain ⟨rfl, -⟩ := List.cons.inj heads
    have tails : ∀ k : Int, l.filter (·.start = k) = l'.filter (·.start = k) := by
      intro k
      have whole := same k
      simp only [List.filter_cons] at whole
      split at whole
      · exact (List.cons.inj whole).2
      · exact whole
    rw [eq_of_filter_eq sorts.of_cons sorts'.of_cons tails]

/-- Imports that start before all others, at one place, come first. -/
theorem sorted_block {front block back : List FoundImport} {k : Int} (here : ∀ i ∈ block, i.start = k)
    (later : ∀ i ∈ front ++ back, k < i.start) :
    sorted (front ++ block ++ back) = block ++ sorted (front ++ back) := by
  have later' : ∀ i ∈ sorted (front ++ back), k < i.start := fun i mem => later i (List.mem_mergeSort.mp mem)
  refine eq_of_filter_eq (pairwise_sorted _) ?_ fun j => ?_
  · refine List.pairwise_append.mpr ⟨?_, pairwise_sorted _, fun a mem b mem' => ?_⟩
    · exact List.pairwise_of_forall_mem_list fun a mem b mem' => Int.le_of_eq ((here a mem).trans (here b mem').symm)
    · rw [here a mem]
      exact Int.le_of_lt (later' b mem')
  · simp only [filter_sorted, List.filter_append]
    by_cases same : j = k
    · have none : ∀ {part : List FoundImport}, (∀ i ∈ part, k < i.start) → part.filter (·.start = j) = [] := by
        intro part above
        refine List.filter_eq_nil_iff.mpr fun i mem => ?_
        simpa [same] using Int.ne_of_gt (above i mem)
      rw [none fun i mem => later i (List.mem_append_left _ mem), none fun i mem => later i (List.mem_append_right _ mem)]
      simp
    · have none : block.filter (·.start = j) = [] :=
        List.filter_eq_nil_iff.mpr fun i mem => by simpa [here i mem] using Ne.symm same
      simp [none]

end CodeAtlas.Imports
