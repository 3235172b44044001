import CodeAtlas.Proofs.Graph.Edges
import CodeAtlas.Proofs.Visit.Nesting

/-!
# The containments of a graph

If the trees of all analyzed files are nested, the containments of a run lead to later elements of the same file that stand
within their containers (`Run.IsContained`): one visit finds such containments, and merging appends them. In a graph with
distinct ids the position of a node then grows along every containment, so the containments are a forest
(`Graph.IsForest`, `containments_form_forest`).
-/

namespace CodeAtlas

/-- The tree of the file, if there is one, is nested. -/
def SourceFile.isNested (src : SourceFile) : Bool := src.tree.all (·.root.isNested)

/-! ## Runs -/

/-- The containments of the run lead to later elements within their containers. -/
def Run.IsContained (run : Run) : Prop := Contained run.elements run.relations

/-- A visit of a nested tree finds elements within elements, or nothing. -/
theorem Setup.visit_contained {s : Setup} {r : Resolver} {runId : String} {ordinal : Nat} {file : String}
    {src : SourceFile} {result : FileResult} (nested : src.isNested = true)
    (h : s.visit r runId ordinal file src = .ok result) {found : Findings} (ok : result.outcome = .ok found) :
    Contained found.elements found.relations := by
  have tree : ∀ t, src.tree = some t → t.root.isNested = true := by
    intro t some
    simpa [SourceFile.isNested, some] using nested
  unfold Setup.visit at h
  split at h
  · cases h
  · obtain ⟨prepared, -, rfl⟩ := Except.map_eq_ok_iff.mp h
    obtain ⟨p, -, findings⟩ := Except.bind_eq_ok_iff.mp (Except.mapError_eq_ok_iff.mp ok)
    exact Visit.findings_contained tree findings

/-- Merging visits of nested trees keeps containments within. -/
theorem Run.isContained_invariant (s : Setup) : RunInvariant s (·.isNested = true) Run.IsContained where
  missing := rfl
  new _ := Contained.nil []
  number _ h := h
  merge {run r ordinal file src result} h nested visit := by
    unfold Run.merge
    cases outcome : result.outcome with
    | error e => exact h
    | ok found => exact Contained.append h (Setup.visit_contained nested visit outcome)

/-! ## Graphs -/

namespace Graph

/-- The edges that are containments. -/
def containments (g : Graph) : List GraphEdge := g.edges.filter (·.kind = "contains")

/-- A containment leads from one id to the other. -/
def Holds (g : Graph) (outer inner : String) : Prop := ∃ e ∈ g.containments, e.source = outer ∧ e.target = inner

/-- The containments are a forest that follows files and places. -/
structure IsForest (g : Graph) : Prop where
  /-- Every node is held at most once. -/
  once : (g.containments.map (·.target)).Nodup
  /-- A containment joins two nodes, the earlier one holds the later one. -/
  earlier : ∀ e ∈ g.containments, g.nodeIds.idxOf e.source < g.nodeIds.idxOf e.target ∧
    g.nodeIds.idxOf e.target < g.nodeIds.length
  /-- What is held stands in the file of its holder, and within it. -/
  within : ∀ e ∈ g.containments, ∀ outer ∈ g.nodes, ∀ inner ∈ g.nodes, outer.id = e.source → inner.id = e.target →
    outer.file = inner.file ∧ inner.location.IsWithin outer.location
  /-- No node is held by itself, directly or indirectly. -/
  acyclic : ∀ id, ¬ Relation.TransGen g.Holds id id

/-- In a list without repetition, what comes first has the smaller index. -/
theorem idxOf_lt_idxOf {ids : List String} (distinct : ids.Nodup) {a b : String} (later : [a, b].Sublist ids) :
    ids.idxOf a < ids.idxOf b ∧ ids.idxOf b < ids.length := by
  obtain ⟨front, back, rfl, first, second⟩ := List.cons_sublist_iff.mp later
  have second : b ∈ back := List.singleton_sublist.mp second
  have apart : b ∉ front := fun mem => (List.nodup_append.mp distinct).2.2 b mem b second rfl
  rw [List.idxOf_append_of_mem first, List.idxOf_append_of_notMem apart, List.length_append]
  have here := List.idxOf_lt_length_of_mem first
  have there := List.idxOf_lt_length_of_mem second
  omega

/-- Positions grow along containments, so none leads back. -/
theorem idxOf_lt_of_holds {g : Graph}
    (earlier : ∀ e ∈ g.containments, g.nodeIds.idxOf e.source < g.nodeIds.idxOf e.target) {outer inner : String}
    (held : Relation.TransGen g.Holds outer inner) : g.nodeIds.idxOf outer < g.nodeIds.idxOf inner := by
  have step : ∀ {outer inner}, g.Holds outer inner → g.nodeIds.idxOf outer < g.nodeIds.idxOf inner := by
    rintro outer inner ⟨e, mem, rfl, rfl⟩
    exact earlier e mem
  induction held with
  | single held => exact step held
  | tail _ held ih => exact ih.trans (step held)

end Graph

namespace Run.IsGrounded

variable {run : Run} (h : run.IsGrounded)
include h

/-- The containments of the graph of a run are the relations that were found in trees. -/
theorem containments_graphOf : (Analyzer.graphOf run).containments = run.relations.map Graph.edgeOf := by
  have found : ∀ e ∈ run.relations.map Graph.edgeOf, decide (e.kind = "contains") = true := by
    intro e mem
    obtain ⟨rel, hr, rfl⟩ := List.mem_map.mp mem
    simp [Graph.edgeOf, (h.containers rel hr).1, RelationKind.name]
  have resolved : ∀ e ∈ run.resolve.map Graph.edgeOf, ¬ decide (e.kind = "contains") = true := by
    intro e mem contains
    obtain ⟨rel, hr, rfl⟩ := List.mem_map.mp mem
    obtain ⟨ref, known, target, -, rfl⟩ := Run.mem_resolve.mp hr
    have contains : ref.kind.name = RelationKind.contains.name := of_decide_eq_true contains
    exact h.reference_ne_contains known (RelationKind.name_injective contains)
  rw [Graph.containments, h.edges_graphOf, Run.allRelations, List.map_append, List.filter_append,
    List.filter_eq_self.mpr found, List.filter_eq_nil_iff.mpr resolved, List.append_nil]

/-- The containments of a graph are a forest if those of its run lead to later elements within. -/
theorem isForest_graphOf (contained : run.IsContained) (distinct : (run.elements.map (·.id)).Nodup) :
    (Analyzer.graphOf run).IsForest := by
  have ids : (Analyzer.graphOf run).nodeIds = run.elements.map (·.id) := Graph.nodeIds_build _ _
  have earlier : ∀ e ∈ (Analyzer.graphOf run).containments,
      (Analyzer.graphOf run).nodeIds.idxOf e.source < (Analyzer.graphOf run).nodeIds.idxOf e.target ∧
        (Analyzer.graphOf run).nodeIds.idxOf e.target < (Analyzer.graphOf run).nodeIds.length := by
    rw [h.containments_graphOf, ids]
    intro e mem
    obtain ⟨rel, hr, rfl⟩ := List.mem_map.mp mem
    obtain ⟨outer, inner, later, source, target, -⟩ := contained rel hr
    have later : [rel.source, rel.target].Sublist (run.elements.map (·.id)) := by
      rw [← source, ← target]
      exact later.map _
    exact Graph.idxOf_lt_idxOf distinct later
  refine ⟨?_, earlier, ?_, fun id held => ?_⟩
  · rw [h.containments_graphOf, List.map_map]
    exact distinct.sublist h.targets
  · rw [h.containments_graphOf]
    intro e mem outer' houter' inner' hinner' source' target'
    obtain ⟨rel, hr, rfl⟩ := List.mem_map.mp mem
    obtain ⟨outer, inner, later, source, target, file, within⟩ := contained rel hr
    -- nodes and elements with the same ids are the same, since ids are distinct
    obtain ⟨x, hx, rfl⟩ := List.mem_map.mp houter'
    obtain ⟨y, hy, rfl⟩ := List.mem_map.mp hinner'
    have houter : outer ∈ run.elements := later.subset List.mem_cons_self
    have hinner : inner ∈ run.elements := later.subset (List.mem_cons_of_mem _ List.mem_cons_self)
    obtain rfl := eq_of_id_eq distinct hx houter (source'.trans source.symm)
    obtain rfl := eq_of_id_eq distinct hy hinner (target'.trans target.symm)
    exact ⟨file, within⟩
  · exact Nat.lt_irrefl _ (Graph.idxOf_lt_of_holds (fun e mem => (earlier e mem).1) held)

end Run.IsGrounded

/-- After every history of requests that bring nested trees only, if the elements of the run have distinct ids, the
containments of its graph are a forest: each node is held at most once, by an earlier node of the same file, and stands
within it. -/
theorem containments_form_forest {setup : Setup} {runId : String} {a : Analyzer}
    (fresh : Analyzer.new setup runId = .ok a) (requests : List Analyzer.Request)
    (nested : ∀ request ∈ requests, ∀ src ∈ request.sources, src.isNested = true)
    (distinct : ((a.afterAll requests).run.elements.map (·.id)).Nodup) :
    (Analyzer.graphOf (a.afterAll requests).run).IsForest := by
  have grounded : (a.afterAll requests).run.IsGrounded := (Analyzer.afterAll_gathered fresh requests).grounded
  have contained := (Run.isContained_invariant a.setup).afterAll fresh requests nested
  exact grounded.isForest_graphOf contained distinct

/-- The class of the small repository holds its method. -/
theorem sample_forms_forest : (Sample.run.relations.map (·.kind) = [.contains]) ∧
    (Analyzer.graphOf Sample.run).IsForest := by
  have nested : ∀ request ∈ Sample.requests, ∀ src ∈ request.sources, src.isNested = true := by
    simp only [Sample.requests, List.forall_mem_cons, Analyzer.Request.sources]
    decide +kernel
  exact ⟨by decide +kernel, containments_form_forest Sample.new_setup Sample.requests nested Sample.distinct_run.1⟩

end CodeAtlas
