import CodeAtlas.Language.Bundled
import CodeAtlas.Proofs.Run.Joined

/-!
# The edges of a graph

The graph of a run, whatever files were analyzed in whatever way, has an edge for each relation of the run and each edge
joins two of its nodes (`graph_keeps_relations`). If the ids of the elements are distinct, every edge leads from a node of a
kind that may have such edges to a node of a kind that may be reached by them (`edges_follow_schema`).
-/

namespace CodeAtlas

theorem RelationKind.name_injective : Function.Injective RelationKind.name := by
  intro a b same
  exact Option.some.inj (by rw [← ofName?_name a, same, ofName?_name])

namespace Graph

/-- Relations that start and end at the given ids are all kept. -/
theorem splitRelations_of_joined {ids : List String} {relations : List Relation}
    (joined : ∀ rel ∈ relations, rel.source ∈ ids ∧ rel.target ∈ ids) :
    splitRelations ids relations = (relations, []) := by
  unfold splitRelations
  rw [List.partition_eq_filter_filter]
  have kept : ∀ rel ∈ relations, (ids.contains rel.source && ids.contains rel.target) = true := by
    intro rel mem
    simpa using joined rel mem
  refine Prod.ext (List.filter_eq_self.mpr kept) (List.filter_eq_nil_iff.mpr fun rel mem => ?_)
  simpa using kept rel mem

/-- What tells an edge from others: where it starts, where it ends and its kind. -/
def edgeKey (e : GraphEdge) : String × String × String := (e.source, e.target, e.kind)

/-- Different relations give edges that can be told apart. -/
theorem nodup_edgeKeys {relations : List Relation} (distinct : relations.Nodup) :
    ((relations.map edgeOf).map edgeKey).Nodup := by
  rw [List.map_map]
  refine distinct.map fun a b same => ?_
  obtain ⟨source, same⟩ := Prod.mk.inj same
  obtain ⟨target, kind⟩ := Prod.mk.inj same
  cases a
  cases b
  simp only [edgeOf] at source target kind
  rw [source, target, RelationKind.name_injective kind]

end Graph

namespace Run.IsGrounded

variable {run : Run} (h : run.IsGrounded)
include h

theorem ends_of_mem_allRelations {rel : Relation} (mem : rel ∈ run.allRelations) :
    rel.source ∈ run.elements.map (·.id) ∧ rel.target ∈ run.elements.map (·.id) := by
  obtain ⟨a, ha, b, hb, source, target, -⟩ := h.joins_of_mem_allRelations mem
  exact ⟨List.mem_map.mpr ⟨a, ha, source⟩, List.mem_map.mpr ⟨b, hb, target⟩⟩

/-- No relation of a grounded run is left out of its graph. -/
theorem edges_graphOf : (Analyzer.graphOf run).edges = run.allRelations.map Graph.edgeOf := by
  simp only [Analyzer.graphOf, Graph.build, Graph.splitRelations_of_joined fun _ => h.ends_of_mem_allRelations]

/-- Every edge of the graph of a grounded run joins two nodes. -/
theorem joined_graphOf {e : GraphEdge} (mem : e ∈ (Analyzer.graphOf run).edges) :
    e.source ∈ (Analyzer.graphOf run).nodeIds ∧ e.target ∈ (Analyzer.graphOf run).nodeIds := by
  rw [h.edges_graphOf] at mem
  obtain ⟨rel, hr, rfl⟩ := List.mem_map.mp mem
  simp only [Analyzer.graphOf, Graph.nodeIds_build]
  exact h.ends_of_mem_allRelations hr

end Run.IsGrounded

/-! ## Every relation becomes an edge -/

/-- After every history, the graph of the run leaves out no relation, each edge joins two nodes, and if the elements have
distinct ids no two edges have the same ends and the same kind. -/
theorem graph_keeps_relations {setup : Setup} {runId : String} {a : Analyzer}
    (fresh : Analyzer.new setup runId = .ok a) (requests : List Analyzer.Request) :
    let run := (a.afterAll requests).run
    let graph := Analyzer.graphOf run
    (Graph.splitRelations (run.elements.map (·.id)) run.allRelations).2 = [] ∧
      graph.edges = (run.relations ++ run.resolve).map Graph.edgeOf ∧
      (∀ e ∈ graph.edges, e.source ∈ graph.nodeIds ∧ e.target ∈ graph.nodeIds) ∧
      ((run.elements.map (·.id)).Nodup → (graph.edges.map Graph.edgeKey).Nodup) := by
  intro run graph
  have h : run.IsGrounded := (Analyzer.afterAll_gathered fresh requests).grounded
  refine ⟨?_, h.edges_graphOf, fun _ => h.joined_graphOf, ?_⟩
  · rw [Graph.splitRelations_of_joined fun _ => h.ends_of_mem_allRelations]
  · intro distinct
    rw [h.edges_graphOf]
    exact Graph.nodup_edgeKeys (h.nodup_allRelations distinct)

/-! ## A small repository -/

namespace Sample

/-- `class A: def m(): A()` over two lines, and its tree. -/
def classFile : SourceFile where
  text := "class A:\n def m(): A()"
  tree := some ⟨.mk "module" true 0 22 none [
    .mk "class_definition" true 0 22 none [
      .mk "identifier" true 6 7 (some "name") [],
      .mk "function_definition" true 10 22 none [
        .mk "identifier" true 14 15 (some "name") [],
        .mk "call" true 19 22 none [.mk "identifier" true 19 20 (some "function") []]]]], false⟩

/-- `from a import A` and its tree. -/
def importFile : SourceFile where
  text := "from a import A"
  tree := some ⟨.mk "module" true 0 15 none [
    .mk "import_from_statement" true 0 15 none [
      .mk "dotted_name" true 5 6 (some "module_name") [],
      .mk "dotted_name" true 14 15 (some "name") []]], false⟩

/-- Bundled languages, two known files, visits one after another. -/
def setup : Setup where
  root := "/repo"
  registry := Bundled.registry
  known := some ["a.py", "b.py"]
  workers := 1
  strict := true
  aliases := none
  onDisk := fun _ => .ok false
  schedule := id

/-- The analyzer of the small repository. -/
def analyzer : Analyzer := ⟨setup, .new "run", .empty, [], none⟩

/-- The importing file is analyzed first, then the graph is asked for, then the class is analyzed. -/
def requests : List Analyzer.Request := [.analyze "b.py" importFile, .graph, .analyze "a.py" classFile]

/-- The run after the requests. -/
def run : Run := (analyzer.afterAll requests).run

theorem new_setup : Analyzer.new setup "run" = .ok analyzer := by
  unfold Analyzer.new
  rw [if_neg (by decide), show Path.tidy setup.root = setup.root by decide +kernel]
  rfl

/-- The import, the class and the method have ids of their own; a containment, a call and an import relate them. -/
theorem distinct_run : (run.elements.map (·.id)).Nodup ∧
    run.allRelations.map (·.kind) = [.contains, .imports, .calls] := by decide +kernel

end Sample

/-- The three relations of the small repository become three different edges. -/
theorem sample_keeps_relations :
    Sample.run.allRelations.map (·.kind) = [.contains, .imports, .calls] ∧
      ((Analyzer.graphOf Sample.run).edges.map Graph.edgeKey).Nodup :=
  ⟨Sample.distinct_run.2, (graph_keeps_relations Sample.new_setup Sample.requests).2.2.2 Sample.distinct_run.1⟩

/-! ## The kinds that edges join -/

/-- An edge of a kind may lead from a node of a kind to a node of a kind; kinds are given as graphs write them. -/
def schemaAllows (edge source target : String) : Bool :=
  match edge with
  | "contains" => source ≠ "import"
  | "calls" => source ≠ "import" && ["function", "method", "class", "variable"].contains target
  | "inherits" | "implements" =>
    ["class", "interface"].contains source && ["class", "interface", "type", "enum"].contains target
  | "references" => source ≠ "import" && ["class", "interface", "type", "enum"].contains target
  | "imports" => source = "import" && target ≠ "import"
  | _ => false

/-- The schema says in writing which kinds a relation joins, and only containments lead to imports. -/
theorem schemaAllows_of_joins {kind : RelationKind} {source target : ElementKind}
    (h : kind.joins source target = true) :
    schemaAllows kind.name source.name target.name = true ∧ (target.name = "import" → kind.name = "contains") := by
  -- kinds are finitely many, so the table can be gone through
  have table : ∀ kind ∈ RelationKind.all, ∀ source ∈ ElementKind.all, ∀ target ∈ ElementKind.all,
      kind.joins source target = true → schemaAllows kind.name source.name target.name = true ∧
        (target.name = "import" → kind.name = "contains") := by decide +kernel
  exact table kind (RelationKind.mem_all kind) source (ElementKind.mem_all source) target (ElementKind.mem_all target) h

/-- Elements with the same id are the same if ids are distinct. -/
theorem eq_of_id_eq {elements : List Element} (distinct : (elements.map (·.id)).Nodup) {a b : Element}
    (ha : a ∈ elements) (hb : b ∈ elements) (same : a.id = b.id) : a = b :=
  List.inj_on_of_nodup_map distinct ha hb same

/-- After every history in which the elements of the run have distinct ids, each edge of the graph leads from a node to a
node, and their kinds are as the schema allows; so only containments lead to imports. -/
theorem edges_follow_schema {setup : Setup} {runId : String} {a : Analyzer}
    (fresh : Analyzer.new setup runId = .ok a) (requests : List Analyzer.Request)
    (distinct : ((a.afterAll requests).run.elements.map (·.id)).Nodup) :
    let graph := Analyzer.graphOf (a.afterAll requests).run
    ∀ e ∈ graph.edges, (∃ source ∈ graph.nodes, source.id = e.source) ∧ (∃ target ∈ graph.nodes, target.id = e.target) ∧
      ∀ source ∈ graph.nodes, ∀ target ∈ graph.nodes, source.id = e.source → target.id = e.target →
        schemaAllows e.kind source.kind target.kind = true ∧ (target.kind = "import" → e.kind = "contains") := by
  intro graph e mem
  have h : (a.afterAll requests).run.IsGrounded := (Analyzer.afterAll_gathered fresh requests).grounded
  rw [h.edges_graphOf] at mem
  obtain ⟨rel, hr, rfl⟩ := List.mem_map.mp mem
  obtain ⟨x, hx, y, hy, source, target, joins⟩ := h.joins_of_mem_allRelations hr
  refine ⟨⟨Graph.nodeOf x, List.mem_map_of_mem hx, source⟩, ⟨Graph.nodeOf y, List.mem_map_of_mem hy, target⟩, ?_⟩
  intro s hs t ht hs' ht'
  obtain ⟨x', hx', rfl⟩ := List.mem_map.mp hs
  obtain ⟨y', hy', rfl⟩ := List.mem_map.mp ht
  obtain rfl := eq_of_id_eq distinct hx' hx (hs'.trans source.symm)
  obtain rfl := eq_of_id_eq distinct hy' hy (ht'.trans target.symm)
  exact schemaAllows_of_joins joins

/-- The edges of the small repository join nodes of kinds that may be joined. -/
theorem sample_follows_schema : (Sample.run.elements.map (·.id)).Nodup ∧
    ∀ e ∈ (Analyzer.graphOf Sample.run).edges, ∀ source ∈ (Analyzer.graphOf Sample.run).nodes,
      ∀ target ∈ (Analyzer.graphOf Sample.run).nodes, source.id = e.source → target.id = e.target →
        schemaAllows e.kind source.kind target.kind = true ∧ (target.kind = "import" → e.kind = "contains") := by
  refine ⟨Sample.distinct_run.1, fun e mem => ?_⟩
  exact (edges_follow_schema Sample.new_setup Sample.requests Sample.distinct_run.1 e mem).2.2

end CodeAtlas
