import CodeAtlas.Proofs.Analyzer.Incremental
import CodeAtlas.Proofs.Dependency.Targets

/-!
# The parts of an analyzer's state

Besides its run an analyzer holds a dependency map, an order of files and maybe a graph. The order and the map always list
the same files (`IsListed`). The files they list are those that were visited, and the graph is that of the run
(`IsSettled`), as long as the imports of every file that is analyzed alone can be looked up: `analyze` merges a visit
before it looks for dependencies, so that a look-up that fails leaves behind a file that was visited and is not listed
(`sample_inconsistent`). An analysis of a whole repository either replaces all parts of the state or none.
-/

namespace CodeAtlas

namespace Run

/-- The file was visited, with success or without. -/
def Visited (run : Run) (file : String) : Prop := file ∈ run.analyzed ∨ file ∈ run.failed.keys

theorem not_visited_new (id file : String) : ¬ (new id).Visited file := by simp [Visited, new, Table.keys, Table.empty]

/-- Merging a result adds its file to the visited ones. -/
theorem visited_merge {run : Run} {result : FileResult} {file : String} :
    (run.merge result).Visited file ↔ run.Visited file ∨ file = result.file := by
  unfold merge Visited
  cases result.outcome with
  | error error => rw [Table.mem_keys_put, or_assoc]
  | ok found => rw [List.mem_append, List.mem_singleton, or_right_comm]

theorem visited_mergeAll {file : String} (results : List FileResult) (run : Run) :
    (results.foldl merge run).Visited file ↔ run.Visited file ∨ file ∈ results.map (·.file) := by
  induction results generalizing run with
  | nil => simp
  | cons result results ih => rw [List.foldl_cons, ih, visited_merge, or_assoc, List.map_cons, List.mem_cons]

end Run

namespace Setup

variable {s : Setup} {r : Resolver} {runId : String}

/-- The result of a visit is about the visited file. -/
theorem visit_file {ordinal : Nat} {file : String} {src : SourceFile} {result : FileResult}
    (h : s.visit r runId ordinal file src = .ok result) : result.file = file := by
  unfold visit at h
  split at h
  · cases h
  · obtain ⟨prepared, -, rfl⟩ := Except.map_eq_ok_iff.mp h
    rfl

theorem AreVisits.files {files : Table String SourceFile} {order : List String} {results : List FileResult}
    (visits : s.AreVisits r runId files order results) : results.map (·.file) = order := by
  induction results generalizing order with
  | nil => exact (List.forall₂_nil_right_iff.mp visits).symm
  | cons result results ih =>
    obtain ⟨file, order, ⟨ordinal, visit⟩, rest, rfl⟩ := List.forall₂_cons_right_iff.mp visits
    rw [List.map_cons, visit_file visit, ih rest]

end Setup

namespace Analyzer

/-- A completed run visits the files that it lists. -/
theorem visited_completed {a : Analyzer} {runId : String} {files : Table String SourceFile} {deadline : Deadline}
    {run : Run} {dependencies : DependencyMap} {order : List String}
    (h : a.completeRun runId files deadline = .ok (run, dependencies, order)) {file : String} :
    run.Visited file ↔ file ∈ order := by
  obtain ⟨-, -, results, run', visited, rfl⟩ := completeRun_ok h
  obtain ⟨visits, next, rfl⟩ := Setup.visitAll_ok visited
  have new : ¬ ((Run.new runId).numbered next).Visited file := Run.not_visited_new runId file
  rw [Run.visited_mergeAll, Setup.AreVisits.files visits, or_iff_right new]

/-! ## The order and the dependency map -/

/-- The order lists every file of the dependency map once, every entry is about its file, and no file is listed that was
not visited. -/
structure IsListed (a : Analyzer) : Prop where
  distinct : a.order.Nodup
  keys : ∀ file, file ∈ a.order ↔ file ∈ a.dependencies.keys
  entries : ∀ file entry, a.dependencies.get? file = some entry → entry.file = file
  visited : ∀ file ∈ a.order, a.run.Visited file

namespace IsListed

variable {a : Analyzer}

theorem reset (a : Analyzer) (runId : String) : (a.reset runId).IsListed := ⟨List.nodup_nil, fun _ => Iff.rfl, nofun, nofun⟩

/-- A file that is merged, listed or not. -/
theorem merge (h : a.IsListed) (next : Nat) (result : FileResult) :
    IsListed { a with run := (a.run.numbered next).merge result } :=
  ⟨h.distinct, h.keys, h.entries, fun file mem => Run.visited_merge.mpr (Or.inl (h.visited file mem))⟩

/-- A file that is listed when it is new, and its entry. -/
theorem put (h : a.IsListed) {file : String} {result : FileResult} (same : result.file = file) (next : Nat)
    (found : List String) :
    IsListed ⟨a.setup, (a.run.numbered next).merge result, a.dependencies.put file ⟨file, found⟩,
      Resolver.addNew a.order file, none⟩ := by
  refine ⟨Resolver.nodup_addNew h.distinct file, fun path => ?_, fun path entry get => ?_, fun path mem => ?_⟩
  · simp only [Resolver.mem_addNew, Table.mem_keys_put, h.keys]
  · rw [Table.get?_put] at get
    split at get
    · rename_i here
      rw [← Option.some.inj get]
      exact here
    · exact h.entries path entry get
  · rw [Run.visited_merge, same]
    exact (Resolver.mem_addNew.mp mem).imp_left (h.visited path)

/-- What a completed run lists. -/
theorem completed {runId : String} {files : Table String SourceFile} {deadline : Deadline} {run : Run}
    {dependencies : DependencyMap} {order : List String}
    (h : a.completeRun runId files deadline = .ok (run, dependencies, order)) (graph : Option Graph) :
    IsListed ⟨a.setup, run, dependencies, order, graph⟩ := by
  have visited : ∀ file, file ∈ order ↔ run.Visited file := fun _ => (visited_completed h).symm
  obtain ⟨mapped, rfl, -⟩ := completeRun_ok h
  obtain ⟨found, -, rfl⟩ := Dependency.mapOf_eq_ok_iff.mp mapped
  refine ⟨DependencyMap.nodup_order _, fun _ => DependencyMap.mem_order, fun path entry get => ?_,
    fun file => (visited file).mp⟩
  simp only [Dependency.get?_putEntries, Table.get?_empty] at get
  split at get
  · rw [← Option.some.inj get]
  · cases get

/-- Every request keeps the order and the dependency map together. -/
theorem after (h : a.IsListed) (request : Request) : (a.after request).IsListed := by
  cases request with
  | analyze file src =>
    rw [Analyzer.after]
    have analyzes := a.analyze_analyzes file src
    generalize a.analyze file src = outcome at *
    cases analyzes with
    | nothing => exact h
    | merged => exact h.merge _ _
    | listed visited => exact h.put (Setup.visit_file visited) _ _
  | analyzeRepository runId files deadline =>
    simp only [Analyzer.after, Analyzer.analyzeRepository]
    split
    · exact h
    · rename_i complete
      exact completed complete _
  | reset runId => exact .reset a runId
  | graph | search | relationsOf => exact ⟨h.distinct, h.keys, h.entries, h.visited⟩
  | dependenciesOf => exact h

end IsListed

/-! ## The graph and the visited files -/

/-- The graph, if there is one, is that of the run, and the order lists the files that were visited. -/
structure IsSettled (a : Analyzer) : Prop where
  graph : a.graph = none ∨ a.graph = some (graphOf a.run)
  visited : ∀ file, file ∈ a.order ↔ a.run.Visited file

namespace IsSettled

variable {a : Analyzer}

theorem reset (a : Analyzer) (runId : String) : (a.reset runId).IsSettled :=
  ⟨Or.inl rfl, fun file => iff_of_false List.not_mem_nil (Run.not_visited_new runId file)⟩

theorem withGraph (h : a.IsSettled) : a.withGraph.IsSettled := by
  refine ⟨Or.inr ?_, h.visited⟩
  rcases h.graph with none | some
  · simp [Analyzer.withGraph, currentGraph, none]
  · simp [Analyzer.withGraph, currentGraph, some]

/-- A file that is visited and listed. -/
theorem put (h : a.IsSettled) {file : String} {result : FileResult} (same : result.file = file) (next : Nat)
    (dependencies : DependencyMap) :
    IsSettled ⟨a.setup, (a.run.numbered next).merge result, dependencies, Resolver.addNew a.order file, none⟩ := by
  refine ⟨Or.inl rfl, fun path => ?_⟩
  rw [Run.visited_merge, Resolver.mem_addNew, same, h.visited]
  rfl

theorem completed {runId : String} {files : Table String SourceFile} {deadline : Deadline} {run : Run}
    {dependencies : DependencyMap} {order : List String}
    (h : a.completeRun runId files deadline = .ok (run, dependencies, order)) :
    IsSettled ⟨a.setup, run, dependencies, order, some (graphOf run)⟩ :=
  ⟨Or.inr rfl, fun _ => (visited_completed h).symm⟩

/-- Every request keeps the graph and the visited files in order, unless the imports of a file cannot be found. -/
theorem after (h : a.IsSettled) {request : Request}
    (found : ∀ file src, request = .analyze file src →
      (Dependency.extract a.setup.registry (a.setup.resolver a.setup.known) file src.text).Succeeds) :
    (a.after request).IsSettled := by
  cases request with
  | analyze file src =>
    obtain ⟨deps, extracted, -⟩ := found file src rfl
    rw [Analyzer.after]
    have analyzes := a.analyze_analyzes file src
    generalize a.analyze file src = outcome at *
    cases analyzes with
    | nothing => exact h
    | merged _ failed =>
      -- the one way to lose order: a visit is merged and the imports are not found
      rw [extracted] at failed
      cases failed
    | listed visited => exact h.put (Setup.visit_file visited) _ _
  | analyzeRepository runId files deadline =>
    simp only [Analyzer.after, Analyzer.analyzeRepository]
    split
    · exact h
    · rename_i complete
      exact completed complete
  | reset runId => exact .reset a runId
  | graph | search | relationsOf => exact h.withGraph
  | dependenciesOf => exact h

end IsSettled

/-! ## Histories -/

/-- With bundled languages, after every history the order and the dependency map list the same files, each once. If no
file that was analyzed alone has imports that cannot be looked up, the order lists exactly the files that were visited, and
the graph is that of the run. An analysis of a repository that fails changes nothing, whatever came before. -/
theorem history_consistent {setup : Setup} {runId : String} {a : Analyzer} (bundled : setup.registry = Bundled.registry)
    (fresh : Analyzer.new setup runId = .ok a) (requests : List Request) :
    (a.afterAll requests).IsListed ∧
      ((∀ file src e, .analyze file src ∈ requests →
          Dependency.extract Bundled.registry (a.setup.resolver a.setup.known) file src.text ≠ .error (.lookup e)) →
        (a.afterAll requests).IsSettled) ∧
      ∀ runId files deadline e, ((a.afterAll requests).analyzeRepository runId files deadline).2 = .error e →
        ((a.afterAll requests).analyzeRepository runId files deadline).1 = a.afterAll requests := by
  have new : a = a.reset runId := by
    rw [eq_of_new fresh]
    rfl
  have registry : a.setup.registry = Bundled.registry := by rw [eq_of_new fresh, bundled]
  refine ⟨?_, fun found => ?_, fun _ _ _ _ => analyzeRepository_error⟩
  · refine afterAll_keep (fun request _ b h => h.after request) ?_
    rw [new]
    exact .reset a runId
  · -- the setup goes along with the invariant: it decides which look-ups fail
    have start : a.setup = a.setup ∧ a.IsSettled := by
      refine ⟨rfl, ?_⟩
      rw [new]
      exact .reset a runId
    refine (afterAll_keep (P := fun b => b.setup = a.setup ∧ b.IsSettled) (fun request mem b h => ?_) start).2
    obtain ⟨same, settled⟩ := h
    refine ⟨(b.after_setup request).trans same, settled.after fun file src analyze => ?_⟩
    subst analyze
    rw [same, registry]
    obtain ⟨outcome, extracted, -⟩ :=
      Dependency.extract_eq_mapError Bundled.registry_sound (a.setup.resolver a.setup.known) file src.text
    cases outcome with
    | error e => exact absurd extracted (found file src e mem)
    | ok deps => exact ⟨deps, extracted, trivial⟩

end Analyzer

/-- The history of the small repository, in which files are given that imports may reach, leaves everything in order. -/
theorem sample_consistent :
    (Sample.analyzer.afterAll Sample.requests).IsListed ∧ (Sample.analyzer.afterAll Sample.requests).IsSettled := by
  obtain ⟨listed, settled, -⟩ := Analyzer.history_consistent rfl Sample.new_setup Sample.requests
  refine ⟨listed, settled fun file src e _ failed => ?_⟩
  have total : (Sample.setup.resolver Sample.setup.known).IsTotal := Resolver.ofKnown_total _ _ _ _
  obtain ⟨found, extracted, -⟩ := Dependency.extract_succeeds Bundled.registry_sound total file src.text
  exact nomatch extracted.symm.trans failed

namespace Sample

/-- The bundled languages in a repository below a directory whose name is too long: nothing in it can be looked up. -/
def tooDeep : Setup := { setup with known := none, onDisk := fun p => .error (.nameTooLong p.render) }

/-- `class K {}` and `require('./m')`, and their tree. -/
def loadingFile : SourceFile where
  text := "class K {}\nrequire('./m')"
  tree := some ⟨.mk "program" true 0 25 none [
    .mk "class_declaration" true 0 10 none [.mk "type_identifier" true 6 7 (some "name") []],
    .mk "expression_statement" true 11 25 none [
      .mk "call_expression" true 11 25 none [.mk "identifier" true 11 18 (some "function") []]]], false⟩

/-- The graph is asked for, then a file is analyzed. -/
def unlisted : Analyzer := (Analyzer.afterAll ⟨tooDeep, .new "run", .empty, [], none⟩ [.graph, .analyze "k.ts" loadingFile])

end Sample

/-- A file that imports something that cannot be looked up is analyzed and not listed, and the graph that was asked for
before still has no node. -/
theorem sample_inconsistent :
    Analyzer.new Sample.tooDeep "run" = .ok ⟨Sample.tooDeep, .new "run", .empty, [], none⟩ ∧
      ¬ (Sample.unlisted.graph = none ∨ Sample.unlisted.graph = some (Analyzer.graphOf Sample.unlisted.run)) ∧
      ¬ ∀ file, file ∈ Sample.unlisted.order ↔ file ∈ Sample.unlisted.run.analyzed ∨
        file ∈ Sample.unlisted.run.failed.keys := by
  have state : Sample.unlisted.run.analyzed = ["k.ts"] ∧ Sample.unlisted.order = [] ∧
      Sample.unlisted.graph.map (·.nodes.length) = some 0 ∧
      (Analyzer.graphOf Sample.unlisted.run).nodes.length = 1 := by
    decide +kernel
  obtain ⟨analyzed, order, graph, nodes⟩ := state
  refine ⟨?_, fun cached => ?_, fun listed => ?_⟩
  · unfold Analyzer.new
    rw [if_neg (by decide), show Path.tidy Sample.tooDeep.root = Sample.tooDeep.root by decide +kernel]
  · rcases cached with none | some
    · rw [none] at graph
      cases graph
    · rw [some, Option.map_some, nodes] at graph
      cases graph
  · have missing : "k.ts" ∈ Sample.unlisted.order := (listed "k.ts").mpr (Or.inl (by rw [analyzed]; decide))
    rw [order] at missing
    cases missing

end CodeAtlas
