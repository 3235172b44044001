import CodeAtlas.Command
import CodeAtlas.Proofs.Analyzer.History
import CodeAtlas.Proofs.Database.Deletion
import CodeAtlas.Proofs.Tool.History
import CodeAtlas.Service

/-!
# What exports of a service and of the command delete

A service answers requests one after another, in an environment that may change between them. Whatever was asked of it, the
graph that it exports was built from a run (`afterAll_built`), and so was the graph of a report; the edges of such a graph
are of known kinds. So exports of both are restricted to their repository unless its name is empty (`restricted_iff`,
`exports_restricted`). The command finds no name if the environment gives none and the workspace path has no segment
(`repositoryName_eq_empty`).
-/

namespace CodeAtlas

/-- The graph of a run has edges of known kinds only. -/
theorem Analyzer.graphOf_hasKinds (run : Run) : (graphOf run).HasKinds := by
  intro e mem
  obtain ⟨rel, -, rfl⟩ := List.mem_map.mp mem
  exact ⟨rel.kind, rfl⟩

/-! ## Graphs that were built -/

namespace Analyzer

/-- The graph, if there is one, was built from a run. -/
def HasBuilt (a : Analyzer) : Prop := ∀ g, a.graph = some g → ∃ run, g = graphOf run

namespace HasBuilt

variable {a : Analyzer}

theorem of_none (none : a.graph = none) : a.HasBuilt := by
  intro g some
  rw [none] at some
  cases some

theorem currentGraph (h : a.HasBuilt) : ∃ run, a.currentGraph = graphOf run := by
  unfold Analyzer.currentGraph
  cases cached : a.graph with
  | none => exact ⟨a.run, rfl⟩
  | some g => exact h g cached

theorem withGraph (h : a.HasBuilt) : a.withGraph.HasBuilt := by
  intro g some
  obtain rfl := Option.some.inj some
  exact h.currentGraph

theorem analyzeRepository (h : a.HasBuilt) (runId : String) (files : Table String SourceFile) (deadline : Deadline) :
    (a.analyzeRepository runId files deadline).1.HasBuilt := by
  unfold Analyzer.analyzeRepository
  split
  · exact h
  · rename_i run dependencies order _
    intro g some
    exact ⟨run, (Option.some.inj some).symm⟩

end HasBuilt

end Analyzer

namespace Tool

/-- What the tool has analyzed has a graph that was built from a run. -/
def HasBuilt (t : Tool) : Prop := ∀ c, t.current = some c → c.analyzer.HasBuilt

variable {t : Tool}

theorem analyze_built (h : t.HasBuilt) (s : Surroundings) (runId : String) (r : Request) (clock : Binary64 → Deadline) :
    (t.analyze s runId r clock).1.HasBuilt := by
  unfold analyze
  split
  · rename_i files analyzed report attempted
    intro c some
    obtain rfl := Option.some.inj some
    obtain ⟨-, start, deadline, fresh, analyzes⟩ := attempt_ok attempted
    have analyzer : (start.analyzeRepository runId (s.sources files) deadline).1 = analyzed.analyzer :=
      congrArg Prod.fst analyzes
    have new := Analyzer.eq_of_new fresh
    rw [← analyzer]
    exact Analyzer.HasBuilt.analyzeRepository (.of_none (by rw [new])) _ _ _
  · exact h

/-- A question that keeps a built graph, or builds one. -/
theorem ask_built (h : t.HasBuilt) {question : Analyzed → Analyzer × Answer}
    (keeps : ∀ c, c.analyzer.HasBuilt → (question c).1.HasBuilt) : (t.ask question).1.HasBuilt := by
  unfold ask
  split
  · exact h
  · rename_i c current
    intro c' some
    obtain rfl := Option.some.inj some
    exact keeps c (h c current)

theorem search_built (h : t.HasBuilt) (query : String) (limit : Option Int) (withEdges : Bool) :
    (t.search query limit withEdges).1.HasBuilt := by
  unfold search
  exact ask_built h fun _ built => built.withGraph

theorem relationsOf_built (h : t.HasBuilt) (file : String) : (t.relationsOf file).1.HasBuilt := by
  unfold relationsOf
  exact ask_built h fun _ built => built.withGraph

theorem dependenciesOf_built (h : t.HasBuilt) (file : String) : (t.dependenciesOf file).1.HasBuilt := by
  unfold dependenciesOf
  exact ask_built h fun _ built => built

theorem statistics_built (h : t.HasBuilt) : t.statistics.1.HasBuilt := by
  unfold statistics
  exact ask_built h fun _ built => built.withGraph

end Tool

namespace Service

/-! ## Histories -/

/-- What can be asked of a service. Exports and questions after its health leave it as it is. -/
inductive Request where
  /-- The environment changes. -/
  | environment (e : Environment)
  | start (w : Workspace)
  /-- The workspace is analyzed; the clock tells what a time limit means for the run. -/
  | analyze (around : Surroundings) (runId : String) (exclude : List String) (timeout : Option Seconds)
      (clock : Binary64 → Deadline)
  | search (query : String) (limit : Option Int) (withEdges : Bool)
  | relationsOf (file : String)
  | dependenciesOf (file : String)
  | statistics

/-- The service after a request. -/
def after (s : Service) : Request → Service
  | .environment e => { s with environment := e }
  | .start w => (s.start w).1
  | .analyze around runId exclude timeout clock => (s.analyze around runId exclude timeout clock).1
  | .search query limit withEdges => (s.ask (·.search query limit withEdges)).1
  | .relationsOf file => (s.ask (·.relationsOf file)).1
  | .dependenciesOf file => (s.ask (·.dependenciesOf file)).1
  | .statistics => (s.ask Tool.statistics).1

/-- The service after requests, the first one first. -/
def afterAll (s : Service) (requests : List Request) : Service := requests.foldl after s

/-- What the service has analyzed has a graph that was built from a run. -/
def HasBuilt (s : Service) : Prop := ∀ t, s.tool = some t → t.HasBuilt

variable {s : Service}

theorem ask_built (h : s.HasBuilt) {question : Tool → Tool × Answer}
    (keeps : ∀ t : Tool, t.HasBuilt → (question t).1.HasBuilt) : (s.ask question).1.HasBuilt := by
  unfold ask
  split
  · exact h
  · rename_i t tool
    intro t' some
    obtain rfl := Option.some.inj some
    exact keeps t (h t tool)

theorem start_built (h : s.HasBuilt) (w : Workspace) : (s.start w).1.HasBuilt := by
  unfold start
  split
  · exact h
  · split
    · exact h
    · rename_i settings registry _ _ tool made
      intro t some
      obtain rfl := Option.some.inj some
      unfold newTool at made
      split at made
      · cases made
      · obtain rfl := Except.ok.inj made
        intro c some
        cases some

theorem analyze_built (h : s.HasBuilt) (around : Surroundings) (runId : String) (exclude : List String)
    (timeout : Option Seconds) (clock : Binary64 → Deadline) :
    (s.analyze around runId exclude timeout clock).1.HasBuilt := by
  unfold analyze
  split
  · exact h
  · exact h
  · rename_i t settings tool _
    intro t' some
    obtain rfl := Option.some.inj some
    exact Tool.analyze_built (h t tool) _ _ _ _

/-- Every request keeps the graph one that was built. -/
theorem after_built (h : s.HasBuilt) (request : Request) : (s.after request).HasBuilt := by
  cases request with
  | environment e => exact h
  | start w => exact start_built h w
  | analyze around runId exclude timeout clock => exact analyze_built h around runId exclude timeout clock
  | search query limit withEdges => exact ask_built h fun _ built => Tool.search_built built query limit withEdges
  | relationsOf file => exact ask_built h fun _ built => Tool.relationsOf_built built file
  | dependenciesOf file => exact ask_built h fun _ built => Tool.dependenciesOf_built built file
  | statistics => exact ask_built h fun _ built => Tool.statistics_built built

theorem afterAll_built (e : Environment) (requests : List Request) : ((new e).afterAll requests).HasBuilt := by
  have keep : ∀ (requests : List Request) (s : Service), s.HasBuilt → (s.afterAll requests).HasBuilt := by
    intro requests
    induction requests with
    | nil => exact fun s h => h
    | cons request requests ih => exact fun s h => ih _ (after_built h request)
  refine keep requests (new e) fun t some => ?_
  cases some

/-! ## Exports -/

/-- The export of a service is restricted to its repository unless it clears one without a name. -/
theorem restricted_iff (h : s.HasBuilt) (wire : Wire) (repository : String) (clear : Bool) :
    ∃ calls, (s.exportTo wire repository clear).1.calls = wire.calls ++ calls ∧
      (Statement.RestrictedTo repository (statementsOf calls) ↔
        ¬ (repository = "" ∧ clear = true ∧ (s.tool.bind (·.current)).isSome = true ∧ s.settings.isOk = true ∧
          wire.isReady = true)) := by
  unfold exportTo
  split
  · rename_i missing
    refine ⟨[], (List.append_nil _).symm, iff_of_true nofun fun ⟨_, _, current, _⟩ => ?_⟩
    rw [missing] at current
    cases current
  · rename_i error _ unreadable
    refine ⟨[], (List.append_nil _).symm, iff_of_true nofun fun ⟨_, _, _, settings, _⟩ => ?_⟩
    rw [unreadable] at settings
    cases settings
  · rename_i c settings analyzed readable
    obtain ⟨t, tool, current⟩ := Option.bind_eq_some_iff.mp analyzed
    obtain ⟨run, graph⟩ := (h t tool c current).currentGraph
    have kinds : (exportOf c.analyzer repository clear).graph.HasKinds := by
      rw [exportOf, graph]
      exact Analyzer.graphOf_hasKinds run
    obtain ⟨calls, sent, restricted⟩ := Export.restricted_iff kinds settings.database wire
    refine ⟨calls, sent, restricted.trans (not_congr ?_)⟩
    rw [analyzed, readable]
    simp [exportOf, Except.isOk, Except.toBool]

end Service

namespace Command

/-- The command finds no name for the repository if the environment gives none and the workspace path has no segment. -/
theorem repositoryName_eq_empty (e : Environment) :
    repositoryName e = "" ↔ e.present? "REPO_NAME" = none ∧ (Path.parse e.workspacePath).segments = [] := by
  have segment : ∀ s ∈ (Path.parse e.workspacePath).segments, s ≠ "" := by
    intro s mem
    have kept := (List.mem_filter.mp mem).2
    simp only [Bool.and_eq_true, decide_eq_true_eq] at kept
    exact kept.1
  unfold repositoryName
  cases present : e.present? "REPO_NAME" with
  | some name =>
    have named : name ≠ "" := of_decide_eq_true (Option.filter_eq_some_iff.mp present).2
    simp [named]
  | none =>
    simp only [Option.getD_none, true_and, Path.name]
    cases last : (Path.parse e.workspacePath).segments.getLast? with
    | none => simp [List.getLast?_eq_none_iff.mp last]
    | some s =>
      have mem := List.mem_of_getLast? last
      simp [segment s mem, List.ne_nil_of_mem mem]

/-- The graph of a report has edges of known kinds only. -/
theorem analyze_hasKinds {e : Environment} {s : Surroundings} {runId : String} {clock : Binary64 → Deadline}
    {report : Report} (h : analyze e s runId clock = .ok report) : report.graph.HasKinds := by
  unfold analyze at h
  dsimp only at h
  obtain ⟨workers, -, h⟩ := Except.bind_eq_ok_iff.mp h
  obtain ⟨there, -, h⟩ := Except.bind_eq_ok_iff.mp h
  split at h
  · cases h
  obtain ⟨registry, -, h⟩ := Except.bind_eq_ok_iff.mp h
  obtain ⟨files, -, h⟩ := Except.bind_eq_ok_iff.mp h
  split at h
  · cases h
  obtain ⟨timeout, -, h⟩ := Except.bind_eq_ok_iff.mp h
  obtain ⟨⟨analyzed, report⟩, analyzes, h⟩ := Except.bind_eq_ok_iff.mp h
  obtain rfl := Except.ok.inj h
  obtain ⟨start, deadline, -, reported⟩ := Surroundings.analyze_ok (Except.mapError_eq_ok_iff.mp analyzes)
  obtain ⟨run, -, graph, -⟩ := Analyzer.analyzeRepository_ok (congrArg Prod.snd reported)
  rw [graph]
  exact Analyzer.graphOf_hasKinds run

/-- The export of a report is restricted to its repository unless the repository has no name. -/
theorem restricted_iff (e : Environment) (s : Surroundings) (runId : String) (wire : Wire)
    (clock : Binary64 → Deadline) :
    let result := run e s runId wire clock
    ∃ calls, result.wire.calls = wire.calls ++ calls ∧
      (Statement.RestrictedTo (repositoryName e) (statementsOf calls) ↔
        ¬ (repositoryName e = "" ∧ result.output.isSome = true ∧ (e.present? "NEO4J_URI").isSome = true ∧
          wire.isReady = true)) := by
  intro result
  unfold result run
  split
  · exact ⟨[], (List.append_nil _).symm, iff_of_true nofun (by simp)⟩
  · rename_i report analyzed
    split
    · exact ⟨[], (List.append_nil _).symm, iff_of_true nofun (by simp)⟩
    · rename_i output written
      unfold exportReport
      cases present : e.present? "NEO4J_URI" with
      | none => exact ⟨[], (List.append_nil _).symm, iff_of_true nofun (by simp)⟩
      | some uri =>
        obtain ⟨calls, sent, restricted⟩ := Export.restricted_iff
          (x := ⟨repositoryName e, true, report.graph, report.dependencies⟩) (analyze_hasKinds analyzed) (e.credentials uri)
          wire
        exact ⟨calls, sent, restricted.trans (not_congr (by simp))⟩

end Command

/-- In every environment, whatever a service was asked before, whatever the command finds in its workspace, and whether or
not analyses run out of time, an export deletes nothing but what carries the name of its repository, by the one statement
that is filtered by that name; the only exception is an export without a name that clears a database that is ready. -/
theorem exports_restricted (e : Environment) :
    (∀ (requests : List Service.Request) (wire : Wire) (repository : String) (clear : Bool),
      let s := (Service.new e).afterAll requests
      ∃ calls, (s.exportTo wire repository clear).1.calls = wire.calls ++ calls ∧
        (Statement.RestrictedTo repository (statementsOf calls) ↔
          ¬ (repository = "" ∧ clear = true ∧ (s.tool.bind (·.current)).isSome = true ∧ s.settings.isOk = true ∧
            wire.isReady = true))) ∧
      (∀ (around : Surroundings) (runId : String) (wire : Wire) (clock : Binary64 → Deadline),
        let result := Command.run e around runId wire clock
        ∃ calls, result.wire.calls = wire.calls ++ calls ∧
          (Statement.RestrictedTo (Command.repositoryName e) (statementsOf calls) ↔
            ¬ (Command.repositoryName e = "" ∧ result.output.isSome = true ∧ (e.present? "NEO4J_URI").isSome = true ∧
              wire.isReady = true))) ∧
      (Command.repositoryName e = "" ↔ e.present? "REPO_NAME" = none ∧ (Path.parse e.workspacePath).segments = []) :=
  ⟨fun requests wire repository clear => Service.restricted_iff (Service.afterAll_built e requests) wire repository clear,
    Command.restricted_iff e, Command.repositoryName_eq_empty e⟩

/-! ## An export without a name -/

namespace Sample

/-- A service that has analyzed an empty workspace. -/
def service : Service :=
  let around : Surroundings := ⟨⟨[["workspace"]], .empty, []⟩, fun _ _ => none, id⟩
  (Service.new .empty).afterAll [.start around.workspace, .analyze around "run" [] none Deadline.ofCount]

end Sample

/-- A service that exports without a name to a database that is ready deletes everything. -/
theorem sample_unrestricted :
    ¬ Statement.RestrictedTo "" (statementsOf (Sample.service.exportTo ⟨none, [], []⟩ "" true).1.calls) := by
  have built : Sample.service.HasBuilt := Service.afterAll_built _ _
  have analyzed : (Sample.service.tool.bind (·.current)).isSome = true ∧ Sample.service.settings.isOk = true := by
    decide +kernel
  obtain ⟨calls, sent, restricted⟩ := Service.restricted_iff built ⟨none, [], []⟩ "" true
  rw [sent, List.nil_append, restricted]
  exact not_not.mpr ⟨rfl, rfl, analyzed.1, analyzed.2, by decide +kernel⟩

end CodeAtlas
