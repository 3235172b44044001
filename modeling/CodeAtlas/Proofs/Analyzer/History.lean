import CodeAtlas.Proofs.Analyzer.Visits

/-!
# Histories of an analyzer

An analyzer answers requests one after another. Whatever the requests and their order, and whether they fail or not, the
run it holds was gathered by merging results of visits into a new run (`Gathered`, `afterAll_gathered`). So what holds of new
runs and is kept by merging a visit holds after every history (`RunInvariant`, `RunInvariant.afterAll`).
-/

namespace CodeAtlas

namespace Analyzer

/-- What can be asked of an analyzer. -/
inductive Request where
  | analyze (file : String) (src : SourceFile)
  | analyzeRepository (runId : String) (files : Table String SourceFile) (deadline : Deadline)
  | reset (runId : String)
  | graph
  | search (query : String) (limit : Option Int) (withEdges : Bool)
  | relationsOf (file : String)
  | dependenciesOf (file : String)

/-- The sources that a request brings. -/
def Request.sources : Request → List SourceFile
  | .analyze _ src => [src]
  | .analyzeRepository _ files _ => files.values
  | .reset _ | .graph | .search _ _ _ | .relationsOf _ | .dependenciesOf _ => []

/-- The analyzer after a request. -/
def after (a : Analyzer) : Request → Analyzer
  | .analyze file src => (a.analyze file src).1
  | .analyzeRepository runId files deadline => (a.analyzeRepository runId files deadline).1
  | .reset runId => a.reset runId
  | .graph => a.withGraph
  | .search query limit withEdges => (a.search query limit withEdges).1
  | .relationsOf file => (a.relationsOf file).1
  | .dependenciesOf _ => a

/-- The analyzer after requests, the first one first. -/
def afterAll (a : Analyzer) (requests : List Request) : Analyzer := requests.foldl after a

/-- What every request of a history keeps is kept by the history. -/
theorem afterAll_keep {P : Analyzer → Prop} {requests : List Request}
    (step : ∀ request ∈ requests, ∀ a, P a → P (a.after request)) {a : Analyzer} (h : P a) : P (a.afterAll requests) := by
  induction requests generalizing a with
  | nil => exact h
  | cons request requests ih =>
    exact ih (fun request mem => step request (List.mem_cons_of_mem _ mem)) (step request List.mem_cons_self a h)

end Analyzer

/-- Merging keeps the id of a run. -/
@[simp] theorem Run.merge_id (run : Run) (result : FileResult) : (run.merge result).id = run.id := by
  unfold Run.merge
  split <;> rfl

/-! ## What merging visits keeps -/

/-- The property holds of new runs, and is kept by numbering and by merging visits of sources that fit. A file that is
not there is visited like an empty one without a tree, so that one has to fit too. -/
structure RunInvariant (s : Setup) (fits : SourceFile → Prop) (P : Run → Prop) : Prop where
  missing : fits default
  new (runId : String) : P (.new runId)
  number {run : Run} (next : Nat) : P run → P (run.numbered next)
  merge {run : Run} {r : Resolver} {ordinal : Nat} {file : String} {src : SourceFile} {result : FileResult} :
    P run → fits src → s.visit r run.id ordinal file src = .ok result → P (run.merge result)

namespace RunInvariant

variable {s : Setup} {fits : SourceFile → Prop} {P : Run → Prop} {files : Table String SourceFile}

theorem sourceIn (inv : RunInvariant s fits P) (sources : ∀ src ∈ files.values, fits src) (file : String) :
    fits (CodeAtlas.sourceIn files file) := by
  unfold CodeAtlas.sourceIn
  cases found : files.get? file with
  | none => exact inv.missing
  | some src => exact sources src (List.mem_map.mpr ⟨(file, src), Table.mem_of_get? found, rfl⟩)

/-- Merging the visits of many files keeps the property. -/
theorem mergeAll (inv : RunInvariant s fits P) (sources : ∀ src ∈ files.values, fits src) {r : Resolver}
    {order : List String} {results : List FileResult} {run : Run} (h : P run)
    (visits : s.AreVisits r run.id files order results) : P (results.foldl Run.merge run) := by
  induction results generalizing order run with
  | nil => exact h
  | cons result results ih =>
    obtain ⟨file, order, ⟨ordinal, visit⟩, rest, rfl⟩ := List.forall₂_cons_right_iff.mp visits
    have rest : s.AreVisits r (run.merge result).id files order results := by
      rw [Run.merge_id]
      exact rest
    exact ih (inv.merge h (inv.sourceIn sources file) visit) rest

variable {a : Analyzer}

/-- Analyzing a file merges its visit, or nothing. -/
theorem analyze (inv : RunInvariant a.setup fits P) (h : P a.run) (file : String) {src : SourceFile} (source : fits src) :
    P (a.analyze file src).1.run := by
  have analyzes := a.analyze_analyzes file src
  generalize a.analyze file src = outcome at *
  cases analyzes with
  | nothing => exact h
  | merged visited | listed visited => exact inv.merge (inv.number _ h) source visited

/-- A completed run has the property. -/
theorem completeRun (inv : RunInvariant a.setup fits P) (sources : ∀ src ∈ files.values, fits src) {runId : String}
    {deadline : Deadline} {run : Run} {dependencies : DependencyMap} {order : List String}
    (h : a.completeRun runId files deadline = .ok (run, dependencies, order)) : P run := by
  obtain ⟨-, -, results, run', visited, rfl⟩ := Analyzer.completeRun_ok h
  obtain ⟨visits, next, rfl⟩ := Setup.visitAll_ok visited
  exact inv.mergeAll sources (inv.number next (inv.new runId)) visits

/-- Analyzing a repository leaves the run as it was or completes a new one. -/
theorem analyzeRepository (inv : RunInvariant a.setup fits P) (h : P a.run) (sources : ∀ src ∈ files.values, fits src)
    (runId : String) (deadline : Deadline) : P (a.analyzeRepository runId files deadline).1.run := by
  unfold Analyzer.analyzeRepository
  split
  · exact h
  · rename_i completed
    exact inv.completeRun sources completed

/-- A request with sources that fit keeps the property. -/
theorem after (inv : RunInvariant a.setup fits P) (h : P a.run) {request : Analyzer.Request}
    (sources : ∀ src ∈ request.sources, fits src) : P (a.after request).run := by
  cases request with
  | analyze file src => exact inv.analyze h file (sources src List.mem_cons_self)
  | analyzeRepository runId files deadline => exact inv.analyzeRepository h sources runId deadline
  | reset runId => exact inv.new runId
  | graph | search | relationsOf | dependenciesOf => exact h

end RunInvariant

/-- The run was gathered by merging visits, each under some number, into a new run. -/
inductive Gathered (s : Setup) : Run → Prop
  | new (runId : String) : Gathered s (.new runId)
  | number {run : Run} (next : Nat) : Gathered s run → Gathered s (run.numbered next)
  | merge {run : Run} {r : Resolver} {ordinal : Nat} {file : String} {src : SourceFile} {result : FileResult} :
      Gathered s run → s.visit r run.id ordinal file src = .ok result → Gathered s (run.merge result)

/-- To be gathered is a property that merging visits keeps, of whatever sources. -/
theorem Gathered.invariant (s : Setup) : RunInvariant s (fun _ => True) (Gathered s) :=
  ⟨trivial, .new, .number, fun h _ visit => h.merge visit⟩

/-- A completed run is gathered. -/
theorem Gathered.completeRun {a : Analyzer} {runId : String} {files : Table String SourceFile} {deadline : Deadline}
    {run : Run} {dependencies : DependencyMap} {order : List String}
    (h : a.completeRun runId files deadline = .ok (run, dependencies, order)) : Gathered a.setup run :=
  (invariant a.setup).completeRun (fun _ _ => trivial) h

/-! ## Histories -/

namespace Analyzer

/-- The setup never changes. -/
theorem after_setup (a : Analyzer) (request : Request) : (a.after request).setup = a.setup := by
  cases request with
  | analyze file src =>
    rw [after]
    have analyzes := a.analyze_analyzes file src
    generalize a.analyze file src = outcome at *
    cases analyzes <;> rfl
  | analyzeRepository runId files deadline =>
    simp only [after, analyzeRepository]
    split <;> rfl
  | reset | graph | search | relationsOf | dependenciesOf => rfl

theorem afterAll_setup (a : Analyzer) (requests : List Request) : (a.afterAll requests).setup = a.setup :=
  afterAll_keep (P := fun b => b.setup = a.setup) (fun request _ b h => (b.after_setup request).trans h) rfl

/-- A new analyzer has analyzed nothing. -/
theorem eq_of_new {setup : Setup} {runId : String} {a : Analyzer} (h : Analyzer.new setup runId = .ok a) :
    a = ⟨{ setup with root := Path.tidy setup.root }, .new runId, .empty, [], none⟩ := by
  unfold Analyzer.new at h
  split at h
  · cases h
  · exact (Except.ok.inj h).symm

end Analyzer

/-- A property that merging visits keeps holds after every history of requests with sources that fit. -/
theorem RunInvariant.afterAll {setup : Setup} {runId : String} {a : Analyzer} {fits : SourceFile → Prop}
    {P : Run → Prop} (inv : RunInvariant a.setup fits P) (fresh : Analyzer.new setup runId = .ok a)
    (requests : List Analyzer.Request) (sources : ∀ request ∈ requests, ∀ src ∈ request.sources, fits src) :
    P (a.afterAll requests).run := by
  have start : a.setup = a.setup ∧ P a.run := by
    refine ⟨rfl, ?_⟩
    rw [Analyzer.eq_of_new fresh]
    exact inv.new runId
  refine (Analyzer.afterAll_keep (P := fun b => b.setup = a.setup ∧ P b.run) (fun request mem b h => ?_) start).2
  obtain ⟨setup, h⟩ := h
  rw [← setup] at inv
  exact ⟨(b.after_setup request).trans setup, inv.after h (sources request mem)⟩

/-- After every history the run is gathered. -/
theorem Analyzer.afterAll_gathered {setup : Setup} {runId : String} {a : Analyzer} (h : Analyzer.new setup runId = .ok a)
    (requests : List Request) : Gathered (a.afterAll requests).setup (a.afterAll requests).run := by
  have setup : (a.afterAll requests).setup = a.setup := afterAll_setup a requests
  rw [setup]
  exact (Gathered.invariant a.setup).afterAll h requests fun _ _ _ _ => trivial

end CodeAtlas
