import CodeAtlas.Proofs.Analyzer.Workers
import CodeAtlas.Proofs.Dependency.Map
import CodeAtlas.Proofs.Language.Sound

/-!
# One file at a time

Analyzing the files of a repository one at a time, in the order of their dependencies, leaves a new analyzer in the state
in which analyzing the whole repository leaves it (`analyzeEach_eq_analyzeRepository`). A visit reads nothing of the run but
its id and the number of the next file, and merging changes neither (`Run.merge_numbered`); so each file is visited alike
whether the files before it are merged already or not (`analyzeEach_follows`).
-/

namespace CodeAtlas

namespace Run

/-- Merging and numbering do not touch the same parts of a run. -/
theorem merge_numbered (run : Run) (next : Nat) (result : FileResult) :
    (run.numbered next).merge result = (run.merge result).numbered next := by
  unfold merge
  split <;> rfl

theorem mergeAll_numbered (results : List FileResult) (run : Run) (next : Nat) :
    results.foldl merge (run.numbered next) = (results.foldl merge run).numbered next := by
  induction results generalizing run with
  | nil => rfl
  | cons result results ih => rw [List.foldl_cons, merge_numbered, ih, List.foldl_cons]

end Run

/-! ## Nothing fails -/

theorem Resolver.ofKnown_total (root : String) (known : List String) (aliases : Option (Table String String))
    (extensions : List String) : (ofKnown root known aliases extensions).IsTotal :=
  fun _ => .ok trivial

theorem Setup.visit_succeeds {s : Setup} (sound : s.registry.IsSound) (r : Resolver) (runId : String) (ordinal : Nat)
    {file : String} (named : file ≠ "") (src : SourceFile) : (s.visit r runId ordinal file src).Succeeds := by
  unfold visit
  rw [if_neg named]
  exact ((Visit.prepare_succeeds sound file src.text).mapError _).map fun _ _ => trivial

/-- With sound languages, what each file of a map depends on can be found. -/
theorem Dependency.exists_extracted {registry : Registry} (sound : registry.IsSound) {r : Resolver} (total : r.IsTotal)
    (files : Table String SourceFile) :
    ∃ found : String → List String, ∀ file, extract registry r file (sourceIn files file).text = .ok (found file) := by
  have each : ∀ file, ∃ found, extract registry r file (sourceIn files file).text = .ok found := by
    intro file
    obtain ⟨found, extracted, -⟩ := extract_succeeds sound total file (sourceIn files file).text
    exact ⟨found, extracted⟩
  choose found extracted using each
  exact ⟨found, extracted⟩

/-! ## The files of a repository, one at a time -/

namespace Analyzer

/-- Analyzes files of a map one after another, as long as nothing fails. -/
def analyzeEach (a : Analyzer) (files : Table String SourceFile) (order : List String) : Except AnalysisError Analyzer :=
  order.foldlM (fun a file =>
    let (after, outcome) := a.analyze file (sourceIn files file)
    outcome.map fun _ => after) a

/-- The state after files were analyzed one at a time: the results of their visits are merged, and each file is listed
with its dependencies. -/
structure Follows (found : String → List String) (a b : Analyzer) (order : List String) (results : List FileResult)
    (next : Nat) : Prop where
  run : b.run = (results.foldl Run.merge a.run).numbered next
  dependencies : b.dependencies = Dependency.putEntries found order a.dependencies
  order : b.order = order.foldl Resolver.addNew a.order
  graph : a.graph = none → b.graph = none

variable {files : Table String SourceFile} {found : String → List String}

/-- A file that can be visited and whose dependencies can be found is merged and listed. -/
theorem analyze_eq {a : Analyzer} {file : String} {src : SourceFile} {result : FileResult} {dependencies : List String}
    (visited : a.setup.visit (a.setup.resolver a.setup.known) a.run.id a.run.nextOrdinal file src = .ok result)
    (extracted : Dependency.extract a.setup.registry (a.setup.resolver a.setup.known) file src.text = .ok dependencies) :
    a.analyze file src =
      (⟨a.setup, (a.run.merge result).numbered (a.setup.nextAfter a.run.nextOrdinal file src),
        a.dependencies.put file ⟨file, dependencies⟩, Resolver.addNew a.order file, none⟩, .ok result) := by
  unfold analyze
  simp only [Setup.visitNext_eq, visited, extracted, Except.map, Run.merge_numbered]
  rfl

/-- Files are visited alike one at a time and all together. -/
theorem analyzeEach_follows {s : Setup} (sound : s.registry.IsSound)
    (extracted : ∀ file, Dependency.extract s.registry (s.resolver s.known) file (sourceIn files file).text =
      .ok (found file)) :
    ∀ (order : List String), "" ∉ order → ∀ (k : Nat) (run : Run) {a : Analyzer}, a.setup = s → a.run.id = run.id →
      a.run.nextOrdinal = run.nextOrdinal →
      ∃ results next b, s.visitInTurn (s.resolver s.known) files .never k run order = .ok (results, run.numbered next) ∧
        a.analyzeEach files order = .ok b ∧ Follows found a b order results next
  | [], _, _, run, a, _, _, number =>
    ⟨[], run.nextOrdinal, a, rfl, rfl, by simp [← number, Run.numbered], rfl, rfl, id⟩
  | file :: order, named, k, run, a, setup, same, number => by
    subst setup
    obtain ⟨here, rest⟩ := not_or.mp (mt List.mem_cons.mpr named)
    obtain ⟨result, visited, -⟩ := Setup.visit_succeeds sound (a.setup.resolver a.setup.known) run.id run.nextOrdinal
      (Ne.symm here) (sourceIn files file)
    have analyzed := analyze_eq (a := a) (by rw [same, number]; exact visited) (extracted file)
    -- the visits that follow start from the same number, so the step on both sides leaves the same way to go
    obtain ⟨results, next, b, turns, each, follows⟩ := analyzeEach_follows sound extracted order rest (k + 1)
      (run.numbered (a.setup.nextAfter run.nextOrdinal file (sourceIn files file)))
      (a := (a.analyze file (sourceIn files file)).1) (by rw [analyzed]) (by rw [analyzed]; simpa using same)
      (by rw [analyzed, number]; rfl)
    refine ⟨result :: results, next, b, ?_, ?_, ?_, ?_, ?_, ?_⟩
    · have check : Deadline.never.check k = .ok () := rfl
      rw [Setup.visitInTurn, check, ← sourceIn, Setup.visitNext_eq, visited]
      simp only [Except.map, bind, Except.bind, turns]
      rfl
    · rw [analyzeEach, List.foldlM_cons, analyzed]
      rw [analyzed] at each
      exact each
    · rw [follows.run, analyzed, List.foldl_cons, Run.mergeAll_numbered, Run.numbered_numbered]
    · rw [follows.dependencies, analyzed]
      rfl
    · rw [follows.order, analyzed, List.foldl_cons]
    · intro _
      exact follows.graph (by rw [analyzed])

/-- What was analyzed all together, if nothing fails and nobody waits. -/
theorem analyzeRepository_eq {a : Analyzer} {runId : String} {dependencies : DependencyMap} {results : List FileResult}
    {run : Run} (mapped : Dependency.mapOf a.setup.registry (a.setup.resolver (some (a.setup.known.getD files.keys)))
      (files.mapValues fun _ src => src.text) = .ok dependencies)
    (visited : a.setup.visitAll (a.setup.resolver (some (a.setup.known.getD files.keys))) files .never (.new runId)
      dependencies.order = .ok (results, run)) :
    let merged := results.foldl Run.merge run
    a.analyzeRepository runId files .never =
      (⟨a.setup, merged, dependencies, dependencies.order, some (graphOf merged)⟩,
        .ok ⟨graphOf merged, dependencies, dependencies.order, merged.failed⟩) := by
  have completed : a.completeRun runId files .never =
      .ok (results.foldl Run.merge run, dependencies, dependencies.order) := by
    refine Except.bind_eq_ok_iff.mpr ⟨dependencies, Except.mapError_eq_ok_iff.mpr mapped, ?_⟩
    refine Except.bind_eq_ok_iff.mpr ⟨(), rfl, ?_⟩
    exact Except.bind_eq_ok_iff.mpr ⟨(results, run), visited, rfl⟩
  unfold analyzeRepository
  rw [completed]

/-- With sound languages, workers that take up every file, and time enough, there is a report on files that have names. -/
theorem analyzeRepository_succeeds {a : Analyzer} (sound : a.setup.registry.IsSound) (fair : a.setup.IsFair)
    (runId : String) (files : Table String SourceFile) (named : "" ∉ files.keys) :
    (a.analyzeRepository runId files .never).2.Succeeds := by
  let r := a.setup.resolver (some (a.setup.known.getD files.keys))
  have total : r.IsTotal := Resolver.ofKnown_total _ _ _ _
  obtain ⟨found, extracted⟩ := Dependency.exists_extracted sound total files
  have mapped := Dependency.mapOf_eq_putEntries fun file (_ : file ∈ files.keys) => extracted file
  have named : "" ∉ (Dependency.putEntries found files.keys .empty).order :=
    mt (DependencyMap.mem_order.trans Dependency.mem_keys_putEntries).mp named
  obtain ⟨outcomes, next, visits, visited⟩ := Setup.visitAll_never r files fair
    (Dependency.putEntries found files.keys .empty).order (.new runId)
  have each : ∀ outcome ∈ outcomes, outcome.Succeeds := by
    intro outcome mem
    obtain ⟨file, listed, ordinal, rfl⟩ := visits.exists_of_mem_right mem
    exact Setup.visit_succeeds sound r _ _ (fun empty => named (empty ▸ listed)) _
  obtain ⟨results, all, -⟩ := Except.Gives.mapM (f := id) each
  rw [all] at visited
  exact ⟨_, congrArg Prod.snd (analyzeRepository_eq mapped visited), trivial⟩

/-- What can be asked of both analyzers has the same answers. -/
structure SameState (a b : Analyzer) : Prop where
  run : a.run = b.run
  graph : a.currentGraph = b.currentGraph
  order : a.order = b.order
  dependencies : ∀ path, a.dependencies.get? path = b.dependencies.get? path

/-- Files analyzed one at a time into a new run leave the state of a repository that consists of them. -/
theorem Follows.sameState {a one : Analyzer} {runId : String} {names : List String} {results : List FileResult}
    {next : Nat} (new : a = a.reset runId)
    (follows : Follows found a one (Dependency.putEntries found names .empty).order results next) :
    let merged := results.foldl Run.merge ((Run.new runId).numbered next)
    let dependencies := Dependency.putEntries found names .empty
    SameState one ⟨a.setup, merged, dependencies, dependencies.order, some (graphOf merged)⟩ := by
  rw [new] at follows
  have run : one.run = results.foldl Run.merge ((Run.new runId).numbered next) := by
    rw [follows.run, Run.mergeAll_numbered]
    rfl
  refine ⟨run, ?_, ?_, fun path => ?_⟩
  · rw [currentGraph, follows.graph rfl, run]
    rfl
  · rw [follows.order]
    exact List.foldl_appendNew_of_nodup (DependencyMap.nodup_order _)
  · have listed : path ∈ (Dependency.putEntries found names .empty).order ↔ path ∈ names :=
      DependencyMap.mem_order.trans Dependency.mem_keys_putEntries
    rw [follows.dependencies, Dependency.get?_putEntries, Dependency.get?_putEntries, if_congr listed rfl rfl]
    rfl

/-- If languages are sound and imports are looked for among given files, a new analyzer with one worker comes to the same
state by analyzing files one at a time and all together. -/
theorem analyzeEach_of_sound {a : Analyzer} {runId : String} {known : List String} (sound : a.setup.registry.IsSound)
    (explicit : a.setup.known = some known) (single : a.setup.workers = 1) (new : a = a.reset runId)
    (files : Table String SourceFile) (named : "" ∉ files.keys) :
    ∃ dependencies one report,
      Dependency.mapOf a.setup.registry (a.setup.resolver (some known)) (files.mapValues fun _ src => src.text) =
          .ok dependencies ∧
        a.analyzeEach files dependencies.order = .ok one ∧
        (a.analyzeRepository runId files .never).2 = .ok report ∧
        SameState one (a.analyzeRepository runId files .never).1 := by
  have total : (a.setup.resolver a.setup.known).IsTotal := by
    rw [explicit]
    exact Resolver.ofKnown_total _ _ _ _
  obtain ⟨found, extracted⟩ := Dependency.exists_extracted sound total files
  have mapped := Dependency.mapOf_eq_putEntries fun file (_ : file ∈ files.keys) => extracted file
  have named : "" ∉ (Dependency.putEntries found files.keys .empty).order :=
    mt (DependencyMap.mem_order.trans Dependency.mem_keys_putEntries).mp named
  obtain ⟨results, next, one, turns, each, follows⟩ := analyzeEach_follows sound extracted _ named 1 a.run rfl rfl rfl
  have visited : a.setup.visitAll (a.setup.resolver a.setup.known) files .never (.new runId)
      (Dependency.putEntries found files.keys .empty).order = .ok (results, (Run.new runId).numbered next) := by
    have run : a.run = .new runId := by rw [new]; rfl
    rw [Setup.visitAll, if_neg (by rw [single]; decide), ← run]
    exact turns
  have reachable : some (a.setup.known.getD files.keys) = a.setup.known := by rw [explicit]; rfl
  rw [← reachable] at mapped visited
  have together := analyzeRepository_eq mapped visited
  rw [reachable, explicit] at mapped
  refine ⟨_, one, _, mapped, each, by rw [together], ?_⟩
  rw [together]
  exact follows.sameState new

/-- With bundled languages and given files that imports may reach, a new analyzer with one worker comes to the same state
whether it analyzes the files of a repository one at a time, in the order of their dependencies, or all together. -/
theorem analyzeEach_eq_analyzeRepository {setup : Setup} {runId : String} {a : Analyzer} {known : List String}
    (bundled : setup.registry = Bundled.registry) (explicit : setup.known = some known) (single : setup.workers = 1)
    (fresh : Analyzer.new setup runId = .ok a) (files : Table String SourceFile) (named : "" ∉ files.keys) :
    ∃ dependencies one report,
      Dependency.mapOf Bundled.registry (a.setup.resolver (some known)) (files.mapValues fun _ src => src.text) =
          .ok dependencies ∧
        a.analyzeEach files dependencies.order = .ok one ∧
        (a.analyzeRepository runId files .never).2 = .ok report ∧
        SameState one (a.analyzeRepository runId files .never).1 := by
  have new := eq_of_new fresh
  have registry : a.setup.registry = Bundled.registry := by rw [new, bundled]
  rw [← registry]
  refine analyzeEach_of_sound ?_ ?_ ?_ ?_ files named
  · rw [registry]
    exact Bundled.registry_sound
  · rw [new, explicit]
  · rw [new, single]
  · rw [new]
    rfl

end Analyzer

/-- The small repository one file at a time, its imported file before the importing one. -/
theorem sample_oneAtATime : ∃ one report, Sample.analyzer.analyzeEach Sample.files ["README", "a.py", "b.py"] = .ok one ∧
    (Sample.analyzer.analyzeRepository "run" Sample.files .never).2 = .ok report ∧
    one.SameState (Sample.analyzer.analyzeRepository "run" Sample.files .never).1 := by
  obtain ⟨dependencies, one, report, mapped, each, reported, same⟩ :=
    Analyzer.analyzeEach_eq_analyzeRepository rfl rfl rfl Sample.new_setup Sample.files (by decide)
  obtain rfl := Except.ok.inj (Sample.mapOf_files.symm.trans mapped)
  rw [Sample.order_dependencies] at each
  exact ⟨one, report, each, reported, same⟩

end CodeAtlas
