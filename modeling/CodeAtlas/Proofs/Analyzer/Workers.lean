import CodeAtlas.Proofs.Run.Renaming

/-!
# Workers

Without a deadline a repository gives the same report, up to ids, whether its files are visited one after another or by any
number of workers that take up the files in any order, and whatever the id of the run (`analyzeRepository_alike`). The
number of a file goes into the ids of its elements and nowhere else, so it does not matter that files that never reach a
parser take a number when workers visit them, and none otherwise.
-/

namespace CodeAtlas

/-! ## One visit -/

/-- Two visits of a file that differ in the run and in the number of the file find the same up to ids. -/
theorem Visit.findings_alike (p : Prepared) (resolver : Option Resolver) (strict : Bool) (file : String)
    (tree : Option Tree) (runId runId' : String) (ordinal ordinal' : Int) :
    Except.Related FoundAlike (findings p resolver strict runId file ordinal tree)
      (findings p resolver strict runId' file ordinal' tree) := by
  cases tree with
  | none => exact .error _
  | some t =>
    simp only [findings]
    split
    · exact .error _
    · exact walkTree_alike (subject p resolver runId file ordinal) (elementId runId' ordinal' file) t.root

namespace Setup

variable {s s' : Setup} {r : Resolver} {files : Table String SourceFile} {order : List String}

/-- The setups differ at most in the number of workers and in how they take up files. -/
def DiffersInWorkers (s s' : Setup) : Prop := s' = { s with workers := s'.workers, schedule := s'.schedule }

/-- If there are several workers, they take up every file once. -/
def IsFair (s : Setup) : Prop := 1 < s.workers → ∀ order, (s.schedule order).Perm order

theorem visit_alike (same : s.DiffersInWorkers s') (file : String) (src : SourceFile) (runId runId' : String)
    (ordinal ordinal' : Nat) :
    Except.Related ResultAlike (s.visit r runId ordinal file src) (s'.visit r runId' ordinal' file src) := by
  rw [same]
  unfold visit
  split
  · exact .error _
  · refine Except.Related.map (R := Eq) (.of_eq fun _ _ => rfl) ?_
    rintro prepared _ rfl
    refine ⟨rfl, Except.Related.mapError ?_ _⟩
    refine Except.Related.bind (R := Eq) (.of_eq fun _ _ => rfl) ?_
    rintro p _ rfl
    exact Visit.findings_alike p (some r) s.strict file src.tree runId runId' ordinal ordinal'

/-! ## All visits -/

/-- Visits of the same files are alike. -/
theorem AreOutcomes.alike (same : s.DiffersInWorkers s') {runId runId' : String}
    {outcomes outcomes' : List (Except AnalysisError FileResult)} (h : s.AreOutcomes r runId files order outcomes)
    (h' : s'.AreOutcomes r runId' files order outcomes') :
    List.Forall₂ (Except.Related ResultAlike) outcomes outcomes' := by
  induction h generalizing outcomes' with
  | nil =>
    cases h'
    exact .nil
  | cons visit _ ih =>
    cases h' with
    | cons visit' rest =>
      obtain ⟨ordinal, rfl⟩ := visit
      obtain ⟨ordinal', rfl⟩ := visit'
      exact .cons (visit_alike same _ _ _ _ _ _) (ih rest)

/-- Visits one after another give the outcomes of visits, under numbers that depend on the files before. -/
theorem visitInTurn_never : ∀ (order : List String) (k : Nat) (run : Run), ∃ outcomes next,
    s.AreOutcomes r run.id files order outcomes ∧
      s.visitInTurn r files .never k run order = (outcomes.mapM id).map fun results => (results, run.numbered next)
  | [], _, run => ⟨[], run.nextOrdinal, .nil, rfl⟩
  | file :: order, k, run => by
    obtain ⟨outcomes, next, visits, rest⟩ :=
      visitInTurn_never order (k + 1) (run.numbered (s.nextAfter run.nextOrdinal file (sourceIn files file)))
    refine ⟨s.visit r run.id run.nextOrdinal file (sourceIn files file) :: outcomes, next,
      .cons ⟨run.nextOrdinal, rfl⟩ visits, ?_⟩
    have check : Deadline.never.check k = .ok () := rfl
    have first := visitNext_eq (s := s) (r := r) run file (sourceIn files file)
    rw [visitInTurn, check, ← sourceIn, first, List.mapM_cons, id]
    cases s.visit r run.id run.nextOrdinal file (sourceIn files file) with
    | error e => rfl
    | ok result =>
      simp only [Except.map, bind, Except.bind, rest]
      cases outcomes.mapM id with
      | error e => rfl
      | ok results => rfl

/-- The visit of a file under the number that it takes before any file is visited. -/
def visitNumbered (s : Setup) (r : Resolver) (files : Table String SourceFile) (run : Run) (order : List String)
    (file : String) : Except AnalysisError FileResult :=
  s.visit r run.id (((ordinals run order).get? file).getD 0) file (sourceIn files file)

/-- If workers take up every file, the order in which they do so drops out. -/
theorem visitByWorkers_eq (taken : ∀ order, (s.schedule order).Perm order) (order : List String) (run : Run) :
    s.visitByWorkers r files .never run order = (order.mapM (s.visitNumbered r files run order)).map fun results =>
      (results, run.numbered (run.nextOrdinal + order.length)) := by
  let late := AnalysisError.unfinished Deadline.never.left order.length
  have done : ∀ file ∈ order, ((s.visitScheduled r run files order).get? file).getD (.error late) =
      s.visitNumbered r files run order file := by
    intro file mem
    rw [get?_visitScheduled, if_pos ((taken order).mem_iff.mpr mem)]
    rfl
  have collected := congrArg (List.mapM id) (List.map_congr_left done)
  rw [List.mapM_map, List.mapM_map] at collected
  unfold visitByWorkers
  rw [if_neg (by simp [Deadline.never])]
  exact congrArg (Except.map fun results => (results, run.numbered (run.nextOrdinal + order.length))) collected

/-- Workers give the outcomes of visits, under numbers that were taken before. -/
theorem visitByWorkers_never (taken : ∀ order, (s.schedule order).Perm order) (order : List String) (run : Run) :
    ∃ outcomes next, s.AreOutcomes r run.id files order outcomes ∧
      s.visitByWorkers r files .never run order = (outcomes.mapM id).map fun results => (results, run.numbered next) := by
  refine ⟨order.map (s.visitNumbered r files run order), run.nextOrdinal + order.length, ?_, ?_⟩
  · exact List.forall₂_map_right_iff.mpr (List.forall₂_same.mpr fun file _ => ⟨_, rfl⟩)
  · rw [visitByWorkers_eq taken, List.mapM_map]
    rfl

/-- However files are visited, there are outcomes of visits behind it. -/
theorem visitAll_never (r : Resolver) (files : Table String SourceFile) (fair : s.IsFair) (order : List String)
    (run : Run) : ∃ outcomes next, s.AreOutcomes r run.id files order outcomes ∧
      s.visitAll r files .never run order = (outcomes.mapM id).map fun results => (results, run.numbered next) := by
  unfold visitAll
  split
  · rename_i several
    exact visitByWorkers_never (fair several) order run
  · exact visitInTurn_never order 1 run

/-- Merging all visits keeps runs alike, or all visits fail alike. -/
theorem visitAll_alike (same : s.DiffersInWorkers s') (fair : s.IsFair) (fair' : s'.IsFair) (order : List String)
    {run run' : Run} (alike : run.Alike run') :
    Except.Related (fun x y => (x.1.foldl Run.merge x.2).Alike (y.1.foldl Run.merge y.2))
      (s.visitAll r files .never run order) (s'.visitAll r files .never run' order) := by
  obtain ⟨outcomes, next, visits, eq⟩ := visitAll_never r files fair order run
  obtain ⟨outcomes', next', visits', eq'⟩ := visitAll_never r files fair' order run'
  rw [eq, eq']
  have results := Except.Related.mapM (visits.alike same visits')
  exact results.map fun _ _ results => (alike.numbered next next').mergeAll results

end Setup

/-! ## Whole runs -/

namespace Analyzer

variable {a b : Analyzer}

/-- Both analyzers complete runs that are alike, or fail alike. -/
theorem completeRun_alike (same : a.setup.DiffersInWorkers b.setup) (fair : a.setup.IsFair) (fair' : b.setup.IsFair)
    (runId runId' : String) (files : Table String SourceFile) :
    Except.Related (fun x y => x.1.Alike y.1 ∧ y.2 = x.2) (a.completeRun runId files .never)
      (b.completeRun runId' files .never) := by
  have known : b.setup.known = a.setup.known := by rw [same]
  have registry : b.setup.registry = a.setup.registry := by rw [same]
  have resolver : b.setup.resolver = a.setup.resolver := by rw [same]; rfl
  unfold completeRun
  rw [known, registry, resolver]
  refine Except.Related.bind (R := Eq) (.of_eq fun _ _ => rfl) ?_
  rintro dependencies _ rfl
  refine Except.Related.bind (R := Eq) (.of_eq fun _ _ => rfl) ?_
  rintro _ _ rfl
  refine Except.Related.bind (Setup.visitAll_alike same fair fair' dependencies.order (.new runId runId')) ?_
  exact fun x y alike => .ok ⟨alike, rfl⟩

/-- What can be said of a report without ids. -/
structure SameReport (x y : Report) : Prop where
  order : y.order = x.order
  dependencies : y.dependencies = x.dependencies
  failed : y.failed = x.failed
  graph : y.graph.byPosition = x.graph.byPosition

/-- Without a deadline, a repository gives the same error or the same report up to ids whatever the number of workers, the
order in which they take up files and the id of the run, if ids do not collide within a run. -/
theorem analyzeRepository_alike (same : a.setup.DiffersInWorkers b.setup) (fair : a.setup.IsFair)
    (fair' : b.setup.IsFair) (runId runId' : String) (files : Table String SourceFile)
    (distinct : ∀ report, (a.analyzeRepository runId files .never).2 = .ok report → report.graph.nodeIds.Nodup)
    (distinct' : ∀ report, (b.analyzeRepository runId' files .never).2 = .ok report → report.graph.nodeIds.Nodup) :
    Except.Related SameReport (a.analyzeRepository runId files .never).2 (b.analyzeRepository runId' files .never).2 := by
  have runs := completeRun_alike same fair fair' runId runId' files
  unfold analyzeRepository at distinct distinct' ⊢
  generalize completed : a.completeRun runId files .never = x at *
  generalize completed' : b.completeRun runId' files .never = y at *
  cases runs with
  | error e => exact .error e
  | @ok x y related =>
    obtain ⟨run, dependencies, order⟩ := x
    obtain ⟨run', dependencies', order'⟩ := y
    obtain ⟨alike, rest⟩ := related
    obtain ⟨rfl, rfl⟩ := Prod.mk.inj rest
    refine .ok ⟨rfl, rfl, alike.failed, ?_⟩
    exact alike.byPosition (Gathered.completeRun completed).grounded (Gathered.completeRun completed').grounded
      (distinct _ rfl) (distinct' _ rfl)

end Analyzer

/-! ## The small repository by workers -/

namespace Sample

/-- The files of the small repository after one that no parser reads. -/
def files : Table String SourceFile := .ofList [("README", ⟨"", none⟩), ("a.py", classFile), ("b.py", importFile)]

/-- An analyzer with two workers, the last file first. -/
def pooled : Analyzer := { analyzer with setup := { setup with workers := 2, schedule := List.reverse } }

/-- The only import leads from one file to the other. -/
def dependencies : DependencyMap :=
  .ofList [("README", ⟨"README", []⟩), ("a.py", ⟨"a.py", []⟩), ("b.py", ⟨"b.py", ["a.py"]⟩)]

/-- The results of the files, merged. -/
def mergedIds (a : Analyzer) (runId : String) : List String :=
  match a.setup.visitAll (setup.resolver setup.known) files .never (.new runId) ["README", "a.py", "b.py"] with
  | .error _ => []
  | .ok (results, run) => (results.foldl Run.merge run).elements.map (·.id)

theorem mapOf_files : Dependency.mapOf setup.registry (setup.resolver setup.known) (files.mapValues fun _ src => src.text) =
    .ok dependencies := by
  decide +kernel

theorem order_dependencies : dependencies.order = ["README", "a.py", "b.py"] := by
  have sorted : dependencies.keys.mergeSort Text.precedes = ["README", "a.py", "b.py"] :=
    List.mergeSort_of_pairwise (by decide +kernel)
  have imports : dependencies.imports? "README" = some [] ∧ dependencies.imports? "a.py" = some [] ∧
      dependencies.imports? "b.py" = some ["a.py"] := by
    decide +kernel
  rw [DependencyMap.order, sorted]
  simp [DependencyMap.searchFrom, DependencyMap.search, imports]

/-- A report on the small repository holds what was merged. -/
theorem nodeIds_report {a : Analyzer} (same : setup.DiffersInWorkers a.setup) {runId : String} {report : Report}
    (h : (a.analyzeRepository runId files .never).2 = .ok report) : report.graph.nodeIds = mergedIds a runId := by
  have registry : a.setup.registry = setup.registry := by rw [same]
  have known : a.setup.known = setup.known := by rw [same]
  have resolver : a.setup.resolver = setup.resolver := by rw [same]; rfl
  have resolved : some (setup.known.getD files.keys) = setup.known := rfl
  obtain ⟨run, completed, graph, -⟩ := Analyzer.analyzeRepository_ok h
  obtain ⟨mapped, order, results, run', visited, merged⟩ := Analyzer.completeRun_ok completed
  rw [registry, known, resolver, resolved, mapOf_files] at mapped
  rw [order, ← Except.ok.inj mapped, order_dependencies, known, resolver, resolved] at visited
  rw [graph, merged, mergedIds, visited]
  exact Graph.nodeIds_build _ _

theorem ids_inTurn : mergedIds analyzer "run" = ["28d33585057d79ae", "1e82ea0381a3d9dd", "f2e91fd66ca66289"] := by
  decide +kernel

theorem ids_pooled : mergedIds pooled "again" = ["264c5dcc12589370", "ab6592e6e39a9629", "ec5f2ee07da52f60"] := by
  decide +kernel

end Sample

/-- The small repository gives the same report by one worker and by two, though its ids differ. -/
theorem sample_alike : Sample.mergedIds Sample.analyzer "run" ≠ Sample.mergedIds Sample.pooled "again" ∧
    Except.Related Analyzer.SameReport (Sample.analyzer.analyzeRepository "run" Sample.files .never).2
      (Sample.pooled.analyzeRepository "again" Sample.files .never).2 := by
  rw [Sample.ids_inTurn, Sample.ids_pooled]
  have same : Sample.analyzer.setup.DiffersInWorkers Sample.pooled.setup := rfl
  have fair : Sample.analyzer.setup.IsFair := fun several => absurd several (by decide)
  have fair' : Sample.pooled.setup.IsFair := fun _ order => List.reverse_perm order
  refine ⟨by decide, Analyzer.analyzeRepository_alike same fair fair' "run" "again" Sample.files ?_ ?_⟩
  · intro report h
    have unchanged : Sample.setup.DiffersInWorkers Sample.analyzer.setup := rfl
    rw [Sample.nodeIds_report unchanged h, Sample.ids_inTurn]
    decide
  · intro report h
    rw [Sample.nodeIds_report same h, Sample.ids_pooled]
    decide

end CodeAtlas
