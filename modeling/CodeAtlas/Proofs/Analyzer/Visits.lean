import CodeAtlas.Analyzer
import CodeAtlas.Proofs.Outcome
import CodeAtlas.Proofs.Table

/-!
# The visits of a run

However the files of a run are visited, the results are those of one visit for each file, in the order of the files, and of
the run only the number of the next file changes (`visitInTurn_ok`, `visitByWorkers_ok`, `visitAll_ok`). A report is about
a run that these results were merged into (`completeRun_ok`, `analyzeRepository_ok`), and this is the run that the analyzer
has then (`completeRun_of_reported`); without a report nothing changes (`analyzeRepository_error`). A file that is analyzed
alone may be merged and still not be listed (`Analyzes`).
-/

namespace CodeAtlas

/-- What a file map gives for a file. -/
def sourceIn (files : Table String SourceFile) (file : String) : SourceFile := (files.get? file).getD default

theorem sourceIn_of_mem {files : Table String SourceFile} {file : String} {src : SourceFile}
    (entry : (file, src) ∈ files.entries) : sourceIn files file = src := by
  rw [sourceIn, Table.get?_of_mem entry, Option.getD_some]

namespace Run

/-- The run with another number for its next file. -/
def numbered (run : Run) (next : Nat) : Run := { run with nextOrdinal := next }

@[simp] theorem numbered_id (run : Run) (next : Nat) : (run.numbered next).id = run.id := rfl

@[simp] theorem numbered_numbered (run : Run) (a b : Nat) : (run.numbered a).numbered b = run.numbered b := rfl

end Run

namespace Setup

variable {s : Setup} {r : Resolver}

/-- The number of the next file after a visit under the given one. -/
def nextAfter (s : Setup) (ordinal : Nat) (file : String) (src : SourceFile) : Nat :=
  if s.reachesParser file src then ordinal + 1 else ordinal

theorem visitNext_eq (run : Run) (file : String) (src : SourceFile) :
    s.visitNext r run file src = (s.visit r run.id run.nextOrdinal file src).map fun result =>
      (result, run.numbered (s.nextAfter run.nextOrdinal file src)) := by
  unfold visitNext nextAfter
  split <;> rfl

/-- What a visit finds was found on a walk through a tree. -/
theorem visit_walked {runId : String} {ordinal : Nat} {file : String} {src : SourceFile} {result : FileResult}
    {found : Findings} (h : s.visit r runId ordinal file src = .ok result) (ok : result.outcome = .ok found) :
    ∃ p root, Visit.walkTree (Visit.subject p (some r) runId file ordinal) root = .ok found := by
  unfold visit at h
  split at h
  · cases h
  · obtain ⟨prepared, -, rfl⟩ := Except.map_eq_ok_iff.mp h
    obtain ⟨p, -, findings⟩ := Except.bind_eq_ok_iff.mp (Except.mapError_eq_ok_iff.mp ok)
    unfold Visit.findings at findings
    split at findings
    · cases findings
    · rename_i t _
      split at findings
      · cases findings
      · exact ⟨p, t.root, findings⟩

/-- The outcomes are those of visits of the files in their order. -/
def AreOutcomes (s : Setup) (r : Resolver) (runId : String) (files : Table String SourceFile) (order : List String)
    (outcomes : List (Except AnalysisError FileResult)) : Prop :=
  List.Forall₂ (fun file outcome => ∃ ordinal, s.visit r runId ordinal file (sourceIn files file) = outcome)
    order outcomes

/-- The results are those of visits of the files in their order. -/
abbrev AreVisits (s : Setup) (r : Resolver) (runId : String) (files : Table String SourceFile) (order : List String)
    (results : List FileResult) : Prop :=
  s.AreOutcomes r runId files order (results.map .ok)

theorem visitInTurn_ok {files : Table String SourceFile} {deadline : Deadline} :
    ∀ {order : List String} {k : Nat} {run run' : Run} {results : List FileResult},
      s.visitInTurn r files deadline k run order = .ok (results, run') →
        s.AreVisits r run.id files order results ∧ ∃ next, run' = run.numbered next
  | [], _, run, _, _, h => by
    obtain ⟨rfl, rfl⟩ := Prod.mk.inj (Except.ok.inj h)
    exact ⟨.nil, run.nextOrdinal, rfl⟩
  | file :: order, k, run, run', _, h => by
    obtain ⟨-, -, h⟩ := Except.bind_eq_ok_iff.mp h
    obtain ⟨⟨result, run₁⟩, visited, h⟩ := Except.bind_eq_ok_iff.mp h
    obtain ⟨⟨results, run₂⟩, rest, h⟩ := Except.bind_eq_ok_iff.mp h
    obtain ⟨rfl, rfl⟩ := Prod.mk.inj (Except.ok.inj h)
    rw [visitNext_eq] at visited
    obtain ⟨_, visit, h⟩ := Except.map_eq_ok_iff.mp visited
    obtain ⟨rfl, rfl⟩ := Prod.mk.inj h
    obtain ⟨visits, next, rfl⟩ := visitInTurn_ok rest
    exact ⟨.cons ⟨run.nextOrdinal, visit⟩ visits, next, rfl⟩

/-- Workers give for every file they take up the outcome of its visit, in whatever order they take up the files. -/
theorem get?_visitScheduled (s : Setup) (r : Resolver) (run : Run) (files : Table String SourceFile)
    (order : List String) (file : String) :
    (s.visitScheduled r run files order).get? file =
      if file ∈ s.schedule order then
        some (s.visit r run.id (((ordinals run order).get? file).getD 0) file (sourceIn files file))
      else none :=
  Table.get?_foldl_put (fun file =>
    s.visit r run.id (((ordinals run order).get? file).getD 0) file (sourceIn files file)) file (s.schedule order) .empty

theorem visitByWorkers_ok {files : Table String SourceFile} {deadline : Deadline} {run run' : Run}
    {order : List String} {results : List FileResult}
    (h : s.visitByWorkers r files deadline run order = .ok (results, run')) :
    s.AreVisits r run.id files order results ∧ ∃ next, run' = run.numbered next := by
  unfold visitByWorkers at h
  split at h
  · cases h
  · obtain ⟨_, collected, h⟩ := Except.bind_eq_ok_iff.mp h
    obtain ⟨rfl, rfl⟩ := Prod.mk.inj (Except.ok.inj h)
    refine ⟨List.forall₂_map_right_iff.mpr ((Except.mapM_eq_ok_iff.mp collected).imp fun file result h => ?_), _, rfl⟩
    rw [get?_visitScheduled] at h
    split at h
    · exact ⟨_, h⟩
    · cases h

/-- The results of a run are visits of its files. -/
theorem visitAll_ok {files : Table String SourceFile} {deadline : Deadline} {run run' : Run}
    {order : List String} {results : List FileResult}
    (h : s.visitAll r files deadline run order = .ok (results, run')) :
    s.AreVisits r run.id files order results ∧ ∃ next, run' = run.numbered next := by
  unfold visitAll at h
  split at h
  · exact visitByWorkers_ok h
  · exact visitInTurn_ok h

end Setup

namespace Analyzer

variable {a : Analyzer} {runId : String} {files : Table String SourceFile} {deadline : Deadline}

/-- A completed run is what all visits of the files, in the order of their dependencies, were merged into. -/
theorem completeRun_ok {run : Run} {dependencies : DependencyMap} {order : List String}
    (h : a.completeRun runId files deadline = .ok (run, dependencies, order)) :
    let r := a.setup.resolver (some (a.setup.known.getD files.keys))
    Dependency.mapOf a.setup.registry r (files.mapValues fun _ src => src.text) = .ok dependencies ∧
      order = dependencies.order ∧
      ∃ results run', a.setup.visitAll r files deadline (.new runId) order = .ok (results, run') ∧
        run = results.foldl Run.merge run' := by
  obtain ⟨found, mapped, h⟩ := Except.bind_eq_ok_iff.mp h
  obtain ⟨-, -, h⟩ := Except.bind_eq_ok_iff.mp h
  obtain ⟨⟨results, run'⟩, visited, h⟩ := Except.bind_eq_ok_iff.mp h
  obtain ⟨rfl, rest⟩ := Prod.mk.inj (Except.ok.inj h)
  obtain ⟨rfl, rfl⟩ := Prod.mk.inj rest
  exact ⟨Except.mapError_eq_ok_iff.mp mapped, rfl, results, run', visited, rfl⟩

/-- A report is about a completed run. -/
theorem analyzeRepository_ok {report : Report} (h : (a.analyzeRepository runId files deadline).2 = .ok report) :
    ∃ run, a.completeRun runId files deadline = .ok (run, report.dependencies, report.order) ∧
      report.graph = graphOf run ∧ report.failed = run.failed := by
  unfold analyzeRepository at h
  cases completed : a.completeRun runId files deadline with
  | error e =>
    rw [completed] at h
    cases h
  | ok x =>
    obtain ⟨run, dependencies, order⟩ := x
    rw [completed] at h
    obtain rfl := Except.ok.inj h
    exact ⟨run, rfl, rfl, rfl⟩

/-- A report is about the state that the analyzer has then, and the analyzer keeps its graph. -/
theorem completeRun_of_reported {b : Analyzer} {report : Report}
    (h : a.analyzeRepository runId files deadline = (b, .ok report)) :
    a.completeRun runId files deadline = .ok (b.run, b.dependencies, b.order) ∧
      report = ⟨graphOf b.run, b.dependencies, b.order, b.run.failed⟩ ∧ b.graph = some report.graph := by
  unfold analyzeRepository at h
  cases completed : a.completeRun runId files deadline with
  | error e =>
    rw [completed] at h
    cases (Prod.mk.inj h).2
  | ok x =>
    rw [completed] at h
    obtain ⟨rfl, same⟩ := Prod.mk.inj h
    obtain rfl := Except.ok.inj same
    exact ⟨rfl, rfl, rfl⟩

/-- An analysis of a repository that fails leaves everything as it was. -/
theorem analyzeRepository_error {e : AnalysisError} (h : (a.analyzeRepository runId files deadline).2 = .error e) :
    (a.analyzeRepository runId files deadline).1 = a := by
  unfold analyzeRepository at h ⊢
  cases completed : a.completeRun runId files deadline with
  | error e => rfl
  | ok x =>
    rw [completed] at h
    cases h

/-- What analyzing a file does. A file that cannot be visited changes nothing. Else its visit is merged; the file is
listed with its dependencies, and the graph is forgotten, only if these can be found. -/
inductive Analyzes (a : Analyzer) (file : String) (src : SourceFile) : Analyzer × Except AnalysisError FileResult → Prop
  | nothing {e : AnalysisError}
      (failed : a.setup.visit (a.setup.resolver a.setup.known) a.run.id a.run.nextOrdinal file src = .error e) :
      Analyzes a file src (a, .error e)
  | merged {result : FileResult} {e : ScanError}
      (visited : a.setup.visit (a.setup.resolver a.setup.known) a.run.id a.run.nextOrdinal file src = .ok result)
      (failed : Dependency.extract a.setup.registry (a.setup.resolver a.setup.known) file src.text = .error e) :
      Analyzes a file src
        ({ a with run := (a.run.numbered (a.setup.nextAfter a.run.nextOrdinal file src)).merge result }, .error (.scan e))
  | listed {result : FileResult} {found : List String}
      (visited : a.setup.visit (a.setup.resolver a.setup.known) a.run.id a.run.nextOrdinal file src = .ok result)
      (extracted : Dependency.extract a.setup.registry (a.setup.resolver a.setup.known) file src.text = .ok found) :
      Analyzes a file src
        (⟨a.setup, (a.run.numbered (a.setup.nextAfter a.run.nextOrdinal file src)).merge result,
          a.dependencies.put file ⟨file, found⟩, Resolver.addNew a.order file, none⟩, .ok result)

theorem analyze_analyzes (a : Analyzer) (file : String) (src : SourceFile) : Analyzes a file src (a.analyze file src) := by
  unfold analyze
  dsimp only
  rw [Setup.visitNext_eq]
  cases visit : a.setup.visit (a.setup.resolver a.setup.known) a.run.id a.run.nextOrdinal file src with
  | error e => exact .nothing visit
  | ok result =>
    cases extract : Dependency.extract a.setup.registry (a.setup.resolver a.setup.known) file src.text with
    | error e => exact .merged visit extract
    | ok found => exact .listed visit extract

end Analyzer

end CodeAtlas
