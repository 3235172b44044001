import CodeAtlas.Dependency.Extract
import CodeAtlas.Graph.Search
import CodeAtlas.Number.Binary64
import CodeAtlas.Run
import CodeAtlas.Visit

/-!
# Analyzing repositories

An analyzer holds the current run with its dependency map, the order of its files and, once asked for, its graph. Files are
analyzed one at a time into the current run (`Analyzer.analyze`), or all together into a new run that takes the place of the
old one only when it is complete (`Analyzer.analyzeRepository`). The files of a whole run are visited one after another, or
by workers in any order.
-/

namespace CodeAtlas

/-- Why an analysis stops. -/
inductive AnalysisError where
  | emptyPath
  | timedOut
  /-- Workers had not finished when the deadline passed. -/
  | unfinished (left total : Nat)
  | tooFewWorkers (workers : Int)
  /-- A time limit beyond all numbers of seconds that can be counted. -/
  | timeTooLong
  | scan (error : ScanError)
deriving Repr, DecidableEq

/-- What the error says. -/
def AnalysisError.message : AnalysisError → String
  | emptyPath => "file_path is required"
  | timedOut => "Analysis timed out"
  | unfinished left total => "Analysis timed out with " ++ toString left ++ " of " ++ toString total ++ " files pending"
  | tooFewWorkers workers => "max_workers must be at least 1, got " ++ toString workers
  | timeTooLong => "int too large to convert to float"
  | scan error => error.message

/-- A file to be analyzed: its text and what its parser gives. -/
structure SourceFile where
  text : String
  tree : Option Tree
deriving Repr, Inhabited

/-- How an analyzer works. -/
structure Setup where
  /-- The directory of the repository. -/
  root : String
  registry : Registry
  /-- The files that imports may reach, if they are given. -/
  known : Option (List String)
  workers : Int
  /-- Files with syntax errors fail. -/
  strict : Bool
  aliases : Option (Table String String)
  /-- The path is a file on disk. -/
  onDisk : Path → Except LookupError Bool
  /-- The order in which workers take up files. -/
  schedule : List String → List String

/-- A number of seconds. -/
inductive Seconds where
  | whole (count : Int)
  | real (count : Binary64)
deriving Repr, DecidableEq

/-- When a run has to stop: `passed k` tells whether time is up at its check number `k`, and `left` is the number of files
that workers have not finished when they are no longer waited for. -/
structure Deadline where
  passed : Nat → Bool
  left : Nat

namespace Deadline

/-- A run may take as long as it needs. -/
def never : Deadline := ⟨fun _ => false, 0⟩

/-- Time is up from the start. -/
def spent : Deadline := ⟨fun _ => true, 0⟩

/-- The deadline of a run that may take the given time. Every run takes longer than a hundred thousandth of a second, and
less than any time that is given in earnest. -/
def ofCount (seconds : Binary64) : Deadline := if seconds.isAtMost 1 100000 then spent else never

/-- The deadline of a run that may take the given time, if there is a limit; what the limit means for the run is told by a
clock. A whole number of seconds has to be in the range of binary numbers. -/
def ofSeconds (limit : Option Seconds) (clock : Binary64 → Deadline := ofCount) : Except AnalysisError Deadline :=
  match limit with
  | none => .ok never
  | some (.real x) => .ok (clock x)
  | some (.whole n) =>
    match Binary64.ofInt n with
    | .infinite _ => .error .timeTooLong
    | x => .ok (clock x)

/-- The error of a check at which time is up. -/
def check (d : Deadline) (k : Nat) : Except AnalysisError Unit := if d.passed k then .error .timedOut else .ok ()

end Deadline

/-- What a run over a repository gives. -/
structure Report where
  graph : Graph
  dependencies : DependencyMap
  order : List String
  failed : Table String String

/-- The fields of a report. -/
def Report.fields (r : Report) : List (String × Document) := [
  ("graph", r.graph.document),
  ("dependencies", .ofTable (fun e => .texts e.dependencies) r.dependencies),
  ("file_order", .texts r.order),
  ("failed_files", .ofTable .text r.failed)]

/-- The state of an analysis. -/
structure Analyzer where
  setup : Setup
  run : Run
  dependencies : DependencyMap
  order : List String
  /-- The graph of the run, if it was asked for since the run changed. -/
  graph : Option Graph

/-! ## Visiting one file -/

namespace Setup

/-- The resolver of imports: among the given files, or on disk. -/
def resolver (s : Setup) (known : Option (List String)) : Resolver :=
  match known with
  | some files => .ofKnown s.root files s.aliases Resolver.sourceExtensions
  | none => .onDisk s.root s.onDisk s.aliases Resolver.sourceExtensions

/-- The file gets as far as its parser, and so takes a number. -/
def reachesParser (s : Setup) (file : String) (src : SourceFile) : Bool :=
  match Visit.prepare s.registry file src.text with
  | .ok (.ok _) => true
  | _ => false

/-- The outcome of visiting a file under a number. -/
def visit (s : Setup) (r : Resolver) (runId : String) (ordinal : Nat) (file : String) (src : SourceFile) :
    Except AnalysisError FileResult :=
  if file = "" then .error .emptyPath
  else (Visit.prepare s.registry file src.text).mapError .scan |>.map fun prepared =>
    let outcome := prepared.bind fun p => Visit.findings p (some r) s.strict runId file ordinal src.tree
    ⟨file, outcome.mapError FileFailure.message⟩

/-- Visits a file under the next number of the run, which it takes only if it gets as far as its parser. -/
def visitNext (s : Setup) (r : Resolver) (run : Run) (file : String) (src : SourceFile) :
    Except AnalysisError (FileResult × Run) :=
  (s.visit r run.id run.nextOrdinal file src).map fun result =>
    (result, if s.reachesParser file src then run.claimOrdinal.2 else run)

/-! ## Visiting all files -/

/-- Visits files one after another; `k` is the number of the next check of the deadline. -/
def visitInTurn (s : Setup) (r : Resolver) (files : Table String SourceFile) (deadline : Deadline) :
    (k : Nat) → Run → List String → Except AnalysisError (List FileResult × Run)
  | _, run, [] => .ok ([], run)
  | k, run, file :: rest => do
    deadline.check k
    let (result, run) ← s.visitNext r run file ((files.get? file).getD default)
    let (results, run) ← visitInTurn s r files deadline (k + 1) run rest
    return (result :: results, run)

/-- The number of every file, taken in order. -/
def ordinals (run : Run) (order : List String) : Table String Nat :=
  .ofList (order.zip (List.range' run.nextOrdinal order.length))

/-- The outcomes of the files in the order in which workers take them up. -/
def visitScheduled (s : Setup) (r : Resolver) (run : Run) (files : Table String SourceFile) (order : List String) :
    Table String (Except AnalysisError FileResult) :=
  let numbers := ordinals run order
  (s.schedule order).foldl (fun done file =>
    done.put file (s.visit r run.id ((numbers.get? file).getD 0) file ((files.get? file).getD default))) .empty

/-- Visits files by workers and collects the outcomes in file order. -/
def visitByWorkers (s : Setup) (r : Resolver) (files : Table String SourceFile) (deadline : Deadline) (run : Run)
    (order : List String) : Except AnalysisError (List FileResult × Run) :=
  let done := s.visitScheduled r run files order
  let late := AnalysisError.unfinished deadline.left order.length
  if deadline.left ≠ 0 then .error late
  else do
    let results ← order.mapM fun file => (done.get? file).getD (.error late)
    return (results, { run with nextOrdinal := run.nextOrdinal + order.length })

/-- Visits all files of a new run. -/
def visitAll (s : Setup) (r : Resolver) (files : Table String SourceFile) (deadline : Deadline) (run : Run)
    (order : List String) : Except AnalysisError (List FileResult × Run) :=
  if 1 < s.workers then s.visitByWorkers r files deadline run order
  else s.visitInTurn r files deadline 1 run order

end Setup

/-! ## Analyzers -/

namespace Analyzer

/-- An analyzer with an empty run. -/
def new (setup : Setup) (runId : String) : Except AnalysisError Analyzer :=
  if setup.workers < 1 then .error (.tooFewWorkers setup.workers)
  else .ok ⟨{ setup with root := Path.tidy setup.root }, .new runId, .empty, [], none⟩

/-- Forgets everything and starts a new run. -/
def reset (a : Analyzer) (runId : String) : Analyzer := ⟨a.setup, .new runId, .empty, [], none⟩

/-- Analyzes a file into the current run. The visit is merged before the dependencies are looked for, so it stays merged
if that fails. -/
def analyze (a : Analyzer) (file : String) (src : SourceFile) : Analyzer × Except AnalysisError FileResult :=
  let r := a.setup.resolver a.setup.known
  match a.setup.visitNext r a.run file src with
  | .error e => (a, .error e)
  | .ok (result, run) =>
    let merged := { a with run := run.merge result }
    match Dependency.extract a.setup.registry r file src.text with
    | .error e => (merged, .error (.scan e))
    | .ok found =>
      ({ merged with
          dependencies := a.dependencies.put file ⟨file, found⟩
          order := if a.order.contains file then a.order else a.order ++ [file]
          graph := none },
        .ok result)

/-- The graph of a run. -/
def graphOf (run : Run) : Graph := Graph.build run.elements run.allRelations

/-- Analyzes files into a new run. -/
def completeRun (a : Analyzer) (runId : String) (files : Table String SourceFile) (deadline : Deadline) :
    Except AnalysisError (Run × DependencyMap × List String) := do
  let r := a.setup.resolver (some (a.setup.known.getD files.keys))
  let dependencies ← (Dependency.mapOf a.setup.registry r (files.mapValues fun _ src => src.text)).mapError .scan
  let order := dependencies.order
  deadline.check 0
  let (results, run) ← a.setup.visitAll r files deadline (.new runId) order
  return (results.foldl Run.merge run, dependencies, order)

/-- Analyzes a whole repository. The new run takes the place of the old one only when it is complete. -/
def analyzeRepository (a : Analyzer) (runId : String) (files : Table String SourceFile) (deadline : Deadline) :
    Analyzer × Except AnalysisError Report :=
  match a.completeRun runId files deadline with
  | .error e => (a, .error e)
  | .ok (run, dependencies, order) =>
    let graph := graphOf run
    (⟨a.setup, run, dependencies, order, some graph⟩, .ok ⟨graph, dependencies, order, run.failed⟩)

/-- The graph of the current run, which is kept until the run changes. -/
def currentGraph (a : Analyzer) : Graph := a.graph.getD (graphOf a.run)

/-- Remembers the graph of the current run. -/
def withGraph (a : Analyzer) : Analyzer := { a with graph := some a.currentGraph }

/-- Searches the current graph by name. -/
def search (a : Analyzer) (query : String) (limit : Option Int) (withEdges : Bool) :
    Analyzer × Except SearchError (List Hit) :=
  (a.withGraph, a.currentGraph.search query limit withEdges)

/-- The relations of a file in the current graph. -/
def relationsOf (a : Analyzer) (file : String) : Analyzer × FileRelations :=
  (a.withGraph, a.currentGraph.relationsOf file)

/-- The dependencies of a file, none if it was not analyzed. -/
def dependenciesOf (a : Analyzer) (file : String) : List String :=
  ((a.dependencies.get? file).map (·.dependencies)).getD []

end Analyzer

end CodeAtlas
