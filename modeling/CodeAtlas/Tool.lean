import CodeAtlas.Analyzer
import CodeAtlas.Workspace.Sources

/-!
# The analysis tool

A tool analyzes directories and answers questions about the last one that it analyzed successfully. Its answers are
documents that tell success or the reason of a failure; a failed analysis leaves the tool as it was.
-/

namespace CodeAtlas

/-- The answer to a request: fields, or the reason why there are none. -/
inductive Answer where
  | done (fields : List (String × Document))
  | refused (reason : String)
deriving Repr

/-- An answer as a document. -/
def Answer.document : Answer → Document
  | done fields => .object (("success", .bool true) :: fields)
  | refused reason => .object [("success", .bool false), ("error", .text reason)]

/-- What an analysis works on: the files, the trees that parsers give for a path and its text, and the order in which workers
take up files. -/
structure Surroundings where
  workspace : Workspace
  parser : String → String → Option Tree
  schedule : List String → List String

/-- A request to analyze a directory. -/
structure Request where
  directory : String
  selection : Selection
  timeout : Option Seconds
deriving Repr, DecidableEq

/-- Why a directory cannot be analyzed. -/
inductive RequestError where
  | collect (error : CollectError)
  | analysis (error : AnalysisError)
deriving Repr, DecidableEq

/-- What the error says. -/
def RequestError.message : RequestError → String
  | collect error => error.message
  | analysis error => error.message

/-- A directory that was analyzed. -/
structure Analyzed where
  directory : String
  analyzer : Analyzer

/-- The state of a tool. -/
structure Tool where
  registry : Registry
  workers : Int
  /-- How long an analysis may take if the request does not tell. -/
  timeout : Option Seconds
  /-- The last directory that was analyzed. -/
  current : Option Analyzed

namespace Surroundings

/-- The files of a directory with their trees. -/
def sources (s : Surroundings) (files : Table String String) : Table String SourceFile :=
  files.mapValues fun path text => ⟨text, s.parser path text⟩

/-- How an analyzer of a directory works. -/
def setup (s : Surroundings) (registry : Registry) (workers : Int) (directory : String) : Setup where
  root := directory
  registry := registry
  known := none
  workers := workers
  strict := true
  aliases := none
  onDisk := s.workspace.isFile
  schedule := s.schedule

/-- Analyzes collected files in a new run. -/
def analyze (s : Surroundings) (registry : Registry) (workers : Int) (directory runId : String)
    (files : Table String String) (timeout : Option Seconds) (clock : Binary64 → Deadline := Deadline.ofCount) :
    Except AnalysisError (Analyzed × Report) := do
  let start ← Analyzer.new (s.setup registry workers directory) runId
  let deadline ← Deadline.ofSeconds timeout clock
  let (analyzer, outcome) := start.analyzeRepository runId (s.sources files) deadline
  return (⟨directory, analyzer⟩, ← outcome)

end Surroundings

namespace Tool

/-- The files that a request is about, what became of them, and the report. -/
def attempt (t : Tool) (s : Surroundings) (runId : String) (r : Request)
    (clock : Binary64 → Deadline := Deadline.ofCount) : Except RequestError (Table String String × Analyzed × Report) := do
  let files ← (s.workspace.collect t.registry r.directory r.selection).mapError .collect
  let (analyzed, report) ←
    (s.analyze t.registry t.workers r.directory runId files (r.timeout.or t.timeout) clock).mapError .analysis
  return (files, analyzed, report)

/-- The fields that describe a run. -/
def runFields (directory : String) (files : Table String String) (report : Report) : List (String × Document) := [
  ("repo_path", .text directory),
  ("files_analyzed", .int (files.size - report.failed.size)),
  ("failed_files", .ofTable .text report.failed),
  ("nodes", .nat report.graph.nodes.length),
  ("edges", .nat report.graph.edges.length),
  ("file_order", .texts report.order)]

/-- Analyzes a directory. -/
def analyze (t : Tool) (s : Surroundings) (runId : String) (r : Request)
    (clock : Binary64 → Deadline := Deadline.ofCount) : Tool × Answer :=
  match t.attempt s runId r clock with
  | .ok (files, analyzed, report) => ({ t with current := some analyzed }, .done (runFields r.directory files report))
  | .error e => (t, .refused e.message)

/-! ## Questions -/

/-- The reason of a refusal before anything was analyzed. -/
def nothingAnalyzed : String := "No repository analyzed yet"

/-- Answers a question about the current analysis. -/
def ask (t : Tool) (question : Analyzed → Analyzer × Answer) : Tool × Answer :=
  match t.current with
  | none => (t, .refused nothingAnalyzed)
  | some c => ({ t with current := some { c with analyzer := (question c).1 } }, (question c).2)

/-- Searches the current graph by name. -/
def search (t : Tool) (query : String) (limit : Option Int) (withEdges : Bool) : Tool × Answer :=
  t.ask fun c =>
    let (analyzer, outcome) := c.analyzer.search query limit withEdges
    (analyzer, match outcome with
      | .ok hits => .done [
          ("query", .text query), ("total_results", .nat hits.length), ("results", .list (hits.map Hit.document))]
      | .error e => .refused e.message)

/-- The relations of a file in the current graph. -/
def relationsOf (t : Tool) (file : String) : Tool × Answer :=
  t.ask fun c =>
    let (analyzer, relations) := c.analyzer.relationsOf file
    (analyzer, .done relations.fields)

/-- The files that a file imports. -/
def dependenciesOf (t : Tool) (file : String) : Tool × Answer :=
  t.ask fun c =>
    (c.analyzer, .done [("file_path", .text file), ("dependencies", .texts (c.analyzer.dependenciesOf file))])

/-- How often each name occurs, in the order of first occurrences. -/
def tally (names : List String) : Table String Nat :=
  names.foldl (fun t name => t.put name ((t.get? name).getD 0 + 1)) .empty

/-- The numbers of nodes and edges of the current graph. -/
def statistics (t : Tool) : Tool × Answer :=
  t.ask fun c =>
    let g := c.analyzer.currentGraph
    (c.analyzer.withGraph, .done [
      ("repo_path", .text c.directory),
      ("total_nodes", .nat g.nodes.length),
      ("total_edges", .nat g.edges.length),
      ("nodes_by_type", .ofTable .nat (tally (g.nodes.map (·.kind)))),
      ("edges_by_type", .ofTable .nat (tally (g.edges.map (·.kind)))),
      ("failed_files", .ofTable .text c.analyzer.run.failed)])

end Tool

end CodeAtlas
