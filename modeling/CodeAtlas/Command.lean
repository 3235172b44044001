import CodeAtlas.Database.Export
import CodeAtlas.Document.Writer
import CodeAtlas.Environment
import CodeAtlas.Language.File
import CodeAtlas.Tool

/-!
# The command

One run of the program: analyze the workspace that the environment names, write the report, and export it if the
environment names a database. Every failure ends the run with exit code one; a report that was written before stays
written.
-/

namespace CodeAtlas

/-- Why a run fails. -/
inductive CommandError where
  | environment (error : EnvironmentError)
  | lookup (error : LookupError)
  | noWorkspace (path : String)
  | languages (error : LanguagesFileError)
  | collect (error : CollectError)
  | noFiles
  | analysis (error : AnalysisError)
  /-- The report cannot be written to the file. -/
  | unwritable (path : String)
  | notExported (error : ExportError)
deriving Repr, DecidableEq

/-- What the error says. -/
def CommandError.message : CommandError → String
  | environment error => error.message
  | lookup error => error.message
  | noWorkspace path => "Repository path does not exist: " ++ path
  | languages error => error.message
  | collect error => error.message
  | noFiles => "No supported files found in repository"
  | analysis error => error.message
  | unwritable path => "Cannot write " ++ path
  | notExported error => error.message

/-- Where a report goes. -/
inductive Destination where
  | standardOutput
  | file (path : String)
deriving Repr, DecidableEq

/-- A report that is written. -/
structure Output where
  destination : Destination
  document : Document
deriving Repr

/-- The text that is written; on standard output a newline ends it. -/
def Output.text (o : Output) : String :=
  match o.destination with
  | .standardOutput => o.document.render .lines ++ "\n"
  | .file _ => o.document.render .lines

/-- What a run does. -/
structure CommandResult where
  /-- The report, if it was written. -/
  output : Option Output
  outcome : Except CommandError Unit
  /-- The wire to the database after the run. -/
  wire : Wire

/-- The exit code of a run. -/
def CommandResult.exitCode (r : CommandResult) : Nat := if r.outcome.isOk then 0 else 1

namespace Command

/-- The name of the repository: as the environment gives it, or the last segment of the workspace path. -/
def repositoryName (e : Environment) : String := (e.present? "REPO_NAME").getD (Path.parse e.workspacePath).name

/-- Analyzes the workspace. -/
def analyze (e : Environment) (s : Surroundings) (runId : String) (clock : Binary64 → Deadline := Deadline.ofCount) :
    Except CommandError Report := do
  let workers ← e.workers.mapError .environment
  let path := e.workspacePath
  if !(← (s.workspace.hasPath (Path.parse path)).mapError .lookup) then throw (.noWorkspace path)
  let registry ← (s.workspace.registry e.languagesFile).mapError .languages
  let files ← (s.workspace.collect registry path ⟨e.exclude, e.heedsIgnoreFile⟩).mapError .collect
  if files.isEmpty then throw .noFiles
  let timeout ← e.timeout.mapError .environment
  let (_, report) ← (s.analyze registry workers path runId files (timeout.map .real) clock).mapError .analysis
  return report

/-- Where the report goes. -/
def destination (e : Environment) : Destination := (e.present? "OUTPUT_PATH").elim .standardOutput .file

/-- The written path names a directory: it ends in a slash or a dot. -/
def namesFolder (path : String) : Bool := ["", ".", ".."].contains (Path.lastPart path)

/-- A report can be written to a file: its directory exists, and no directory stands in its place. -/
def isFileWritable (w : Workspace) (path : String) : Except LookupError Bool := do
  let p := Path.parse path
  return !namesFolder path && (← w.folder p.parent).isSome && (← w.folder p).isNone

/-- A report can be written there. -/
def isWritable (w : Workspace) : Destination → Except LookupError Bool
  | .standardOutput => .ok true
  | .file path => isFileWritable w path

/-- The report as a document. -/
def document (repository : String) (report : Report) : Document :=
  .object (("repo_name", .text repository) :: report.fields)

/-- Writes the report, if that is possible. -/
def write (e : Environment) (w : Workspace) (report : Report) : Except CommandError Output := do
  let d := destination e
  if ← (isWritable w d).mapError .lookup then return ⟨d, document (repositoryName e) report⟩
  else throw (.unwritable ((e.get? "OUTPUT_PATH").getD ""))

/-- Exports the report, if the environment names a database. -/
def exportReport (e : Environment) (report : Report) (wire : Wire) : Wire × Except CommandError Unit :=
  match e.present? "NEO4J_URI" with
  | none => (wire, .ok ())
  | some uri =>
    let x : Export := ⟨repositoryName e, true, report.graph, report.dependencies⟩
    let (wire, outcome) := x.send (e.credentials uri) wire
    (wire, outcome.mapError .notExported)

/-- A whole run. -/
def run (e : Environment) (s : Surroundings) (runId : String) (wire : Wire)
    (clock : Binary64 → Deadline := Deadline.ofCount) : CommandResult :=
  match analyze e s runId clock with
  | .error error => ⟨none, .error error, wire⟩
  | .ok report =>
    match write e s.workspace report with
    | .error error => ⟨none, .error error, wire⟩
    | .ok output =>
      let (wire, outcome) := exportReport e report wire
      ⟨some output, outcome, wire⟩

end Command

end CodeAtlas
