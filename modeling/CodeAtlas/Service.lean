import CodeAtlas.Database.Export
import CodeAtlas.Environment
import CodeAtlas.Language.File
import CodeAtlas.Tool

/-!
# The service

A service holds one tool and takes its settings from the environment anew for every request. It analyzes the workspace that
the environment names, answers questions about it, and exports it to a database. Settings that cannot be read are errors;
everything else is told in the answer.
-/

namespace CodeAtlas

/-- Why a request gets no answer. -/
inductive ServiceError where
  | environment (error : EnvironmentError)
  | languages (error : LanguagesFileError)
  /-- A file suffix is no text; `position` is its place among all suffixes. -/
  | badSuffix (position : Nat) (kind : String)
  | lookup (error : LookupError)
deriving Repr, DecidableEq

/-- The state of a service. -/
structure Service where
  environment : Environment
  /-- The languages, once they have been read. -/
  languages : Option Registry
  /-- The tool, once the service is initialized. -/
  tool : Option Tool

namespace Service

/-- A service that has done nothing yet. -/
def new (e : Environment) : Service := ⟨e, none, none⟩

/-- The settings of the service. -/
def settings (s : Service) : Except ServiceError Settings := (Settings.ofEnvironment s.environment).mapError .environment

/-- The first suffix of a registry that is no text, with its place among all suffixes. -/
def badSuffix? (registry : Registry) : Option (Document × Nat) :=
  registry.suffixes.keys.zipIdx.find? fun s => s.1.kindName ≠ "str"

/-- A new tool. It lists the suffixes of its languages, which have to be texts. -/
def newTool (settings : Settings) (registry : Registry) : Except ServiceError Tool :=
  match badSuffix? registry with
  | some (suffix, position) => .error (.badSuffix position suffix.kindName)
  | none => .ok ⟨registry, settings.workers, settings.timeout.map .real, none⟩

/-- The settings and the languages of a new tool. -/
def preparation (s : Service) (w : Workspace) : Except ServiceError (Settings × Registry) := do
  let settings ← s.settings
  let registry ← Registry.keep s.languages ((w.registry settings.languagesFile).mapError .languages)
  return (settings, registry)

/-- Gives the service a new tool. If that fails, the old one stays; languages that were read are kept all the same. -/
def start (s : Service) (w : Workspace) : Service × Except ServiceError Unit :=
  match s.preparation w with
  | .error e => (s, .error e)
  | .ok (settings, registry) =>
    match newTool settings registry with
    | .error e => ({ s with languages := some registry }, .error e)
    | .ok tool => ({ s with languages := some registry, tool := some tool }, .ok ())

/-- The reason of a refusal before the service is initialized. -/
def notInitialized : String := "Server not initialized"

/-- Puts a question to the tool. -/
def ask (s : Service) (question : Tool → Tool × Answer) : Service × Answer :=
  match s.tool with
  | none => (s, .refused notInitialized)
  | some t => ({ s with tool := some (question t).1 }, (question t).2)

/-- Analyzes the workspace. Patterns of the request take the place of those of the environment. -/
def analyze (s : Service) (around : Surroundings) (runId : String) (exclude : List String) (timeout : Option Seconds)
    (clock : Binary64 → Deadline := Deadline.ofCount) : Service × Except ServiceError Answer :=
  match s.tool, s.settings with
  | none, _ => (s, .ok (.refused notInitialized))
  | some _, .error e => (s, .error e)
  | some t, .ok settings =>
    let patterns := if exclude.isEmpty then settings.exclude else exclude
    let (t, answer) := t.analyze around runId
      ⟨settings.workspacePath, ⟨patterns, settings.heedsIgnoreFile⟩, timeout⟩ clock
    ({ s with tool := some t }, .ok answer)

/-- What is exported under a name. -/
def exportOf (a : Analyzer) (repository : String) (clear : Bool) : Export :=
  ⟨repository, clear, a.currentGraph, a.dependencies⟩

/-- The answer to an export. -/
def exportAnswer (x : Export) : Except ExportError Unit → Answer
  | .ok () => .done [
      ("repo_name", .text x.repository), ("nodes", .nat x.graph.nodes.length),
      ("relationships", .nat x.graph.edges.length), ("dependencies", .nat x.dependencies.links.length)]
  | .error e => .refused e.message

/-- Exports the current analysis through a wire. -/
def exportTo (s : Service) (w : Wire) (repository : String) (clear : Bool) : Wire × Except ServiceError Answer :=
  match s.tool.bind (·.current), s.settings with
  | none, _ => (w, .ok (.refused Tool.nothingAnalyzed))
  | some _, .error e => (w, .error e)
  | some c, .ok settings =>
    let x := exportOf c.analyzer repository clear
    let (w, outcome) := x.send settings.database w
    (w, .ok (exportAnswer x outcome))

/-- Tells how the service is. -/
def health (s : Service) (w : Workspace) : Except ServiceError Answer := do
  let settings ← s.settings
  let workspaceExists ← (w.hasPath (Path.parse settings.workspacePath)).mapError .lookup
  return .done [
    ("status", .text (if s.tool.isSome then "healthy" else "degraded")),
    ("components", .object [
      ("graph_tool", .bool s.tool.isSome),
      ("repository_analyzed", .bool (s.tool.bind (·.current)).isSome),
      ("workspace_exists", .bool workspaceExists)])]

end Service

end CodeAtlas
