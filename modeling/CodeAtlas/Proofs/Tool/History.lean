import CodeAtlas.Language.Bundled
import CodeAtlas.Proofs.Analyzer.Visits
import CodeAtlas.Tool
import Mathlib.Data.List.Induction

/-!
# Histories of a tool

A tool is called again and again: it is told to analyze a directory, or asked about the last one that it analyzed. An
analysis that fails changes nothing. One that succeeds brings an analyzer that has its graph (`attempt_ok`), so that
questions find everything they need and change nothing either (`answer_tool`). So the state of a tool after any history is
that of a new tool after the last analysis of the history that succeeded (`afterAll_left`), and questions are answered from
there (`answer_afterAll`).
-/

namespace CodeAtlas

/-- A directory is analyzed by a new analyzer, and its report is that of the analyzer. -/
theorem Surroundings.analyze_ok {s : Surroundings} {registry : Registry} {workers : Int} {directory runId : String}
    {files : Table String String} {timeout : Option Seconds} {clock : Binary64 → Deadline} {analyzed : Analyzed}
    {report : Report} (h : s.analyze registry workers directory runId files timeout clock = .ok (analyzed, report)) :
    ∃ start deadline, Analyzer.new (s.setup registry workers directory) runId = .ok start ∧
      start.analyzeRepository runId (s.sources files) deadline = (analyzed.analyzer, .ok report) := by
  obtain ⟨start, fresh, h⟩ := Except.bind_eq_ok_iff.mp h
  obtain ⟨deadline, -, h⟩ := Except.bind_eq_ok_iff.mp h
  obtain ⟨reported, outcome, h⟩ := Except.bind_eq_ok_iff.mp h
  obtain ⟨rfl, rfl⟩ := Prod.mk.inj (Except.ok.inj h)
  exact ⟨start, deadline, fresh, Prod.ext rfl outcome⟩

@[simp] theorem Surroundings.keys_sources (s : Surroundings) (files : Table String String) :
    (s.sources files).keys = files.keys := by
  simp [sources, Table.mapValues, Table.keys]

namespace Analyzer

/-- Asking for a graph that is there changes nothing. -/
theorem withGraph_of_graph {a : Analyzer} {g : Graph} (h : a.graph = some g) : a.withGraph = a := by
  cases a
  simp only at h
  simp [withGraph, currentGraph, h]

end Analyzer

namespace Tool

/-! ## Calls -/

/-- An analysis that a tool is told to make: what it finds around it, the id of its run, the request, and the clock that
tells when its time is up. -/
structure Analysis where
  around : Surroundings
  runId : String
  request : Request
  clock : Binary64 → Deadline

/-- What can be asked about the current analysis. -/
inductive Question where
  | search (query : String) (limit : Option Int) (withEdges : Bool)
  | relationsOf (file : String)
  | dependenciesOf (file : String)
  | statistics

/-- What a tool can be called for. -/
inductive Call where
  | analyze (analysis : Analysis)
  | ask (question : Question)

/-- A tool that was never called. -/
def new (registry : Registry) (workers : Int) (timeout : Option Seconds) : Tool := ⟨registry, workers, timeout, none⟩

/-- The tool after an analysis, and its answer. -/
def perform (t : Tool) (a : Analysis) : Tool × Answer := t.analyze a.around a.runId a.request a.clock

/-- The tool after a question, and its answer. -/
def answer (t : Tool) : Question → Tool × Answer
  | .search query limit withEdges => t.search query limit withEdges
  | .relationsOf file => t.relationsOf file
  | .dependenciesOf file => t.dependenciesOf file
  | .statistics => t.statistics

/-- The tool after a call, and its answer. -/
def respond (t : Tool) : Call → Tool × Answer
  | .analyze a => t.perform a
  | .ask q => t.answer q

/-- The tool after calls, the first one first. -/
def afterAll (t : Tool) (calls : List Call) : Tool := calls.foldl (fun t call => (t.respond call).1) t

/-- The calls of a history with the answers that they got. -/
def transcript : Tool → List Call → List (Call × Answer)
  | _, [] => []
  | t, call :: calls => (call, (t.respond call).2) :: transcript (t.respond call).1 calls

/-- The analysis of a call that was answered with success. -/
def succeeded? : Call × Answer → Option Analysis
  | (.analyze a, .done _) => some a
  | _ => none

/-- The last analysis of a history that was answered with success. -/
def lastSuccess? (t : Tool) (calls : List Call) : Option Analysis :=
  ((t.transcript calls).filterMap succeeded?).getLast?

variable {t : Tool}

@[simp] theorem afterAll_concat (t : Tool) (calls : List Call) (call : Call) :
    t.afterAll (calls ++ [call]) = ((t.afterAll calls).respond call).1 := by
  simp [afterAll]

theorem transcript_concat (t : Tool) (calls : List Call) (call : Call) :
    t.transcript (calls ++ [call]) = t.transcript calls ++ [(call, ((t.afterAll calls).respond call).2)] := by
  induction calls generalizing t with
  | nil => rfl
  | cons first calls ih =>
    rw [List.cons_append, transcript, ih]
    rfl

/-- The last call is the last success, or the last success came before. -/
theorem lastSuccess?_concat (t : Tool) (calls : List Call) (call : Call) :
    t.lastSuccess? (calls ++ [call]) =
      (succeeded? (call, ((t.afterAll calls).respond call).2)).or (t.lastSuccess? calls) := by
  unfold lastSuccess?
  rw [transcript_concat, List.filterMap_append, List.getLast?_append]
  congr 1
  cases h : succeeded? (call, ((t.afterAll calls).respond call).2) <;> simp [h]

/-! ## What a call does -/

/-- A directory that was analyzed was collected and analyzed by a new analyzer. -/
theorem attempt_ok {s : Surroundings} {runId : String} {r : Request} {clock : Binary64 → Deadline}
    {files : Table String String} {analyzed : Analyzed} {report : Report}
    (h : t.attempt s runId r clock = .ok (files, analyzed, report)) :
    s.workspace.collect t.registry r.directory r.selection = .ok files ∧
      ∃ start deadline, Analyzer.new (s.setup t.registry t.workers r.directory) runId = .ok start ∧
        start.analyzeRepository runId (s.sources files) deadline = (analyzed.analyzer, .ok report) := by
  obtain ⟨collected, collects, h⟩ := Except.bind_eq_ok_iff.mp h
  obtain ⟨⟨analyzed', report'⟩, analyzes, h⟩ := Except.bind_eq_ok_iff.mp h
  obtain ⟨rfl, same⟩ := Prod.mk.inj (Except.ok.inj h)
  obtain ⟨rfl, rfl⟩ := Prod.mk.inj same
  exact ⟨Except.mapError_eq_ok_iff.mp collects, Surroundings.analyze_ok (Except.mapError_eq_ok_iff.mp analyzes)⟩

/-- A tool that has analyzed a directory keeps what became of it and describes the run. -/
theorem analyze_done {t' : Tool} {s : Surroundings} {runId : String} {r : Request} {clock : Binary64 → Deadline}
    {fields : List (String × Document)} (h : t.analyze s runId r clock = (t', .done fields)) :
    ∃ files c report, t.attempt s runId r clock = .ok (files, c, report) ∧ t'.current = some c ∧
      fields = runFields r.directory files report := by
  unfold analyze at h
  cases attempted : t.attempt s runId r clock with
  | error e =>
    rw [attempted] at h
    cases (Prod.mk.inj h).2
  | ok x =>
    rw [attempted] at h
    obtain ⟨rfl, same⟩ := Prod.mk.inj h
    exact ⟨x.1, x.2.1, x.2.2, rfl, rfl, (Answer.done.inj same).symm⟩

/-- What was analyzed has its graph. -/
def HasGraph (t : Tool) : Prop := ∀ c, t.current = some c → c.analyzer.graph.isSome = true

/-- A question that leaves every analyzer with a graph as it is leaves the tool as it is. -/
theorem ask_tool (h : t.HasGraph) {question : Analyzed → Analyzer × Answer}
    (keeps : ∀ c g, c.analyzer.graph = some g → (question c).1 = c.analyzer) : (t.ask question).1 = t := by
  unfold ask
  split
  · rfl
  · rename_i c current
    obtain ⟨g, graph⟩ := Option.isSome_iff_exists.mp (h c current)
    rw [keeps c g graph, ← current]

/-- Questions change nothing once what was analyzed has its graph. -/
theorem answer_tool (h : t.HasGraph) (q : Question) : (t.answer q).1 = t := by
  cases q with
  | search query limit withEdges => exact ask_tool h fun _ _ => Analyzer.withGraph_of_graph
  | relationsOf file => exact ask_tool h fun _ _ => Analyzer.withGraph_of_graph
  | dependenciesOf file => exact ask_tool h fun _ _ _ => rfl
  | statistics => exact ask_tool h fun _ _ => Analyzer.withGraph_of_graph

/-- Before anything was analyzed every question is refused. -/
theorem answer_of_none (h : t.current = none) (q : Question) : (t.answer q).2 = .refused nothingAnalyzed := by
  cases q <;> simp [answer, search, relationsOf, dependenciesOf, statistics, ask, h]

/-- What a tool makes of an analysis: nothing, with the reason, or what it analyzed takes the place of what it had, whatever
that was. -/
theorem perform_cases (registry : Registry) (workers : Int) (timeout : Option Seconds) (a : Analysis) :
    (∃ reason, ∀ current, perform ⟨registry, workers, timeout, current⟩ a =
        (⟨registry, workers, timeout, current⟩, .refused reason)) ∨
      ∃ c fields, c.analyzer.graph.isSome = true ∧ ∀ current, perform ⟨registry, workers, timeout, current⟩ a =
        (⟨registry, workers, timeout, some c⟩, .done fields) := by
  cases attempted : (new registry workers timeout).attempt a.around a.runId a.request a.clock with
  | error e =>
    refine Or.inl ⟨e.message, fun current => ?_⟩
    have same : attempt ⟨registry, workers, timeout, current⟩ a.around a.runId a.request a.clock = .error e := attempted
    unfold perform analyze
    rw [same]
  | ok x =>
    obtain ⟨files, analyzed, report⟩ := x
    refine Or.inr ⟨analyzed, runFields a.request.directory files report, ?_, fun current => ?_⟩
    · obtain ⟨-, start, deadline, -, reported⟩ := attempt_ok attempted
      rw [(Analyzer.completeRun_of_reported reported).2.2]
      rfl
    · have same : attempt ⟨registry, workers, timeout, current⟩ a.around a.runId a.request a.clock =
          .ok (files, analyzed, report) := attempted
      unfold perform analyze
      rw [same]

/-! ## Histories -/

section

variable {registry : Registry} {workers : Int} {timeout : Option Seconds}

/-- What the last success of a history, if there was one, has left behind: what a new tool analyzes by it alone. -/
inductive Left (registry : Registry) (workers : Int) (timeout : Option Seconds) : Option Analysis → Option Analyzed → Prop
  | nothing : Left registry workers timeout none none
  | analyzed {a : Analysis} {c : Analyzed} {fields : List (String × Document)} (graph : c.analyzer.graph.isSome = true)
      (performed : (new registry workers timeout).perform a = (⟨registry, workers, timeout, some c⟩, .done fields)) :
      Left registry workers timeout (some a) (some c)

theorem Left.hasGraph {last : Option Analysis} {current : Option Analyzed} (h : Left registry workers timeout last current) :
    HasGraph ⟨registry, workers, timeout, current⟩ := by
  intro c some
  cases h with
  | nothing => cases some
  | analyzed graph =>
    obtain rfl := Option.some.inj some
    exact graph

/-- A call leaves behind what it analyzes, if it is a success, and else what was there. -/
theorem Left.respond {last : Option Analysis} {current : Option Analyzed} (h : Left registry workers timeout last current)
    (call : Call) : ∃ next answer, Tool.respond ⟨registry, workers, timeout, current⟩ call =
      (⟨registry, workers, timeout, next⟩, answer) ∧
        Left registry workers timeout ((succeeded? (call, answer)).or last) next := by
  cases call with
  | ask q => exact ⟨current, _, Prod.ext (answer_tool h.hasGraph q) rfl, h⟩
  | analyze a =>
    rcases perform_cases registry workers timeout a with ⟨reason, refused⟩ | ⟨c, fields, graph, done⟩
    · exact ⟨current, _, refused current, h⟩
    · exact ⟨some c, _, done current, .analyzed graph (done none)⟩

/-- After a history there is what its last success has left behind. -/
theorem afterAll_left (registry : Registry) (workers : Int) (timeout : Option Seconds) (calls : List Call) :
    let t := new registry workers timeout
    ∃ current, t.afterAll calls = ⟨registry, workers, timeout, current⟩ ∧
      Left registry workers timeout (t.lastSuccess? calls) current := by
  intro t
  induction calls using List.reverseRecOn with
  | nil => exact ⟨none, rfl, .nothing⟩
  | append_singleton calls call ih =>
    obtain ⟨current, state, left⟩ := ih
    obtain ⟨next, answer, responds, left⟩ := left.respond call
    refine ⟨next, ?_, ?_⟩
    · rw [afterAll_concat, state, responds]
    · rw [lastSuccess?_concat, state, responds]
      exact left

end

/-- The answer to a question after any history of calls is that of a new tool that made only the last analysis of the
history that was answered with success, under the same run id, and this analysis is a success again; if there was none, the
question is refused. -/
theorem answer_afterAll (registry : Registry) (workers : Int) (timeout : Option Seconds) (calls : List Call)
    (q : Question) :
    let t := new registry workers timeout
    match t.lastSuccess? calls with
    | none => ((t.afterAll calls).answer q).2 = .refused nothingAnalyzed
    | some a => (∃ fields, (t.perform a).2 = .done fields) ∧
        ((t.afterAll calls).answer q).2 = ((t.perform a).1.answer q).2 := by
  intro t
  obtain ⟨current, state, left⟩ := afterAll_left registry workers timeout calls
  rw [state]
  generalize t.lastSuccess? calls = last at left
  cases left with
  | nothing => exact answer_of_none rfl q
  | analyzed graph performed =>
    refine ⟨⟨_, congrArg Prod.snd performed⟩, ?_⟩
    rw [performed]

/-- The last success is the first of two analyses if the second is about a directory that is missing. -/
example :
    let around : Surroundings := ⟨⟨[["workspace"]], .empty, []⟩, fun _ _ => none, id⟩
    let analysis := fun runId directory => Call.analyze ⟨around, runId, ⟨directory, ⟨[], true⟩, none⟩, Deadline.ofCount⟩
    ((new Bundled.registry 1 none).lastSuccess? [analysis "first" "/workspace", .ask .statistics,
      analysis "second" "/missing"]).map (·.runId) = some "first" := by
  decide +kernel

end Tool

end CodeAtlas
