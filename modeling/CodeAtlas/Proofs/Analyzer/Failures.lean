import CodeAtlas.Proofs.Analyzer.Consistency
import CodeAtlas.Proofs.Graph.Edges
import CodeAtlas.Proofs.Run.Merging

/-!
# Failures in a run

Files may be analyzed again and again in one run. A run gathers and takes nothing back: a file is listed as failed once one of
its analyses has failed, with the reason of the last one that did, and it stays listed when a later analysis succeeds
(`failures_recorded`, `sample_failureKept`). Only a new run forgets.
-/

namespace CodeAtlas

/-- Where analyzing the file raises an error, nothing has changed. -/
def Setup.RaisesCleanly (s : Setup) (file : String) (src : SourceFile) : Prop :=
  ∀ (a : Analyzer) (e : AnalysisError), a.setup = s → (a.analyze file src).2 = .error e → (a.analyze file src).1 = a

/-- With imports that can be found an error can only come from the visit, before anything is merged. -/
theorem Setup.raisesCleanly_of_extract {s : Setup} {file : String} {src : SourceFile}
    (extracted : (Dependency.extract s.registry (s.resolver s.known) file src.text).Succeeds) : s.RaisesCleanly file src := by
  rintro a e rfl raised
  obtain ⟨found, extracted, -⟩ := extracted
  have analyzes := a.analyze_analyzes file src
  generalize a.analyze file src = outcome at *
  cases analyzes with
  | nothing => rfl
  | merged _ failed => exact nomatch extracted.symm.trans failed
  | listed => cases raised

namespace Analyzer

/-- The request stays in the current run. -/
def Request.StaysInRun : Request → Prop
  | .analyzeRepository _ _ _ | .reset _ => False
  | .analyze _ _ | .graph | .search _ _ _ | .relationsOf _ | .dependenciesOf _ => True

/-- The files that requests analyze one at a time, each with the answer. -/
def answers (a : Analyzer) : List Request → List (String × Except AnalysisError FileResult)
  | [] => []
  | .analyze file src :: requests => (file, (a.analyze file src).2) :: (a.analyze file src).1.answers requests
  | request :: requests => (a.after request).answers requests

/-- What is recorded of an answer for a file. -/
def recordedOf (file : String) : String × Except AnalysisError FileResult → Option String
  | (path, .ok result) => if path = file then Run.recorded result else none
  | (_, .error _) => none

variable {a : Analyzer} {file path : String} {src : SourceFile}

/-- What a file was analyzed with is the result of its visit, and this is merged. -/
theorem run_of_analyzed {result : FileResult} (answer : (a.analyze file src).2 = .ok result) :
    result.file = file ∧ ∃ next, (a.analyze file src).1.run = (a.run.numbered next).merge result := by
  have analyzes := a.analyze_analyzes file src
  generalize a.analyze file src = outcome at *
  cases analyzes with
  | nothing | merged => cases answer
  | listed visited =>
    obtain rfl := Except.ok.inj answer
    exact ⟨Setup.visit_file visited, _, rfl⟩

/-- What one analysis changes in the failures. -/
theorem failed_analyze (clean : a.setup.RaisesCleanly file src) :
    (a.analyze file src).1.run.failed.get? path =
      (recordedOf path (file, (a.analyze file src).2)).or (a.run.failed.get? path) := by
  cases answer : (a.analyze file src).2 with
  | error e =>
    rw [clean a e rfl answer]
    rfl
  | ok result =>
    obtain ⟨own, next, merged⟩ := run_of_analyzed answer
    rw [merged, Run.failed_merge, own]
    rfl

/-- The last value that members of a list give, from its first member on. -/
theorem getLast?_filterMap_cons {α β : Type} (f : α → Option β) (x : α) (xs : List α) :
    ((x :: xs).filterMap f).getLast? = (xs.filterMap f).getLast?.or (f x) := by
  rw [List.filterMap_cons]
  cases f x with
  | none => exact Option.or_none.symm
  | some y => rw [List.getLast?_cons, Option.or_some]

/-- Of the answers for a file the last failure is recorded, or what was recorded before if there is none. -/
theorem failed_afterAll {requests : List Request} (within : ∀ request ∈ requests, request.StaysInRun)
    (clean : ∀ file src, .analyze file src ∈ requests → a.setup.RaisesCleanly file src) (path : String) :
    (a.afterAll requests).run.failed.get? path =
      ((a.answers requests).filterMap (recordedOf path)).getLast?.or (a.run.failed.get? path) := by
  induction requests generalizing a with
  | nil => rfl
  | cons request requests ih =>
    obtain ⟨stays, within⟩ := List.forall_mem_cons.mp within
    have later : ∀ file src, .analyze file src ∈ requests → (a.after request).setup.RaisesCleanly file src := by
      intro file src mem
      rw [a.after_setup request]
      exact clean file src (List.mem_cons_of_mem _ mem)
    rw [afterAll, List.foldl_cons, ← afterAll, ih within later]
    cases request with
    | analyze file src =>
      rw [answers, getLast?_filterMap_cons, Option.or_assoc, ← failed_analyze (clean file src List.mem_cons_self)]
      rfl
    | analyzeRepository | reset => cases stays
    | graph | search | relationsOf | dependenciesOf => rfl

theorem recordedOf_eq_some_iff {answer : String × Except AnalysisError FileResult} {reason : String} :
    recordedOf file answer = some reason ↔
      ∃ result error, answer = (file, .ok result) ∧ result.outcome = .error error ∧ Run.reason error = reason := by
  obtain ⟨path, outcome⟩ := answer
  cases outcome with
  | error e => simp [recordedOf]
  | ok result =>
    obtain ⟨own, outcome⟩ := result
    cases outcome <;> simp [recordedOf, Run.recorded]

variable {answers : List (String × Except AnalysisError FileResult)}

/-- Nothing is recorded of answers without a failure. -/
theorem recordedOf_eq_nil (succeeded : ∀ result, (file, .ok result) ∈ answers → result.succeeded = true) :
    answers.filterMap (recordedOf file) = [] := by
  refine List.filterMap_eq_nil_iff.mpr fun answer mem => Option.eq_none_iff_forall_ne_some.mpr fun reason recorded => ?_
  obtain ⟨result, error, rfl, failed, -⟩ := recordedOf_eq_some_iff.mp recorded
  have contrary := succeeded result mem
  rw [FileResult.succeeded, failed] at contrary
  cases contrary

theorem isSome_getLast?_recordedOf : ((answers.filterMap (recordedOf file)).getLast?).isSome = true ↔
    ∃ result, (file, .ok result) ∈ answers ∧ result.succeeded = false := by
  rw [List.getLast?_isSome]
  constructor
  · intro some
    by_contra none
    refine some (recordedOf_eq_nil fun result mem => ?_)
    cases succeeded : result.succeeded with
    | true => rfl
    | false => exact absurd ⟨result, mem, succeeded⟩ none
  · rintro ⟨result, mem, failed⟩
    cases outcome : result.outcome with
    | ok found =>
      rw [FileResult.succeeded, outcome] at failed
      cases failed
    | error error =>
      have recorded : recordedOf file (file, .ok result) = some (Run.reason error) :=
        recordedOf_eq_some_iff.mpr ⟨result, error, rfl, outcome, rfl⟩
      exact List.ne_nil_of_mem (List.mem_filterMap.mpr ⟨_, mem, recorded⟩)

/-- As long as a run lasts, and no analysis raises an error after its result was merged, a file is listed as failed exactly if
it was before or one of its analyses gave a failure. The reason is that of the last failure, whatever succeeds after it. -/
theorem failures_recorded {requests : List Request} (within : ∀ request ∈ requests, request.StaysInRun)
    (clean : ∀ file src, .analyze file src ∈ requests → a.setup.RaisesCleanly file src) (file : String) :
    let answers := a.answers requests
    let failed := (a.afterAll requests).run.failed
    (file ∈ failed.keys ↔
      file ∈ a.run.failed.keys ∨ ∃ result, (file, .ok result) ∈ answers ∧ result.succeeded = false) ∧
    (∀ front result back error, answers = front ++ (file, .ok result) :: back → result.outcome = .error error →
      (∀ later, (file, .ok later) ∈ back → later.succeeded = true) →
      failed.get? file = some (if error = "" then "unknown error" else error)) ∧
    ((∀ result, (file, .ok result) ∈ answers → result.succeeded = true) →
      failed.get? file = a.run.failed.get? file) := by
  intro answers failed
  have recorded := failed_afterAll within clean file
  refine ⟨?_, fun front result back error split failure later => ?_, fun succeeded => ?_⟩
  · rw [← Table.contains_iff, ← Table.contains_iff, Table.contains, recorded, Option.isSome_or, Bool.or_eq_true,
      isSome_getLast?_recordedOf, Table.contains]
    exact or_comm
  · have last : recordedOf file (file, .ok result) = some (Run.reason error) :=
      recordedOf_eq_some_iff.mpr ⟨result, error, rfl, failure, rfl⟩
    calc failed.get? file
        = (((front ++ (file, .ok result) :: back).filterMap (recordedOf file)).getLast?).or (a.run.failed.get? file) :=
          split ▸ recorded
      _ = some (Run.reason error) := by
          rw [List.filterMap_append, List.getLast?_append, getLast?_filterMap_cons, recordedOf_eq_nil later, last]
          rfl
  · exact recorded.trans (by rw [recordedOf_eq_nil succeeded]; rfl)

end Analyzer

namespace Sample

/-- A file that its parser gives no tree for. -/
def unparsed : SourceFile := ⟨"class A", none⟩

/-- A file fails, the graph is asked for, a file without a path is refused, and the first file succeeds. -/
def mended : List Analyzer.Request :=
  [.analyze "a.py" unparsed, .graph, .analyze "" classFile, .analyze "a.py" classFile]

theorem answers_mended : ∃ failure success,
    analyzer.answers mended = [("a.py", .ok failure), ("", .error .emptyPath), ("a.py", .ok success)] ∧
      failure.outcome = .error "no tree" ∧ success.succeeded = true := by
  have first : (analyzer.analyze "a.py" unparsed).2.map (·.outcome.error?) = .ok (some "no tree") := by decide +kernel
  have last : ((analyzer.afterAll (mended.take 3)).analyze "a.py" classFile).2.map (·.succeeded) = .ok true := by
    decide +kernel
  obtain ⟨failure, failed, reason⟩ := Except.map_eq_ok_iff.mp first
  obtain ⟨success, mended, succeeded⟩ := Except.map_eq_ok_iff.mp last
  refine ⟨failure, success, ?_, Except.error?_eq_some_iff.mp reason, succeeded⟩
  rw [← failed, ← mended]
  rfl

end Sample

/-- The first failure of the small history is recorded to the end, and the refused call leaves no trace. -/
theorem sample_failures_recorded :
    (∀ request ∈ Sample.mended, request.StaysInRun) ∧
      (∀ file src, .analyze file src ∈ Sample.mended → Sample.analyzer.setup.RaisesCleanly file src) ∧
      (Sample.analyzer.afterAll Sample.mended).run.failed.get? "a.py" = some "no tree" ∧
      "" ∉ (Sample.analyzer.afterAll Sample.mended).run.failed.keys := by
  have within : ∀ request ∈ Sample.mended, request.StaysInRun := by
    simp [Sample.mended, Analyzer.Request.StaysInRun]
  have clean : ∀ file src, .analyze file src ∈ Sample.mended → Sample.analyzer.setup.RaisesCleanly file src := by
    intro file src _
    have total : (Sample.setup.resolver Sample.setup.known).IsTotal := Resolver.ofKnown_total _ _ _ _
    exact Setup.raisesCleanly_of_extract (Dependency.extract_succeeds Bundled.registry_sound total file src.text)
  obtain ⟨failure, success, answers, failed, succeeded⟩ := Sample.answers_mended
  refine ⟨within, clean, ?_, ?_⟩
  · refine (Analyzer.failures_recorded within clean "a.py").2.1 [] failure _ _ answers failed fun later mem => ?_
    obtain rfl : later = success := by simpa using mem
    exact succeeded
  · rw [(Analyzer.failures_recorded within clean "").1, answers]
    simp [Sample.analyzer, Run.new, Table.keys, Table.empty]

/-- A file is listed as failed although it was analyzed with success in the end. -/
theorem sample_failureKept : ∃ failure success,
    Sample.analyzer.answers Sample.mended = [("a.py", .ok failure), ("", .error .emptyPath), ("a.py", .ok success)] ∧
      success.succeeded = true ∧ (Sample.analyzer.afterAll Sample.mended).run.failed.keys = ["a.py"] := by
  obtain ⟨failure, success, answers, -, succeeded⟩ := Sample.answers_mended
  exact ⟨failure, success, answers, succeeded, by decide +kernel⟩

end CodeAtlas
