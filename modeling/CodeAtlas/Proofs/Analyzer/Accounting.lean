import CodeAtlas.Proofs.Analyzer.Consistency
import CodeAtlas.Proofs.Run.Merging
import CodeAtlas.Proofs.Tool.History

/-!
# What became of the files

A report accounts for every file of its repository. Each was visited once, in the order of the report, with success or
without: the files that succeeded are listed in this order, the others have a reason (`completeRun_results`). The nodes of
the graph are the elements that successful visits found, visit by visit, and every element names the file in which it was
found (`Setup.visit_elements`). So a file that failed has no node (`Accounts`).

A tool does not count the files that succeeded; it takes the failures off the number of files, which comes to the same
(`files_accounted`).
-/

namespace CodeAtlas

/-- The elements that are found in a tree name the file of the tree. -/
theorem Visit.walkTree_file {s : Subject} {root : Node} {found : Findings} (h : walkTree s root = .ok found) :
    ∀ e ∈ found.elements, e.file = s.file := by
  obtain ⟨m, own, rfl⟩ := walkTree_invariant (Moment.InFile.start s) (fun _ _ => Moment.InFile.change) h
  exact own

/-- The elements that a visit finds name the visited file. -/
theorem Setup.visit_elements {s : Setup} {r : Resolver} {runId : String} {ordinal : Nat} {file : String} {src : SourceFile}
    {result : FileResult} (h : s.visit r runId ordinal file src = .ok result) :
    ∀ e ∈ result.findings.elements, e.file = result.file := by
  rw [visit_file h]
  unfold FileResult.findings
  cases outcome : result.outcome with
  | error e => exact fun _ mem => absurd mem List.not_mem_nil
  | ok found =>
    obtain ⟨p, root, walked⟩ := visit_walked h outcome
    exact Visit.walkTree_file walked

/-! ## Reports -/

/-- How the results of visits account for files in a run and a report. -/
structure Accounts (files : List String) (run : Run) (report : Report) (results : List FileResult) : Prop where
  /-- There is one result for each file, in file order. -/
  order : results.map (·.file) = report.order
  /-- Every file succeeded or failed, once. -/
  once : (run.analyzed ++ run.failed.keys).Perm files
  /-- No file succeeded and failed. -/
  disjoint : run.analyzed.Disjoint run.failed.keys
  failed : report.failed = run.failed
  analyzed : run.analyzed = (results.filter (·.succeeded)).map (·.file)
  subsequence : run.analyzed.Sublist report.order
  /-- The nodes are the elements of the files that succeeded, in file order. -/
  nodes : report.graph.nodes = (results.filter (·.succeeded)).flatMap fun result => result.findings.elements.map Graph.nodeOf
  own : ∀ result ∈ results, ∀ e ∈ result.findings.elements, (Graph.nodeOf e).file = result.file
  /-- A file that failed has no node. -/
  owned : ∀ node ∈ report.graph.nodes, node.file ∈ run.analyzed ∧ node.file ∉ run.failed.keys

namespace Analyzer

variable {a b : Analyzer} {runId : String} {files : Table String SourceFile} {deadline : Deadline} {report : Report}

/-- The order of a completed run has every file of the repository once. -/
theorem order_perm_keys {run : Run} {dependencies : DependencyMap} {order : List String}
    (h : a.completeRun runId files deadline = .ok (run, dependencies, order)) : order.Perm files.keys := by
  obtain ⟨mapped, rfl, -⟩ := completeRun_ok h
  obtain ⟨found, -, rfl⟩ := Dependency.mapOf_eq_ok_iff.mp mapped
  refine (List.perm_ext_iff_of_nodup (DependencyMap.nodup_order _) files.distinct).mpr fun file => ?_
  rw [DependencyMap.mem_order, Dependency.mem_keys_putEntries]
  rfl

/-- A completed run holds the files, the elements and the failures of its results. -/
theorem completeRun_results {run : Run} {dependencies : DependencyMap} {order : List String}
    (h : a.completeRun runId files deadline = .ok (run, dependencies, order)) :
    ∃ results, a.setup.AreVisits (a.setup.resolver (some (a.setup.known.getD files.keys))) runId files order results ∧
      run.analyzed = (results.filter (·.succeeded)).map (·.file) ∧
      run.elements = (results.filter (·.succeeded)).flatMap (·.findings.elements) ∧
      run.failed.keys = (results.filter fun result => !result.succeeded).map (·.file) := by
  have listed : order.Nodup := (order_perm_keys h).nodup_iff.mpr files.distinct
  obtain ⟨-, -, results, run', visited, rfl⟩ := completeRun_ok h
  obtain ⟨visits, next, rfl⟩ := Setup.visitAll_ok visited
  have distinct : (((Run.new runId).numbered next).failed.keys ++ results.map (·.file)).Nodup := visits.files ▸ listed
  refine ⟨results, visits, ?_, ?_, ?_⟩
  · exact Run.mergeAll_analyzed results _
  · exact Run.mergeAll_elements results _
  · exact Run.mergeAll_failed distinct

/-- A report accounts for the files of its repository. -/
theorem accounts_of_reported (h : a.analyzeRepository runId files deadline = (b, .ok report)) :
    ∃ results, a.setup.AreVisits (a.setup.resolver (some (a.setup.known.getD files.keys))) runId files report.order results ∧
      Accounts files.keys b.run report results := by
  obtain ⟨completed, rfl, -⟩ := completeRun_of_reported h
  have listed : b.order.Perm files.keys := order_perm_keys completed
  obtain ⟨results, visits, analyzed, elements, failed⟩ := completeRun_results completed
  have order : results.map (·.file) = b.order := visits.files
  have own : ∀ result ∈ results, ∀ e ∈ result.findings.elements, (Graph.nodeOf e).file = result.file := by
    intro result mem
    obtain ⟨file, -, ordinal, visit⟩ := visits.exists_of_mem_right (List.mem_map_of_mem mem)
    exact Setup.visit_elements visit
  have once : (b.run.analyzed ++ b.run.failed.keys).Perm files.keys := by
    refine List.Perm.trans ?_ listed
    rw [analyzed, failed, ← order, ← List.map_append]
    exact (List.filter_append_perm (·.succeeded) results).map _
  have disjoint : b.run.analyzed.Disjoint b.run.failed.keys :=
    List.disjoint_of_nodup_append (once.nodup_iff.mpr files.distinct)
  have nodes : (graphOf b.run).nodes =
      (results.filter (·.succeeded)).flatMap fun result => result.findings.elements.map Graph.nodeOf := by
    rw [graphOf, Graph.build, elements, List.map_flatMap]
  refine ⟨results, visits, order, once, disjoint, rfl, analyzed, ?_, nodes, own, fun node mem => ?_⟩
  · rw [analyzed, ← order]
    exact List.filter_sublist.map _
  · rw [nodes] at mem
    obtain ⟨result, kept, mem⟩ := List.mem_flatMap.mp mem
    obtain ⟨e, found, rfl⟩ := List.mem_map.mp mem
    have succeeded : (Graph.nodeOf e).file ∈ b.run.analyzed := by
      rw [analyzed, own result (List.mem_of_mem_filter kept) e found]
      exact List.mem_map_of_mem kept
    exact ⟨succeeded, disjoint succeeded⟩

end Analyzer

/-- Taking off the failures leaves the number of files that succeeded. -/
theorem Accounts.count {files : List String} {run : Run} {report : Report} {results : List FileResult}
    (h : Accounts files run report results) : (files.length : Int) - report.failed.size = run.analyzed.length := by
  have lengths := h.once.length_eq
  have size : report.failed.size = run.failed.keys.length := by
    rw [h.failed, Table.size, Table.keys, List.length_map]
  rw [List.length_append] at lengths
  omega

/-- Every report accounts for all files of its repository, however they were visited; and a tool that was told to analyze a
directory tells how many of its files succeeded. -/
theorem files_accounted :
    (∀ (a b : Analyzer) (runId : String) (files : Table String SourceFile) (deadline : Deadline) (report : Report),
      a.analyzeRepository runId files deadline = (b, .ok report) →
        ∃ results, a.setup.AreVisits (a.setup.resolver (some (a.setup.known.getD files.keys))) runId files report.order
          results ∧ Accounts files.keys b.run report results) ∧
    ∀ (t t' : Tool) (s : Surroundings) (runId : String) (r : Request) (clock : Binary64 → Deadline)
      (fields : List (String × Document)), t.analyze s runId r clock = (t', .done fields) →
        ∃ c, t'.current = some c ∧ fields.lookup "files_analyzed" = some (.int c.analyzer.run.analyzed.length) := by
  refine ⟨fun a b runId files deadline report h => Analyzer.accounts_of_reported h, ?_⟩
  intro t t' s runId r clock fields h
  obtain ⟨files, c, report, attempted, current, rfl⟩ := Tool.analyze_done h
  obtain ⟨-, start, deadline, -, reported⟩ := Tool.attempt_ok attempted
  obtain ⟨results, -, accounts⟩ := Analyzer.accounts_of_reported reported
  have size : (s.sources files).keys.length = files.size := by
    rw [Surroundings.keys_sources, Table.keys, Table.size, List.length_map]
  refine ⟨c, current, congrArg (some ∘ Document.int) ?_⟩
  rw [← accounts.count, size]

namespace Sample

/-- A directory with the class, and with a file that its parser gives no tree for. -/
def directory : Surroundings where
  workspace := ⟨[], .ofList [(["repo", "a.py"], Text.encode classFile.text.toList), (["repo", "b.py"], [])], []⟩
  parser := fun path _ => if path = "a.py" then classFile.tree else none
  schedule := id

/-- A request to analyze it. -/
def request : Request := ⟨"/repo", ⟨[], true⟩, none⟩

/-- The files of the directory. -/
def texts : Table String String := .ofList [("a.py", classFile.text), ("b.py", "")]

theorem collect_directory :
    directory.workspace.collect Bundled.registry request.directory request.selection = .ok texts := by
  have place : directory.workspace.folder (Path.parse request.directory) = .ok (some ["repo"]) := by decide +kernel
  have sorted : (directory.workspace.filesBelow ["repo"]).mergeSort (fun a b => Path.precedes a.1 b.1) =
      directory.workspace.filesBelow ["repo"] := List.mergeSort_of_pairwise (by decide +kernel)
  have wanted : Workspace.wantedTexts Bundled.registry (directory.workspace.ignoreRules ["repo"]) []
      (directory.workspace.filesBelow ["repo"]) = .ok [("a.py", classFile.text), ("b.py", "")] := by decide +kernel
  unfold Workspace.collect
  rw [place]
  simp only [Except.mapError, bind, Except.bind]
  rw [sorted]
  exact congrArg (Except.map Table.ofList) wanted

/-- The directory can be analyzed. -/
theorem analyze_directory : ∃ t fields, (Tool.new Bundled.registry 1 none).analyze directory "run" request =
    (t, .done fields) := by
  have fair : (directory.setup Bundled.registry 1 request.directory).IsFair := fun several => absurd several (by decide)
  have analyzed : (directory.analyze Bundled.registry 1 request.directory "run" texts none).Succeeds := by
    refine .bind (P := fun start => start.setup.registry.IsSound ∧ start.setup.IsFair)
      (.ok ⟨Bundled.registry_sound, fair⟩) ?_
    intro start fits
    obtain ⟨report, reported, -⟩ :=
      Analyzer.analyzeRepository_succeeds fits.1 fits.2 "run" (directory.sources texts) (by decide)
    refine .bind (P := (· = .never)) (.ok rfl) ?_
    rintro _ rfl
    exact .bind (P := fun _ => True) ⟨report, reported, trivial⟩ fun _ _ => .ok trivial
  obtain ⟨⟨c, report⟩, analyzed, -⟩ := analyzed
  have attempted : (Tool.new Bundled.registry 1 none).attempt directory "run" request = .ok (texts, c, report) := by
    refine Except.bind_eq_ok_iff.mpr ⟨texts, Except.mapError_eq_ok_iff.mpr collect_directory, ?_⟩
    exact Except.bind_eq_ok_iff.mpr ⟨(c, report), Except.mapError_eq_ok_iff.mpr analyzed, rfl⟩
  unfold Tool.analyze
  rw [attempted]
  exact ⟨_, _, rfl⟩

end Sample

/-- Two workers account for the small repository, and a tool for a directory in which a file fails. -/
theorem sample_accounted :
    (∃ b report results, Sample.pooled.analyzeRepository "run" Sample.files .never = (b, .ok report) ∧
      Accounts Sample.files.keys b.run report results) ∧
    ∃ t fields c, (Tool.new Bundled.registry 1 none).analyze Sample.directory "run" Sample.request = (t, .done fields) ∧
      t.current = some c ∧ fields.lookup "files_analyzed" = some (.int c.analyzer.run.analyzed.length) := by
  have fair : Sample.pooled.setup.IsFair := fun _ order => List.reverse_perm order
  refine ⟨?_, ?_⟩
  · obtain ⟨report, reported, -⟩ :=
      Analyzer.analyzeRepository_succeeds (a := Sample.pooled) Bundled.registry_sound fair "run" Sample.files (by decide)
    generalize analyzed : Sample.pooled.analyzeRepository "run" Sample.files .never = pair at reported ⊢
    obtain ⟨b, outcome⟩ := pair
    obtain rfl : outcome = .ok report := reported
    obtain ⟨results, -, accounts⟩ := files_accounted.1 _ _ _ _ _ _ analyzed
    exact ⟨b, report, results, rfl, accounts⟩
  · obtain ⟨t, fields, analyzed⟩ := Sample.analyze_directory
    obtain ⟨c, current, counted⟩ := files_accounted.2 _ _ _ _ _ _ _ analyzed
    exact ⟨t, fields, c, analyzed, current, counted⟩

end CodeAtlas
