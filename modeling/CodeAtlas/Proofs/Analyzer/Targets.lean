import CodeAtlas.Proofs.Analyzer.Accounting
import CodeAtlas.Proofs.Workspace.Sources

/-!
# The files that a run points at

Paths come into the results of a run on two ways: imports are found in the texts of files, for the dependency map, and again
in their trees, for the names that they bind. On both ways a path is given by a resolver, which gives only files that it
knows (`Dependency.extract_areDependencies`, `Visit.walkTree_leads`). When a repository is analyzed and no other files are
given, these are the files of the repository; so nothing in a run points outside (`PointsInside`, `targets_known`). A tool
works in this way with the files that it has collected (`Tool.analyze_pointsInside`).
-/

namespace CodeAtlas

/-- Every path that the bindings and the references lead to has the property. -/
structure Lead (P : String → Prop) (bindings : List Binding) (references : List Reference) : Prop where
  bindings : ∀ b ∈ bindings, ∀ path, b.modulePath = some path → P path
  references : ∀ ref ∈ references, ∀ path, ref.modulePath = some path → P path

namespace Lead

variable {P : String → Prop} {bindings bindings' : List Binding} {references references' : List Reference}

theorem nil : Lead P [] [] := ⟨fun _ mem => absurd mem List.not_mem_nil, fun _ mem => absurd mem List.not_mem_nil⟩

theorem append (h : Lead P bindings references) (h' : Lead P bindings' references') :
    Lead P (bindings ++ bindings') (references ++ references') :=
  ⟨List.forall_mem_append.mpr ⟨h.bindings, h'.bindings⟩, List.forall_mem_append.mpr ⟨h.references, h'.references⟩⟩

theorem of_subset (h : Lead P bindings references) (fewer : bindings' ⊆ bindings) (fewer' : references' ⊆ references) :
    Lead P bindings' references' :=
  ⟨fun b mem => h.bindings b (fewer mem), fun ref mem => h.references ref (fewer' mem)⟩

theorem mono {Q : String → Prop} (h : Lead P bindings references) (imp : ∀ path, P path → Q path) :
    Lead Q bindings references :=
  ⟨fun b mem path given => imp path (h.bindings b mem path given),
    fun ref mem path given => imp path (h.references ref mem path given)⟩

end Lead

/-! ## Visits -/

namespace Visit

variable {s : Subject} {P : String → Prop}

/-- The files that imports of a visit may lead to. -/
def Subject.Reaches (s : Subject) (path : String) : Prop := ∃ r, s.resolver = some r ∧ r.isFile path = .ok true

theorem reaches_of_moduleFile {module path : String} (h : moduleFile s module = .ok (some path)) : s.Reaches path := by
  unfold moduleFile at h
  split at h
  · cases h
  · rename_i r resolver
    split at h
    · exact ⟨r, resolver, Resolver.isFile_of_firstFile h⟩
    · exact ⟨r, resolver, Resolver.isFile_of_firstFile h⟩

theorem reaches_of_memberFile {module name path : String} (h : memberFile s module name = .ok (some path)) :
    s.Reaches path := by
  unfold memberFile at h
  split at h
  · cases h
  · rename_i r resolver
    split at h
    · exact ⟨r, resolver, Resolver.isFile_of_firstFile h⟩
    · cases h

/-- All imports that were found so far lead to paths that have the property. -/
def State.Leads (st : State) (P : String → Prop) : Prop := Lead P st.findings.bindings.values st.findings.references

/-- A reference that leads nowhere, or to a path that has the property. -/
theorem State.Leads.addReference {st : State} (h : st.Leads P) {r : Reference}
    (target : ∀ path, r.modulePath = some path → P path) : (st.addReference r).Leads P := by
  refine ⟨?_, fun ref mem => ?_⟩
  · rw [State.addReference_bindings]
    exact h.bindings
  · rcases State.mem_addReference st mem with mem | rfl
    · exact h.references ref mem
    · exact target

theorem State.Leads.refer {st : State} (h : st.Leads P) (e : Element) (kind : RelationKind) (name : String) :
    (refer s e kind st name).Leads P :=
  h.addReference nofun

theorem State.Leads.bind {st : State} (h : st.Leads P) {b : Binding} (target : ∀ path, b.modulePath = some path → P path) :
    (st.bind b).Leads P := by
  refine ⟨fun b' mem => ?_, h.references⟩
  rcases Table.mem_values_put mem with mem | rfl
  · exact h.bindings b' mem
  · exact target

/-- After every change of a visit, its imports lead to files if they did so before. -/
theorem change_leads {m m' : Moment} (h : m.state.Leads s.Reaches) (change : Change s m m') : m'.state.Leads s.Reaches := by
  cases change with
  | declare scope st n kind name =>
    refine ⟨?_, ?_⟩
    · rw [declare_bindings]
      exact h.bindings
    · rw [declare_references]
      exact h.references
  | inherit | mention => exact h.refer _ _ _
  | @bind scope st e module imported path member bound known imports found foundMember =>
    have target : ∀ file, member.or path = some file → s.Reaches file := by
      intro file given
      rcases Option.or_eq_some_iff.mp given with rfl | ⟨-, rfl⟩
      · exact reaches_of_memberFile foundMember
      · exact reaches_of_moduleFile found
    exact (h.bind target).addReference target
  | enter | leave => exact h

/-- The imports that are found in a tree lead to files. -/
theorem walkTree_leads {root : Node} {found : Findings} (h : walkTree s root = .ok found) :
    Lead s.Reaches found.bindings.values found.references := by
  obtain ⟨m, leads, rfl⟩ := walkTree_invariant (P := fun m => m.state.Leads s.Reaches) Lead.nil (fun _ _ => change_leads) h
  exact leads

end Visit

/-! ## Runs -/

namespace Run

/-- The names that imports bind, of all files. -/
def allBindings (run : Run) : List Binding := run.bindings.values.flatMap (·.values)

/-- All imports of the run lead to paths that have the property. -/
def Leads (run : Run) (P : String → Prop) : Prop := Lead P run.allBindings run.references

variable {P : String → Prop}

theorem Leads.merge {run : Run} {result : FileResult} (h : run.Leads P)
    (found : ∀ found, result.outcome = .ok found → Lead P found.bindings.values found.references) :
    (run.merge result).Leads P := by
  unfold Run.merge
  cases outcome : result.outcome with
  | error e => exact h
  | ok findings =>
    refine (h.append (found findings outcome)).of_subset (fun b mem => ?_) (fun _ mem => mem)
    obtain ⟨names, file, mem⟩ := List.mem_flatMap.mp mem
    rw [List.mem_append]
    rcases Table.mem_values_put file with file | rfl
    · exact Or.inl (List.mem_flatMap.mpr ⟨names, file, mem⟩)
    · -- the names of a file that was merged before are kept, and its new names added
      rcases Table.mem_values_putAll mem with mem | mem
      · refine Or.inl ?_
        cases before : run.bindings.get? result.file with
        | none =>
          rw [before] at mem
          exact absurd mem List.not_mem_nil
        | some old =>
          rw [before] at mem
          exact List.mem_flatMap.mpr ⟨old, List.mem_map_of_mem (Table.mem_of_get? before), mem⟩
      · exact Or.inr mem

theorem Leads.mergeAll {results : List FileResult} {run : Run} (h : run.Leads P)
    (found : ∀ result ∈ results, ∀ found, result.outcome = .ok found → Lead P found.bindings.values found.references) :
    (results.foldl Run.merge run).Leads P := by
  induction results generalizing run with
  | nil => exact h
  | cons result results ih =>
    obtain ⟨first, rest⟩ := List.forall_mem_cons.mp found
    exact ih (h.merge first) rest

end Run

/-- The imports that visits with a resolver find lead to files that it knows. -/
theorem Setup.visit_leads {s : Setup} {r : Resolver} {runId : String} {ordinal : Nat} {file : String} {src : SourceFile}
    {result : FileResult} (h : s.visit r runId ordinal file src = .ok result) {found : Findings}
    (ok : result.outcome = .ok found) :
    Lead (fun path => r.isFile path = .ok true) found.bindings.values found.references := by
  obtain ⟨p, root, walked⟩ := visit_walked h ok
  refine (Visit.walkTree_leads walked).mono ?_
  rintro path ⟨_, resolver, isFile⟩
  rwa [Option.some.inj resolver]

/-! ## Repositories -/

/-- All paths in a run and its dependency map are among the files. -/
structure PointsInside (files : List String) (run : Run) (dependencies : DependencyMap) : Prop where
  /-- A file depends on files, each once, and not on itself. -/
  dependencies : ∀ file entry, (file, entry) ∈ dependencies.entries → entry.file = file ∧
    entry.dependencies ⊆ files ∧ entry.dependencies.Nodup ∧ file ∉ entry.dependencies
  bindings : ∀ binding ∈ run.allBindings, ∀ path, binding.modulePath = some path → path ∈ files
  references : ∀ ref ∈ run.references, ∀ path, ref.modulePath = some path → path ∈ files

namespace Analyzer

variable {a : Analyzer} {runId : String} {files : Table String SourceFile} {deadline : Deadline}

/-- If the files of a repository have tidy paths, a resolver that knows them knows no other paths. -/
theorem mem_keys_of_isFile (tidy : ∀ file ∈ files.keys, Path.IsTidy file) {path : String}
    (isFile : (a.setup.resolver (some files.keys)).isFile path = .ok true) : path ∈ files.keys := by
  obtain ⟨file, listed, rfl⟩ := List.mem_map.mp (Resolver.isFile_ofKnown.mp isFile)
  rw [(tidy file listed).1]
  exact listed

/-- A completed run points at no path but those of its repository. -/
theorem completeRun_pointsInside (all : a.setup.known = none) (tidy : ∀ file ∈ files.keys, Path.IsTidy file) {run : Run}
    {dependencies : DependencyMap} {order : List String}
    (h : a.completeRun runId files deadline = .ok (run, dependencies, order)) :
    PointsInside files.keys run dependencies := by
  obtain ⟨mapped, -, results, run', visited, rfl⟩ := completeRun_ok h
  obtain ⟨visits, next, rfl⟩ := Setup.visitAll_ok visited
  rw [all] at mapped visits
  have leads : (results.foldl Run.merge ((Run.new runId).numbered next)).Leads (· ∈ files.keys) := by
    refine Run.Leads.mergeAll Lead.nil fun result mem found ok => ?_
    obtain ⟨file, -, ordinal, visit⟩ := visits.exists_of_mem_right (List.mem_map_of_mem mem)
    exact (Setup.visit_leads visit ok).mono fun _ => mem_keys_of_isFile tidy
  refine ⟨fun file entry mem => ?_, leads.bindings, leads.references⟩
  obtain ⟨found, extracts, rfl⟩ := Dependency.mapOf_eq_ok_iff.mp mapped
  have get := Table.get?_of_mem mem
  rw [Dependency.get?_putEntries, Table.get?_empty] at get
  split at get
  · rename_i listed
    obtain rfl := Option.some.inj get
    have extracted := Dependency.extract_areDependencies (extracts file listed)
    rw [Dependency.relativeFile_of_isTidy _ (tidy file listed)] at extracted
    exact ⟨rfl, fun path mem => mem_keys_of_isFile tidy (extracted.files path mem), extracted.distinct, extracted.others⟩
  · cases get

end Analyzer

/-- When the files of a repository are given by tidy relative paths and no others are given that imports may reach, all
paths in the run are files of the repository: the dependencies of each file, what the names lead to that imports bind, and
what references lead to. A file depends on no file twice, and not on itself. -/
theorem targets_known {a b : Analyzer} {runId : String} {files : Table String SourceFile} {deadline : Deadline}
    {report : Report} (all : a.setup.known = none) (tidy : ∀ file ∈ files.keys, Path.IsTidy file)
    (h : a.analyzeRepository runId files deadline = (b, .ok report)) :
    PointsInside files.keys b.run report.dependencies := by
  obtain ⟨completed, rfl, -⟩ := Analyzer.completeRun_of_reported h
  exact Analyzer.completeRun_pointsInside all tidy completed

/-- An analyzer of the small repository that is given no files but those of the repository. -/
def Sample.unguided : Analyzer := { pooled with setup := { pooled.setup with known := none } }

/-- In the small repository one file depends on another, and all paths are files of the repository. -/
theorem sample_targets_known : ∃ b report, Sample.unguided.analyzeRepository "run" Sample.files .never = (b, .ok report) ∧
    report.dependencies.get? "b.py" = some ⟨"b.py", ["a.py"]⟩ ∧
    PointsInside Sample.files.keys b.run report.dependencies := by
  have fair : Sample.unguided.setup.IsFair := fun _ order => List.reverse_perm order
  have tidy : ∀ file ∈ Sample.files.keys, Path.tidy file = file ∧ (Path.parse file).isAbsolute = false := by decide +kernel
  obtain ⟨report, reported, -⟩ :=
    Analyzer.analyzeRepository_succeeds (a := Sample.unguided) Bundled.registry_sound fair "run" Sample.files (by decide)
  generalize analyzed : Sample.unguided.analyzeRepository "run" Sample.files .never = pair at reported ⊢
  obtain ⟨b, outcome⟩ := pair
  obtain rfl : outcome = .ok report := reported
  obtain ⟨completed, about, -⟩ := Analyzer.completeRun_of_reported analyzed
  obtain ⟨mapped, -⟩ := Analyzer.completeRun_ok completed
  have dependencies : Dependency.mapOf Bundled.registry (Sample.unguided.setup.resolver (some Sample.files.keys))
      (Sample.files.mapValues fun _ src => src.text) = .ok Sample.dependencies := by decide +kernel
  have entry : Sample.dependencies.get? "b.py" = some ⟨"b.py", ["a.py"]⟩ := by decide +kernel
  have same : Sample.dependencies = b.dependencies := Except.ok.inj (dependencies.symm.trans mapped)
  refine ⟨b, report, rfl, ?_, targets_known rfl tidy analyzed⟩
  rw [about, ← same]
  exact entry

/-- What a tool has analyzed points at no path but those of the files that it has collected. -/
theorem Tool.analyze_pointsInside {t t' : Tool} {s : Surroundings} {runId : String} {r : Request}
    {clock : Binary64 → Deadline} {fields : List (String × Document)} (segments : s.workspace.HasSegments)
    (h : t.analyze s runId r clock = (t', .done fields)) :
    ∃ files c, s.workspace.collect t.registry r.directory r.selection = .ok files ∧ t'.current = some c ∧
      PointsInside files.keys c.analyzer.run c.analyzer.dependencies := by
  obtain ⟨files, c, report, attempted, current, -⟩ := analyze_done h
  obtain ⟨collected, start, deadline, fresh, reported⟩ := attempt_ok attempted
  obtain ⟨completed, -⟩ := Analyzer.completeRun_of_reported reported
  have all : start.setup.known = none := by
    rw [Analyzer.eq_of_new fresh]
    rfl
  have tidy : ∀ file ∈ (s.sources files).keys, Path.IsTidy file := by
    rw [Surroundings.keys_sources]
    exact Workspace.collect_tidy segments collected
  have inside := Analyzer.completeRun_pointsInside all tidy completed
  rw [Surroundings.keys_sources] at inside
  exact ⟨files, c, collected, current, inside⟩

end CodeAtlas
