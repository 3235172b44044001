import CodeAtlas.Proofs.Analyzer.Incremental

/-!
# Files in another order

The order in which a file map lists its files has no influence on what a repository gives (`analyzeRepository_reordered`).
The files that imports may reach are asked for by membership (`ofKnown_congr`), the dependency map says the same of every
file (`Dependency.mapOf_congr`), so the files are put into the same order (`DependencyMap.order_congr`), and from there on
a file map is only looked up (`visitAll_congr`). The same holds of the order in which workers take up files.
-/

namespace CodeAtlas

/-- Which of the known files comes first does not matter. -/
theorem Resolver.ofKnown_congr (root : String) {known known' : List String} (same : ∀ file, file ∈ known ↔ file ∈ known')
    (aliases : Option (Table String String)) (extensions : List String) :
    ofKnown root known aliases extensions = ofKnown root known' aliases extensions := by
  have contains : ∀ path, (known.map Path.tidy).contains path = (known'.map Path.tidy).contains path := by
    intro path
    rw [Bool.eq_iff_iff, List.contains_iff_mem, List.contains_iff_mem, List.mem_map, List.mem_map]
    exact exists_congr fun file => and_congr_left' (same file)
  unfold ofKnown
  simp only [contains]

/-! ## Visits -/

namespace Setup

/-- The setups differ at most in the order in which workers take up files. -/
def DiffersInSchedule (s s' : Setup) : Prop := s' = { s with schedule := s'.schedule }

variable {s s' : Setup} {r : Resolver} {files files' : Table String SourceFile}

theorem visit_congr (same : s.DiffersInSchedule s') : s'.visit = s.visit := by
  rw [same]
  rfl

theorem visitNext_congr (same : s.DiffersInSchedule s') : s'.visitNext = s.visitNext := by
  rw [same]
  rfl

/-- Visits one after another look up a file map and nothing else. -/
theorem visitInTurn_congr (same : s.DiffersInSchedule s') (sources : ∀ file, files.get? file = files'.get? file)
    (deadline : Deadline) (k : Nat) (run : Run) (order : List String) :
    s'.visitInTurn r files' deadline k run order = s.visitInTurn r files deadline k run order := by
  induction order generalizing k run with
  | nil => rfl
  | cons file order ih => simp only [visitInTurn, visitNext_congr same, sources, ih]

/-- Workers that take up every file look up a file map and nothing else. -/
theorem visitByWorkers_congr (same : s.DiffersInSchedule s') (taken : ∀ order, (s.schedule order).Perm order)
    (taken' : ∀ order, (s'.schedule order).Perm order) (sources : ∀ file, files.get? file = files'.get? file) (run : Run)
    (order : List String) : s'.visitByWorkers r files' .never run order = s.visitByWorkers r files .never run order := by
  have visits : s'.visitNumbered r files' run order = s.visitNumbered r files run order := by
    funext file
    simp only [visitNumbered, visit_congr same, sourceIn, sources]
  rw [visitByWorkers_eq taken, visitByWorkers_eq taken', visits]

/-- However the files are visited, a file map is only looked up. -/
theorem visitAll_congr (same : s.DiffersInSchedule s') (fair : s.IsFair) (fair' : s'.IsFair)
    (sources : ∀ file, files.get? file = files'.get? file) (run : Run) (order : List String) :
    s'.visitAll r files' .never run order = s.visitAll r files .never run order := by
  have workers : s'.workers = s.workers := by rw [same]
  unfold visitAll
  rw [workers]
  split
  · rename_i several
    exact visitByWorkers_congr same (fair several) (fair' (workers ▸ several)) sources run order
  · exact visitInTurn_congr same sources .never 1 run order

/-- The files that imports may reach do not depend on the order of the file map. -/
theorem resolver_congr (same : s.DiffersInSchedule s') (sources : ∀ file, files.get? file = files'.get? file) :
    s'.resolver (some (s'.known.getD files'.keys)) = s.resolver (some (s.known.getD files.keys)) := by
  have known : s'.known = s.known := by rw [same]
  have resolver : s'.resolver = s.resolver := by rw [same]; rfl
  rw [known, resolver]
  refine Resolver.ofKnown_congr _ (fun file => ?_) _ _
  cases s.known with
  | none => exact (Table.mem_keys_congr sources).symm
  | some known => rfl

end Setup

/-! ## Whole runs -/

/-- Both reports say the same; only the order in which they list the entries of files may differ. -/
structure Report.Agrees (x y : Report) : Prop where
  graph : y.graph = x.graph
  order : y.order = x.order
  failed : y.failed = x.failed
  dependencies : ∀ file, y.dependencies.get? file = x.dependencies.get? file

namespace Analyzer

variable {a b : Analyzer} {files files' : Table String SourceFile}

/-- Both analyzers complete the same run, fail alike, or find imports that cannot be read. -/
theorem completeRun_congr (same : a.setup.DiffersInSchedule b.setup) (fair : a.setup.IsFair) (fair' : b.setup.IsFair)
    (sources : ∀ file, files.get? file = files'.get? file) (runId : String) :
    Except.Related (fun x y => y.1 = x.1 ∧ y.2.2 = x.2.2 ∧ ∀ file, y.2.1.get? file = x.2.1.get? file)
        (a.completeRun runId files .never) (b.completeRun runId files' .never) ∨
      ∃ e e', a.completeRun runId files .never = .error (.scan e) ∧
        b.completeRun runId files' .never = .error (.scan e') := by
  have registry : b.setup.registry = a.setup.registry := by rw [same]
  unfold completeRun
  dsimp only
  rw [Setup.resolver_congr same sources, registry]
  generalize a.setup.resolver (some (a.setup.known.getD files.keys)) = r
  rcases Dependency.mapOf_congr a.setup.registry r sources with
    ⟨m, m', mapped, mapped', agree⟩ | ⟨e, e', mapped, mapped'⟩
  · refine Or.inl ?_
    rw [mapped, mapped']
    refine Except.Related.bind (R := fun m m' => ∀ file, m.get? file = m'.get? file) (.ok agree) fun m m' agree => ?_
    rw [← DependencyMap.order_congr agree]
    refine Except.Related.bind (R := Eq) (.of_eq fun _ _ => rfl) fun _ _ _ => ?_
    rw [Setup.visitAll_congr same fair fair' sources]
    refine Except.Related.bind (R := Eq) (.of_eq fun _ _ => rfl) ?_
    rintro x _ rfl
    exact .ok ⟨rfl, rfl, fun file => (agree file).symm⟩
  · -- the imports are read in the order of the file map, so the two errors may be about different files
    refine Or.inr ⟨e, e', ?_, ?_⟩
    · rw [mapped]
      rfl
    · rw [mapped']
      rfl

/-- Without a deadline, a repository gives the same report for its files in whatever order they are listed and in whatever
order workers take them up: the same graph, with its ids, nodes and edges in the same order, the same order of files, the
same failed files and the same dependencies of every file. If there is no report, both analyses fail alike, or both find
imports that cannot be read, though maybe of different files. -/
theorem analyzeRepository_reordered (same : a.setup.DiffersInSchedule b.setup) (fair : a.setup.IsFair)
    (fair' : b.setup.IsFair) (runId : String) (reordered : files.entries.Perm files'.entries) :
    Except.Related Report.Agrees (a.analyzeRepository runId files .never).2 (b.analyzeRepository runId files' .never).2 ∨
      ∃ e e', (a.analyzeRepository runId files .never).2 = .error (.scan e) ∧
        (b.analyzeRepository runId files' .never).2 = .error (.scan e') := by
  have sources : ∀ file, files.get? file = files'.get? file := Table.get?_perm reordered
  unfold analyzeRepository
  rcases completeRun_congr same fair fair' sources runId with runs | ⟨e, e', failed, failed'⟩
  · refine Or.inl ?_
    generalize a.completeRun runId files .never = x at *
    generalize b.completeRun runId files' .never = y at *
    cases runs with
    | error e => exact .error e
    | ok related =>
      obtain ⟨run, order, dependencies⟩ := related
      exact .ok ⟨congrArg graphOf run, order, congrArg Run.failed run, dependencies⟩
  · refine Or.inr ⟨e, e', ?_, ?_⟩
    · rw [failed]
    · rw [failed']

end Analyzer

/-! ## The small repository in another order -/

namespace Sample

/-- The files of the small repository, the last one first. -/
def reversedFiles : Table String SourceFile :=
  .ofList [("b.py", importFile), ("a.py", classFile), ("README", ⟨"", none⟩)]

/-- An analyzer with two workers, the first file first. -/
def eager : Analyzer := { pooled with setup := { pooled.setup with schedule := id } }

theorem reversed_files : files.entries.Perm reversedFiles.entries := (List.reverse_perm files.entries).symm

/-- Two workers report on the small repository. -/
theorem report_pooled : (pooled.analyzeRepository "run" files .never).2.Succeeds := by
  have visits : (pooled.setup.visitAll (setup.resolver setup.known) files .never (.new "run")
      ["README", "a.py", "b.py"]).isOk = true := by
    decide +kernel
  obtain ⟨⟨results, run⟩, visited, -⟩ := Except.Gives.of_isOk visits
  rw [← order_dependencies] at visited
  exact ⟨_, congrArg Prod.snd (Analyzer.analyzeRepository_eq (a := pooled) mapOf_files visited), trivial⟩

end Sample

/-- Two workers give the same report on the small repository in both orders. -/
theorem sample_reordered : Sample.files.keys ≠ Sample.reversedFiles.keys ∧ ∃ report report',
    (Sample.pooled.analyzeRepository "run" Sample.files .never).2 = .ok report ∧
      (Sample.eager.analyzeRepository "run" Sample.reversedFiles .never).2 = .ok report' ∧ report.Agrees report' := by
  have fair : Sample.pooled.setup.IsFair := fun _ order => List.reverse_perm order
  have fair' : Sample.eager.setup.IsFair := fun _ order => .refl order
  obtain ⟨report, reported, -⟩ := Sample.report_pooled
  refine ⟨by decide, report, ?_⟩
  have agrees := Analyzer.analyzeRepository_reordered (b := Sample.eager) rfl fair fair' "run" Sample.reversed_files
  rw [reported] at agrees
  rcases agrees with agrees | ⟨e, e', failed, -⟩
  · obtain ⟨report', reported', agrees⟩ := agrees.ok_left
    exact ⟨report', reported, reported', agrees⟩
  · cases failed

end CodeAtlas
