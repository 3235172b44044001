import CodeAtlas.Language.Settings
import CodeAtlas.Proofs.Analyzer.Visits
import CodeAtlas.Proofs.Graph.Edges
import CodeAtlas.Proofs.Language.Sound

/-!
# Files that cannot be analyzed

Analyzing one file may fail at two places. If the file cannot be visited, nothing has changed. If it was visited and its
imports cannot be extracted, the visit is merged already, and stays so, while the dependency map, the order and the graph
are as before (`analyze_error`). So a failure changes nothing if the settings by which imports are found are of the right
kind and no imported file fails to be looked up. A registry may have other settings: one whose pattern of imports has no
group is accepted, and every file with an import is half analyzed (`sample_halfAnalyzed`).
-/

namespace CodeAtlas

/-- A template that is ready for its parser was unwrapped. -/
theorem Visit.unwrap_succeeds {registry : Registry} {file text : String} (prepared : (prepare registry file text).Succeeds)
    {l : Language} (found : registry.languageOf file = some l) (template : l.isTemplate = true) :
    (l.unwrap text.toList).Succeeds := by
  obtain ⟨_, prepared, -⟩ := prepared
  obtain ⟨parsed, parses, -⟩ := Except.map_eq_ok_iff.mp prepared
  simp only [parsedAs, found, template, if_true] at parses
  obtain ⟨unwrapped, unwraps, -⟩ := Except.bind_eq_ok_iff.mp parses
  exact ⟨unwrapped, unwraps, trivial⟩

/-- A file that was visited was ready for its parser, or failed before. -/
theorem Setup.prepare_succeeds_of_visit {s : Setup} {r : Resolver} {runId : String} {ordinal : Nat} {file : String}
    {src : SourceFile} {result : FileResult} (visited : s.visit r runId ordinal file src = .ok result) :
    (Visit.prepare s.registry file src.text).Succeeds := by
  unfold visit at visited
  split at visited
  · cases visited
  · obtain ⟨prepared, prepares, -⟩ := Except.map_eq_ok_iff.mp visited
    exact ⟨prepared, Except.mapError_eq_ok_iff.mp prepares, trivial⟩

namespace Analyzer

variable {a : Analyzer} {file : String} {src : SourceFile} {e : AnalysisError}

/-- If the imports of a visited file can be read, then only looking up an imported file may fail. -/
theorem lookup_of_extract_error {result : FileResult} {fault : ScanError}
    (reads : ∀ l, a.setup.registry.languageOf file = some l → l.ReadsImports)
    (visited : a.setup.visit (a.setup.resolver a.setup.known) a.run.id a.run.nextOrdinal file src = .ok result)
    (failed : Dependency.extract a.setup.registry (a.setup.resolver a.setup.known) file src.text = .error fault) :
    ∃ error, fault = .lookup error := by
  have prepared := Setup.prepare_succeeds_of_visit visited
  obtain ⟨found, extracts, -⟩ := Dependency.extract_eq_mapError_of
    (fun l found => ⟨reads l found, Visit.unwrap_succeeds prepared found⟩) (a.setup.resolver a.setup.known)
  rw [extracts] at failed
  cases found with
  | error error => exact ⟨error, (Except.error.inj failed).symm⟩
  | ok files => cases failed

/-- A file that cannot be analyzed changes nothing, or its visit is merged and nothing else has changed; the latter only if
its imports cannot be extracted. It changes nothing if the settings by which imports are found are of the right kind and no
imported file fails to be looked up. -/
theorem analyze_error (raised : (a.analyze file src).2 = .error e) :
    ((a.analyze file src).1 = a ∨
      ∃ result fault, a.setup.visit (a.setup.resolver a.setup.known) a.run.id a.run.nextOrdinal file src = .ok result ∧
        Dependency.extract a.setup.registry (a.setup.resolver a.setup.known) file src.text = .error fault ∧
        e = .scan fault ∧
        (a.analyze file src).1 =
          { a with run := (a.run.numbered (a.setup.nextAfter a.run.nextOrdinal file src)).merge result }) ∧
      ((∀ l, a.setup.registry.languageOf file = some l → l.ReadsImports) →
        (∀ error, Dependency.extract a.setup.registry (a.setup.resolver a.setup.known) file src.text ≠
          .error (.lookup error)) →
        (a.analyze file src).1 = a) := by
  have analyzes := a.analyze_analyzes file src
  generalize a.analyze file src = outcome at *
  cases analyzes with
  | nothing => exact ⟨Or.inl rfl, fun _ _ => rfl⟩
  | merged visited failed =>
    refine ⟨Or.inr ⟨_, _, visited, failed, (Except.error.inj raised).symm, rfl⟩, fun reads looked => ?_⟩
    obtain ⟨error, rfl⟩ := lookup_of_extract_error reads visited failed
    exact absurd failed (looked error)
  | listed => cases raised

end Analyzer

/-! ## Odd settings -/

namespace Sample

/-- Templates whose script languages are no object. -/
def oddScripts : Setup := { setup with registry := .ofList [{ Bundled.vue with scripts := .text "ts" }] }

/-- A new analyzer that works with them. -/
def oddAnalyzer : Analyzer := ⟨oddScripts, .new "run", .empty, [], none⟩

/-- A template with a script. -/
def template : SourceFile := ⟨"<script lang='ts'>\n</script>\n", none⟩

/-- The settings of a language whose pattern of imports has no group. -/
def groupless : Document := .object [("typescript", .object [
  ("extensions", .list [.text ".ts"]),
  ("tree_sitter_language", .text "typescript"),
  ("node_shapes", .object [("class_declaration", .object [("shape", .text "class"), ("name_field", .text "name")])]),
  ("comment_patterns", .object []),
  ("import_patterns", .list [.text "^class \\w+"])])]

/-- `class K {}` and its tree. -/
def lonelyClass : SourceFile where
  text := "class K {}\n"
  tree := some ⟨.mk "program" true 0 11 none [
    .mk "class_declaration" true 0 10 none [.mk "type_identifier" true 6 7 (some "name") []]], false⟩

/-- The registry that is read from the settings. -/
def grouplessRegistry : Registry := (Registry.ofDocument groupless).toOption.getD .empty

/-- A new analyzer that works with the registry. -/
def grouplessAnalyzer : Analyzer := ⟨{ setup with registry := grouplessRegistry }, .new "run", .empty, [], none⟩

end Sample

/-- A template whose scripts cannot be named is not analyzed, and nothing changes. -/
theorem sample_unanalyzed :
    (Sample.oddAnalyzer.analyze "v.vue" Sample.template).2 = .error (.scan (.noScripts "str")) ∧
      (Sample.oddAnalyzer.analyze "v.vue" Sample.template).1 = Sample.oddAnalyzer := by
  have raised : (Sample.oddAnalyzer.analyze "v.vue" Sample.template).2 = .error (.scan (.noScripts "str")) :=
    Except.error?_eq_some_iff.mp (by decide +kernel)
  have extracts : Dependency.extract Sample.oddScripts.registry (Sample.oddScripts.resolver Sample.oddScripts.known)
      "v.vue" Sample.template.text = .error (.noScripts "str") := by decide +kernel
  refine ⟨raised, (Analyzer.analyze_error raised).2 (fun l found => ?_) fun error looked => ?_⟩
  · obtain rfl := List.mem_singleton.mp (Registry.mem_of_languageOf found)
    exact ⟨Bundled.vue_sound.marks, Bundled.vue_sound.grouped, Bundled.vue_sound.specified⟩
  · exact nomatch extracts.symm.trans looked

/-- The registry is accepted, and a file with a class stays merged although its analysis fails. -/
theorem sample_halfAnalyzed :
    Registry.ofDocument Sample.groupless = .ok Sample.grouplessRegistry ∧
      (Sample.grouplessAnalyzer.analyze "k.ts" Sample.lonelyClass).2 = .error (.scan .noGroup) ∧
      Sample.grouplessAnalyzer.run.elements = [] ∧
      (Sample.grouplessAnalyzer.analyze "k.ts" Sample.lonelyClass).1.run.elements.map (·.name) = ["K"] := by
  refine ⟨?_, Except.error?_eq_some_iff.mp (by decide +kernel), by decide +kernel⟩
  have accepted : (Registry.ofDocument Sample.groupless).isOk = true := by decide +kernel
  obtain ⟨registry, read, -⟩ := Except.Gives.of_isOk accepted
  rw [Sample.grouplessRegistry, read]
  rfl

end CodeAtlas
