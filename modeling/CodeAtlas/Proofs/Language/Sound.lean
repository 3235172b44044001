import CodeAtlas.Dependency.Extract
import CodeAtlas.Language.Bundled
import CodeAtlas.Proofs.Outcome
import CodeAtlas.Proofs.Pattern.Captures
import CodeAtlas.Visit

/-!
# Languages whose files can always be read

Settings of a language that are of the wrong kind are errors only when they are used. A language is sound if none of its
settings is (`Language.IsSound`). With sound languages every file can be prepared for its parser (`prepare_succeeds`), and
its dependencies can be found if files can be looked up (`extract_succeeds`). The bundled languages are sound
(`Bundled.registry_sound`).
-/

namespace CodeAtlas

/-- The value is a text. -/
def Document.IsWritten (d : Document) : Prop := ∃ text, d = .text text

/-- The settings that imports are found by are of the right kind. -/
structure Language.ReadsImports (l : Language) : Prop where
  marks : ∀ mark ∈ l.lineMarks, mark.IsWritten
  grouped : ∀ p ∈ l.importPatterns, p.groups ≠ 0
  /-- Every import has a specifier; lists of dotted names may be empty. -/
  specified : l.isDotted = false → ∀ p ∈ l.importPatterns, p.regex.passes 1 = true

/-- No setting of the language is of a wrong kind. -/
structure Language.IsSound (l : Language) : Prop extends l.ReadsImports where
  scripts : l.isTemplate = true → ∃ fields, l.scripts = .object fields ∧ ∀ field ∈ fields, field.2.IsWritten
  defaultScript : l.isTemplate = true → l.defaultScript.IsWritten

/-- Every language that a file can have is sound. -/
def Registry.IsSound (r : Registry) : Prop := ∀ file l, r.languageOf file = some l → l.IsSound

/-! ## Comments -/

namespace Comments

theorem isCommentLine_succeeds (line : List Char) : ∀ {marks : List Document}, (∀ mark ∈ marks, mark.IsWritten) →
    (isCommentLine marks line).Succeeds
  | [], _ => .ok trivial
  | mark :: marks, written => by
    obtain ⟨text, rfl⟩ := written mark List.mem_cons_self
    rw [isCommentLine]
    split
    · exact .ok trivial
    · exact isCommentLine_succeeds line fun m hm => written m (List.mem_cons_of_mem _ hm)

theorem dropLines_succeeds {marks : List Document} (written : ∀ mark ∈ marks, mark.IsWritten) (text : List Char) :
    (dropLines marks text).Succeeds := by
  unfold dropLines
  split
  · exact .ok trivial
  · refine (Except.Gives.mapM fun line _ => ?_).map fun _ _ => trivial
    exact (isCommentLine_succeeds _ written).map fun _ _ => trivial

end Comments

namespace Language.ReadsImports

variable {l : Language} (h : l.ReadsImports)
include h

theorem stripComments_succeeds (text : List Char) : (l.stripComments text).Succeeds :=
  Comments.dropLines_succeeds h.marks _

/-! ## Imports -/

theorem ofMatch_succeeds {p : Pattern} (mem : p ∈ l.importPatterns) {text : List Char} {m : Match}
    (found : m ∈ p.findAll text) : (Imports.ofMatch l.isDotted p m).Succeeds := by
  unfold Imports.ofMatch
  rw [if_neg (h.grouped p mem)]
  split
  · exact .ok trivial
  · rename_i plain
    obtain ⟨c, captured⟩ := Pattern.group?_of_mem_findAll (h.specified (by simpa using plain) p mem) found
    rw [captured]
    exact .ok trivial

theorem findImports_succeeds (text : List Char) : (l.findImports text).Succeeds := by
  refine (Except.Gives.mapM fun p mem => ?_).map fun _ _ => trivial
  exact (Except.Gives.mapM fun m found => h.ofMatch_succeeds mem found).map fun _ _ => trivial

/-- The text to be searched is there if a template can be unwrapped. -/
theorem searchedText_succeeds {text : List Char} (unwraps : l.isTemplate = true → (l.unwrap text).Succeeds) :
    (Dependency.searchedText l text).Succeeds := by
  unfold Dependency.searchedText
  dsimp only
  split
  · rename_i template
    have masked := (unwraps template).map (Q := fun _ => True) (f := (·.2)) fun _ _ => trivial
    exact masked.bind fun searched _ => h.stripComments_succeeds searched
  · exact h.stripComments_succeeds text

end Language.ReadsImports

/-! ## Scripts -/

namespace Language.IsSound

variable {l : Language} (h : l.IsSound)
include h

theorem scriptNamed?_gives (template : l.isTemplate = true) (name : List Char) :
    (l.scriptNamed? name).Gives fun found => ∀ script, found = some script → script.IsWritten := by
  obtain ⟨fields, object, written⟩ := h.scripts template
  unfold scriptNamed?
  rw [object]
  refine .ok fun script found => ?_
  obtain ⟨field, last, rfl⟩ := Option.map_eq_some_iff.mp found
  exact written field (List.mem_reverse.mp (List.mem_of_find?_eq_some last))

/-- The script language stays a text after every block. -/
theorem scriptAfter_gives (template : l.isTemplate = true) {current : Document} (written : current.IsWritten)
    (attributes : List Char) : (l.scriptAfter current attributes).Gives Document.IsWritten := by
  unfold scriptAfter
  split
  · refine (h.scriptNamed?_gives template _).map fun found writtenToo => ?_
    cases found with
    | none => exact written
    | some script => exact writtenToo script rfl
  · exact .ok written

theorem unwrap_gives (template : l.isTemplate = true) (text : List Char) :
    (l.unwrap text).Gives fun r => r.1.IsWritten := by
  refine Except.Gives.map (P := Document.IsWritten) ?_ fun _ written => written
  exact Except.Gives.foldlM (fun _ b written => h.scriptAfter_gives template written b.attributes) _
    (h.defaultScript template)

end Language.IsSound

/-! ## Files -/

/-- With sound languages every file is ready for its parser or fails. -/
theorem Visit.prepare_succeeds {registry : Registry} (sound : registry.IsSound) (file text : String) :
    (prepare registry file text).Succeeds := by
  refine Except.Gives.map (P := fun _ => True) ?_ fun _ _ => trivial
  unfold parsedAs
  cases found : registry.languageOf file with
  | none => exact .ok trivial
  | some l =>
    dsimp only
    split
    · rename_i template
      refine ((sound file l found).unwrap_gives template text.toList).bind fun r written => ?_
      obtain ⟨name, script⟩ := written
      simp only [scriptLanguage?, script]
      exact .ok trivial
    · exact .ok trivial

namespace Resolver

variable {r : Resolver}

/-- Every path can be looked up. -/
def IsTotal (r : Resolver) : Prop := ∀ path, (r.isFile path).Succeeds

theorem firstFile_succeeds (total : r.IsTotal) : ∀ paths, (r.firstFile paths).Succeeds
  | [] => .ok trivial
  | path :: paths => by
    rw [firstFile]
    refine (total path).bind fun isFile _ => ?_
    split
    · exact .ok trivial
    · exact firstFile_succeeds total paths

theorem resolveMember_succeeds (total : r.IsTotal) (module directory name : String) :
    (r.resolveMember module directory name).Succeeds := by
  unfold resolveMember
  split
  · exact .ok trivial
  · exact firstFile_succeeds total _

theorem resolveNames_succeeds (total : r.IsTotal) (module : String) (names : List String) (directory : String) :
    (r.resolveNames module names directory).Succeeds := by
  unfold resolveNames
  refine (Except.Gives.mapM fun name _ => resolveMember_succeeds total module directory name).bind fun members _ => ?_
  dsimp only
  split
  · exact (firstFile_succeeds total _).bind fun _ _ => .ok trivial
  · exact .ok trivial

end Resolver

namespace Dependency

theorem reached_succeeds {r : Resolver} (total : r.IsTotal) (dotted : Bool) (directory : String) (i : FoundImport) :
    (reached r dotted directory i).Succeeds := by
  unfold reached
  split
  · exact Resolver.resolveNames_succeeds total _ _ _
  · exact (Resolver.firstFile_succeeds total _).map fun _ _ => trivial

/-- If the imports of a file can be read, only looking up the imported files may fail. -/
theorem extract_eq_mapError_of {registry : Registry} {file text : String}
    (reads : ∀ l, registry.languageOf file = some l →
      l.ReadsImports ∧ (l.isTemplate = true → (l.unwrap text.toList).Succeeds)) (r : Resolver) :
    ∃ found : Except LookupError (List String), extract registry r file text = found.mapError .lookup ∧
      (r.IsTotal → found.Succeeds) := by
  unfold extract
  cases found : registry.languageOf file with
  | none => exact ⟨.ok [], rfl, fun _ => .ok trivial⟩
  | some l =>
    obtain ⟨language, unwraps⟩ := reads l found
    obtain ⟨searched, searches, -⟩ := language.searchedText_succeeds unwraps
    obtain ⟨imports, finds, -⟩ := language.findImports_succeeds searched
    let self := relativeFile r.root file
    let files := imports.mapM (reached r l.isDotted (Path.directory self))
    refine ⟨files.map fun files => files.flatten.foldl (addDependency self) [], ?_, fun total => ?_⟩
    · simp only [searches, finds, bind, Except.bind, files, self]
      cases imports.mapM (reached r l.isDotted (Path.directory (relativeFile r.root file))) with
      | error e => rfl
      | ok files => rfl
    · exact (Except.Gives.mapM fun i _ => reached_succeeds total _ _ i).map fun _ _ => trivial

/-- With sound languages the imports of every file can be read. -/
theorem extract_eq_mapError {registry : Registry} (sound : registry.IsSound) (r : Resolver) (file text : String) :
    ∃ found : Except LookupError (List String), extract registry r file text = found.mapError .lookup ∧
      (r.IsTotal → found.Succeeds) := by
  refine extract_eq_mapError_of (fun l found => ?_) r
  have language := sound file l found
  refine ⟨language.toReadsImports, fun template => ?_⟩
  obtain ⟨unwrapped, unwraps, -⟩ := language.unwrap_gives template text.toList
  exact ⟨unwrapped, unwraps, trivial⟩

/-- With sound languages the dependencies of every file can be found if every path can be looked up. -/
theorem extract_succeeds {registry : Registry} (sound : registry.IsSound) {r : Resolver} (total : r.IsTotal)
    (file text : String) : (extract registry r file text).Succeeds := by
  obtain ⟨found, extracts, succeeds⟩ := extract_eq_mapError sound r file text
  rw [extracts]
  exact (succeeds total).mapError _

end Dependency

/-! ## Bundled languages -/

namespace Registry

/-- A language of a registry was added or was there before. -/
theorem get?_foldl_add {name : String} {l : Language} : ∀ (languages : List Language) {r : Registry},
    (languages.foldl add r).languages.get? name = some l → l ∈ languages ∨ r.languages.get? name = some l
  | [], _, h => Or.inr h
  | first :: languages, r, h => by
    rcases get?_foldl_add languages h with mem | h
    · exact Or.inl (List.mem_cons_of_mem _ mem)
    · rw [add, Table.get?_put] at h
      split at h
      · exact Or.inl (List.mem_cons.mpr (Or.inl (Option.some.inj h).symm))
      · exact Or.inr h

theorem mem_of_get? {languages : List Language} {name : String} {l : Language}
    (h : (ofList languages).languages.get? name = some l) : l ∈ languages := by
  rcases get?_foldl_add languages h with mem | absurd
  · exact mem
  · cases absurd

theorem mem_of_languageOf {languages : List Language} {file : String} {l : Language}
    (h : (ofList languages).languageOf file = some l) : l ∈ languages := by
  obtain ⟨name, -, found⟩ := Option.bind_eq_some_iff.mp h
  exact mem_of_get? found

end Registry

namespace Bundled

/-- Loading calls have a specifier. -/
theorem loadCall_passes (function : String) : (loadCall function).regex.passes 1 = true := by
  simp [loadCall, Regex.passes, Regex.all, specifier]

theorem script_patterns {statement : Pattern} (grouped : statement.groups ≠ 0)
    (specified : statement.regex.passes 1 = true) :
    ∀ p ∈ [statement, loadCall "require", loadCall "import"], p.groups ≠ 0 ∧ p.regex.passes 1 = true := by
  intro p mem
  simp only [List.mem_cons, List.not_mem_nil, or_false] at mem
  rcases mem with rfl | rfl | rfl
  · exact ⟨grouped, specified⟩
  · exact ⟨Nat.one_ne_zero, loadCall_passes _⟩
  · exact ⟨Nat.one_ne_zero, loadCall_passes _⟩

theorem script_sound (name : String) (extensions : List String) (rules : List (String × NodeRule)) {statement : Pattern}
    (grouped : statement.groups ≠ 0) (specified : statement.regex.passes 1 = true) :
    (script name extensions rules statement).IsSound where
  marks := by simp [script, Document.IsWritten]
  grouped p mem := (script_patterns grouped specified p mem).1
  specified _ p mem := (script_patterns grouped specified p mem).2
  scripts absurd := by cases absurd
  defaultScript absurd := by cases absurd

theorem vue_sound : vue.IsSound where
  marks := by simp [vue, script, Document.IsWritten]
  grouped p mem := (script_patterns (by decide) (by decide) p mem).1
  specified _ p mem := (script_patterns (by decide) (by decide) p mem).2
  scripts _ := ⟨_, rfl, by simp [Document.IsWritten]⟩
  defaultScript _ := ⟨_, rfl⟩

theorem python_sound : python.IsSound where
  marks := by simp [python, Document.IsWritten]
  grouped := by simp [python, fromStatement, modulesStatement]
  specified absurd := by cases absurd
  scripts absurd := by cases absurd
  defaultScript absurd := by cases absurd

theorem sound_of_mem {l : Language} (mem : l ∈ [typescript, tsx, javascript, vue, python]) : l.IsSound := by
  simp only [List.mem_cons, List.not_mem_nil, or_false] at mem
  rcases mem with rfl | rfl | rfl | rfl | rfl
  · exact script_sound _ _ _ (by decide) (by decide)
  · exact script_sound _ _ _ (by decide) (by decide)
  · exact script_sound _ _ _ (by decide) (by decide)
  · exact vue_sound
  · exact python_sound

/-- Every bundled language is sound. -/
theorem registry_sound : registry.IsSound := fun _ _ found => sound_of_mem (Registry.mem_of_languageOf found)

end Bundled

end CodeAtlas
