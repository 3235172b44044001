import CodeAtlas.Dependency.Extract
import CodeAtlas.Proofs.Distinct
import CodeAtlas.Proofs.Outcome
import CodeAtlas.Proofs.Path

/-!
# Where imports lead

A resolver puts together the paths that it tries in many ways: specifiers may start at the importing file, at the root or
with an alias, dotted names may climb, and suffixes and index files are added. What it gives in the end is one of the paths
that it has tried, and that is a file (`isFile_of_firstFile`). So the dependencies of a file are files; none of them is
listed twice, and none is the file itself (`extract_areDependencies`).
-/

namespace CodeAtlas

namespace Resolver

variable {r : Resolver}

/-- The resolver knows the files that it was given, in their tidy form. -/
theorem isFile_ofKnown {root : String} {known : List String} {aliases : Option (Table String String)}
    {extensions : List String} {path : String} :
    (ofKnown root known aliases extensions).isFile path = .ok true ↔ path ∈ known.map Path.tidy := by
  simp [ofKnown]

/-- Whatever was tried, what is taken is a file. -/
theorem isFile_of_firstFile {candidates : List String} {file : String} (h : r.firstFile candidates = .ok (some file)) :
    r.isFile file = .ok true := by
  induction candidates with
  | nil => cases h
  | cons first rest ih =>
    rw [firstFile] at h
    obtain ⟨exists?, looked, h⟩ := Except.bind_eq_ok_iff.mp h
    cases exists? with
    | true =>
      obtain rfl : first = file := Option.some.inj (Except.ok.inj h)
      exact looked
    | false => exact ih h

theorem isFile_of_resolveMember {module directory name file : String}
    (h : r.resolveMember module directory name = .ok (some file)) : r.isFile file = .ok true := by
  unfold resolveMember at h
  split at h
  · cases h
  · exact isFile_of_firstFile h

theorem mem_addNew {files : List String} {file path : String} : path ∈ addNew files file ↔ path ∈ files ∨ path = file :=
  List.mem_appendNew

theorem nodup_addNew {files : List String} (distinct : files.Nodup) (file : String) : (addNew files file).Nodup :=
  List.nodup_appendNew distinct file

theorem mem_foldl_addNew {path : String} (files listed : List String) :
    path ∈ files.foldl addNew listed ↔ path ∈ listed ∨ path ∈ files :=
  List.mem_foldl_appendNew

theorem nodup_foldl_addNew {listed : List String} (distinct : listed.Nodup) (files : List String) :
    (files.foldl addNew listed).Nodup :=
  List.nodup_foldl_appendNew distinct files

/-- An import of names reaches files only. -/
theorem isFile_of_resolveNames {module directory : String} {names found : List String}
    (h : r.resolveNames module names directory = .ok found) : ∀ file ∈ found, r.isFile file = .ok true := by
  unfold resolveNames at h
  obtain ⟨members, each, h⟩ := Except.bind_eq_ok_iff.mp h
  have named : ∀ file ∈ (members.filterMap id).foldl addNew [], r.isFile file = .ok true := by
    intro file mem
    have mem := ((mem_foldl_addNew _ _).mp mem).resolve_left List.not_mem_nil
    obtain ⟨_, member, rfl⟩ := List.mem_filterMap.mp mem
    obtain ⟨name, -, resolved⟩ := Except.exists_of_mem_mapM each member
    exact isFile_of_resolveMember resolved
  dsimp only at h
  split at h
  · obtain ⟨own, resolved, h⟩ := Except.bind_eq_ok_iff.mp h
    cases own with
    | none =>
      obtain rfl := Except.ok.inj h
      exact named
    | some own =>
      obtain rfl := Except.ok.inj h
      intro file mem
      rcases mem_addNew.mp mem with mem | rfl
      · exact named file mem
      · exact isFile_of_firstFile resolved
  · obtain rfl := Except.ok.inj h
    exact named

end Resolver

namespace Dependency

variable {r : Resolver} {self : String} {found : List String}

/-- An import reaches files only. -/
theorem isFile_of_reached {dotted : Bool} {directory : String} {i : FoundImport}
    (h : reached r dotted directory i = .ok found) : ∀ file ∈ found, r.isFile file = .ok true := by
  unfold reached at h
  split at h
  · exact Resolver.isFile_of_resolveNames h
  · obtain ⟨resolved, resolves, rfl⟩ := Except.map_eq_ok_iff.mp h
    intro file mem
    obtain rfl := Option.mem_toList.mp mem
    exact Resolver.isFile_of_firstFile resolves

/-- The paths may be what the file depends on. -/
structure AreDependencies (r : Resolver) (file : String) (found : List String) : Prop where
  files : ∀ path ∈ found, r.isFile path = .ok true
  distinct : found.Nodup
  others : file ∉ found

theorem AreDependencies.add (h : AreDependencies r self found) {file : String} (isFile : r.isFile file = .ok true) :
    AreDependencies r self (addDependency self found file) := by
  unfold addDependency
  split
  · rename_i other
    refine ⟨fun path mem => ?_, Resolver.nodup_addNew h.distinct file, fun mem => ?_⟩
    · rcases Resolver.mem_addNew.mp mem with mem | rfl
      · exact h.files path mem
      · exact isFile
    · rcases Resolver.mem_addNew.mp mem with mem | same
      · exact h.others mem
      · exact other.2 same.symm
  · exact h

theorem AreDependencies.addAll (h : AreDependencies r self found) {files : List String}
    (areFiles : ∀ file ∈ files, r.isFile file = .ok true) :
    AreDependencies r self (files.foldl (addDependency self) found) := by
  induction files generalizing found with
  | nil => exact h
  | cons file files ih =>
    obtain ⟨first, rest⟩ := List.forall_mem_cons.mp areFiles
    exact ih (h.add first) rest

/-- What is extracted from a file are files other than itself, each once. -/
theorem extract_areDependencies {registry : Registry} {file text : String} (h : extract registry r file text = .ok found) :
    AreDependencies r (relativeFile r.root file) found := by
  have none : AreDependencies r (relativeFile r.root file) [] :=
    ⟨fun _ mem => absurd mem List.not_mem_nil, List.nodup_nil, List.not_mem_nil⟩
  unfold extract at h
  split at h
  · obtain rfl := Except.ok.inj h
    exact none
  · obtain ⟨_, -, h⟩ := Except.bind_eq_ok_iff.mp h
    obtain ⟨imports, -, h⟩ := Except.bind_eq_ok_iff.mp h
    obtain ⟨files, each, h⟩ := Except.bind_eq_ok_iff.mp h
    obtain rfl := Except.ok.inj h
    refine none.addAll fun path mem => ?_
    obtain ⟨paths, listed, mem⟩ := List.mem_flatten.mp mem
    obtain ⟨i, -, reaches⟩ := Except.exists_of_mem_mapM (Except.mapError_eq_ok_iff.mp each) listed
    exact isFile_of_reached reaches path mem

/-- A relative path in its tidy form is the repository path of its file. -/
theorem relativeFile_of_isTidy {file : String} (root : Path) (h : Path.IsTidy file) : relativeFile root file = file := by
  simp only [relativeFile, h.2]
  exact h.1

end Dependency

end CodeAtlas
