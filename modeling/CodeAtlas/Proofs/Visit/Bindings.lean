import CodeAtlas.Proofs.Dependency.Targets
import CodeAtlas.Proofs.Language.Sound

/-!
# Bound names and reached files

Imports of names from a module are read twice. A visit binds each name to a file (`Visit.filesOf`, `Visit.bindNames_eq`): to
the file of the name if it is a module itself, else to the one of the module that it is imported from. The search for
dependencies lists the files that the import reaches. Both find the same files (`resolveNames_agrees`).

A visit looks the module up in any case, the search only if a name is not a module itself. So where the look-up of the module
fails, a visit may bind nothing though the search finds the files of all names (`sample_unbound`).
-/

namespace CodeAtlas

namespace Visit

variable {s : Subject}

/-- The files that a visit binds names to which are imported from a module. -/
def filesOf (s : Subject) (module : String) (names : List String) : Except LookupError (List (Option String)) := do
  let own ← moduleFile s module
  let members ← names.mapM (memberFile s module)
  return members.map (·.or own)

/-- Binds an imported name to a file and refers to what it names there. -/
def bindTo (s : Subject) (e : Element) (module : String) (st : State) (bound : (String × String) × Option String) : State :=
  let ((name, imported), file) := bound
  (st.bind ⟨name, imported, module, file⟩).addReference ⟨e.id, name, .imports, s.file, file, some imported⟩

theorem foldlM_bindName (e : Element) (module : String) (own : Option String) (bindings : List (String × String))
    (st : State) : bindings.foldlM (bindName s e module own) st =
      ((bindings.map Prod.snd).mapM (memberFile s module)).map fun members =>
        (bindings.zip (members.map (·.or own))).foldl (bindTo s e module) st := by
  induction bindings generalizing st with
  | nil => rfl
  | cons names bindings ih =>
    obtain ⟨name, imported⟩ := names
    rw [List.foldlM_cons, List.map_cons, List.mapM_cons, bindName]
    cases memberFile s module imported with
    | error error => rfl
    | ok member =>
      refine (ih _).trans ?_
      cases (bindings.map Prod.snd).mapM (memberFile s module) with
      | error error => rfl
      | ok members => rfl

/-- The names of an import are bound to their files, one after another. -/
theorem bindNames_eq (e : Element) (info : ImportInfo) (st : State) :
    bindNames s e info st = (filesOf s info.module (info.bindings.map Prod.snd)).map fun files =>
      (info.bindings.zip files).foldl (bindTo s e info.module) st := by
  unfold bindNames filesOf
  cases moduleFile s info.module with
  | error error => rfl
  | ok own =>
    refine (foldlM_bindName e info.module own info.bindings st).trans ?_
    cases (info.bindings.map Prod.snd).mapM (memberFile s info.module) with
    | error error => rfl
    | ok members => rfl

end Visit

namespace Resolver

variable {r : Resolver}

/-- The paths are the known ones among the files, each listed once. -/
def AreReached (files : List (Option String)) (found : List String) : Prop :=
  found.Nodup ∧ ∀ path, path ∈ found ↔ some path ∈ files

/-- The files that an import of names reaches: those of the names that are modules, and the one of the module itself if a
name is none or nothing is listed else. -/
def reachedFiles (own : Option String) (members : List (Option String)) : List String :=
  let found := (members.filterMap id).foldl addNew []
  if members.any Option.isNone || found.isEmpty then (own.map (addNew found)).getD found else found

theorem resolveNames_eq {module directory : String} {own : Option String} (names : List String)
    (looked : r.resolveDotted module directory = .ok own) :
    r.resolveNames module names directory = (names.mapM (r.resolveMember module directory)).map (reachedFiles own) := by
  unfold resolveNames reachedFiles
  cases names.mapM (r.resolveMember module directory) with
  | error e => rfl
  | ok members =>
    simp only [bind, Except.bind, looked, pure, Except.pure, Except.map]
    split <;> rfl

/-- Names are bound to exactly the files that their import reaches. -/
theorem areReached_reachedFiles {members : List (Option String)} (more : members ≠ []) (own : Option String) :
    AreReached (members.map (·.or own)) (reachedFiles own members) := by
  unfold reachedFiles
  extract_lets found
  have distinct : found.Nodup := nodup_foldl_addNew List.nodup_nil _
  have listed (path : String) : path ∈ found ↔ some path ∈ members := by
    simp [found, mem_foldl_addNew]
  have bound (path : String) :
      some path ∈ members.map (·.or own) ↔ some path ∈ members ∨ none ∈ members ∧ own = some path := by
    rw [List.mem_map]
    constructor
    · rintro ⟨member, mem, file⟩
      cases member with
      | none => exact Or.inr ⟨mem, file⟩
      | some own => exact Or.inl (file ▸ mem)
    · rintro (mem | ⟨mem, file⟩)
      · exact ⟨some path, mem, rfl⟩
      · exact ⟨none, mem, file⟩
  by_cases symbol : none ∈ members
  · -- a name that is no module is bound to the file of the module
    have asked : (members.any Option.isNone || found.isEmpty) = true := by
      rw [Bool.or_eq_true, List.any_eq_true]
      exact Or.inl ⟨none, symbol, rfl⟩
    rw [if_pos asked]
    cases own with
    | none =>
      refine ⟨distinct, fun path => ?_⟩
      rw [bound, Option.map_none, Option.getD_none, listed]
      simp
    | some own =>
      refine ⟨nodup_addNew distinct own, fun path => ?_⟩
      rw [bound, Option.map_some, Option.getD_some, mem_addNew, listed]
      simp [symbol, eq_comm]
  · -- all names are modules, so a file is listed
    obtain ⟨member, mem⟩ := List.exists_mem_of_ne_nil members more
    obtain ⟨file, rfl⟩ := Option.ne_none_iff_exists'.mp fun none => symbol (none ▸ mem)
    have filled : found ≠ [] := List.ne_nil_of_mem ((listed file).mpr mem)
    have unasked : ¬ (members.any Option.isNone || found.isEmpty) = true := by
      rw [Bool.or_eq_true, List.any_eq_true, List.isEmpty_iff]
      rintro (⟨member, mem, none⟩ | empty)
      · exact symbol (Option.isNone_iff_eq_none.mp none ▸ mem)
      · exact filled empty
    rw [if_neg unasked]
    refine ⟨distinct, fun path => ?_⟩
    rw [bound, listed]
    simp [symbol]

end Resolver

open Resolver

variable {s : Visit.Subject} {r : Resolver}

/-- The file of a name that is no star is looked for alike. -/
theorem memberFile_eq (resolver : s.resolver = some r) (dotted : s.language.isDotted = true) (module : String)
    {name : String} (named : name ≠ "*") :
    Visit.memberFile s module name = r.resolveMember module (Path.directory s.file) name := by
  simp only [Visit.memberFile, resolver, dotted, resolveMember, if_neg named, if_true]

theorem moduleFile_eq (resolver : s.resolver = some r) (dotted : s.language.isDotted = true) (module : String) :
    Visit.moduleFile s module = r.resolveDotted module (Path.directory s.file) := by
  simp only [Visit.moduleFile, resolver, dotted, if_true]

/-- If a module can be looked up, an import of names from it reaches exactly the files that a visit binds the names to, or
both fail alike. They do not fail if every path can be looked up. -/
theorem resolveNames_agrees (resolver : s.resolver = some r) (dotted : s.language.isDotted = true) {module : String}
    {names : List String} (more : names ≠ []) (named : "*" ∉ names)
    (looked : (r.resolveDotted module (Path.directory s.file)).Succeeds) :
    (∀ e st bindings, bindings.map Prod.snd = names → Visit.bindNames s e ⟨module, bindings⟩ st =
      (Visit.filesOf s module names).map fun files => (bindings.zip files).foldl (Visit.bindTo s e module) st) ∧
    Except.Related AreReached (Visit.filesOf s module names) (r.resolveNames module names (Path.directory s.file)) ∧
    (r.IsTotal → (Visit.filesOf s module names).Succeeds) := by
  obtain ⟨own, module', -⟩ := looked
  have same : names.mapM (Visit.memberFile s module) = names.mapM (r.resolveMember module (Path.directory s.file)) :=
    Except.mapM_congr fun name mem => memberFile_eq resolver dotted module fun star => named (star ▸ mem)
  have bound : Visit.filesOf s module names =
      (names.mapM (r.resolveMember module (Path.directory s.file))).map fun members => members.map (·.or own) := by
    unfold Visit.filesOf
    rw [moduleFile_eq resolver dotted, module', same]
    cases names.mapM (r.resolveMember module (Path.directory s.file)) <;> rfl
  refine ⟨?_, ?_, fun total => ?_⟩
  · rintro e st bindings rfl
    exact Visit.bindNames_eq e ⟨module, bindings⟩ st
  · rw [bound, resolveNames_eq names module']
    cases found : names.mapM (r.resolveMember module (Path.directory s.file)) with
    | error e => exact .error e
    | ok members =>
      have filled : members ≠ [] := by
        rintro rfl
        exact more (List.forall₂_nil_right_iff.mp (Except.mapM_eq_ok_iff.mp found))
      exact .ok (areReached_reachedFiles filled own)
  · rw [bound]
    exact (Except.Gives.mapM fun name _ => resolveMember_succeeds total module _ name).map fun _ _ => trivial

namespace Visit.Sample

/-- A visit of a file beside a package, in a language with dotted names. -/
def importer (r : Resolver) : Subject := ⟨"main.py", [], Bundled.python, .python, some r, fun _ _ => ""⟩

/-- A package with a module `a`. -/
def package : Resolver := .ofKnown "/repo" ["pkg/__init__.py", "pkg/a.py"] none sourceExtensions

/-- A disk with the module `a` of a package whose name is so long that the file beside it cannot be looked up. -/
def longPackage : Resolver :=
  .onDisk "/repo" (fun p => if p.name = "pkg.py" then .error (.nameTooLong p.render) else .ok (p.render = "/repo/pkg/a.py"))
    none sourceExtensions

end Visit.Sample

open Visit.Sample

/-- A module that is imported twice and a name of the package itself: two files are reached. -/
theorem sample_agrees :
    let s := importer package
    s.resolver = some package ∧ s.language.isDotted = true ∧ ["a", "f", "a"] ≠ [] ∧ "*" ∉ ["a", "f", "a"] ∧
      (package.resolveDotted "pkg" (Path.directory s.file)).Succeeds ∧
      Visit.filesOf s "pkg" ["a", "f", "a"] = .ok [some "pkg/a.py", some "pkg/__init__.py", some "pkg/a.py"] ∧
      package.resolveNames "pkg" ["a", "f", "a"] (Path.directory s.file) = .ok ["pkg/a.py", "pkg/__init__.py"] ∧
      AreReached [some "pkg/a.py", some "pkg/__init__.py", some "pkg/a.py"] ["pkg/a.py", "pkg/__init__.py"] := by
  intro s
  have looked : (package.resolveDotted "pkg" (Path.directory s.file)).Succeeds := .of_isOk (by decide +kernel)
  have listed : ["a", "f", "a"] ≠ [] := by decide
  have agrees := (resolveNames_agrees (s := s) rfl rfl listed (by decide) looked).2.1
  have bound : Visit.filesOf s "pkg" ["a", "f", "a"] = .ok [some "pkg/a.py", some "pkg/__init__.py", some "pkg/a.py"] := by
    decide +kernel
  have reached : package.resolveNames "pkg" ["a", "f", "a"] (Path.directory s.file) =
      .ok ["pkg/a.py", "pkg/__init__.py"] := by
    decide +kernel
  rw [bound, reached] at agrees
  obtain ⟨_, same, are⟩ := agrees.ok_left
  refine ⟨rfl, rfl, listed, by decide, looked, bound, reached, ?_⟩
  rwa [← Except.ok.inj same] at are

/-- Where the module itself cannot be looked up, the import of a module from the package reaches its file, but no visit binds
the name. -/
theorem sample_unbound :
    let s := importer longPackage
    Visit.memberFile s "pkg" "a" = .ok (some "pkg/a.py") ∧
      longPackage.resolveNames "pkg" ["a"] (Path.directory s.file) = .ok ["pkg/a.py"] ∧
      ∀ e st st', Visit.bindNames s e ⟨"pkg", [("a", "a")]⟩ st ≠ .ok st' := by
  intro s
  refine ⟨by decide +kernel, by decide +kernel, fun e st st' bound => ?_⟩
  have failed : (Visit.moduleFile s "pkg").isOk = false := by decide +kernel
  obtain ⟨own, looked, -⟩ := Except.bind_eq_ok_iff.mp bound
  rw [looked] at failed
  cases failed

end CodeAtlas
