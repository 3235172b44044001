import CodeAtlas.Dependency.Order
import CodeAtlas.Language.Imports
import CodeAtlas.Language.Template
import CodeAtlas.Resolver

/-!
# The dependencies of files

The imports of a file are found in its text without comments, or in its scripts if it is a template, and each is resolved
to a repository file. The file itself is not a dependency, and no dependency is listed twice.
-/

namespace CodeAtlas.Dependency

/-- A file as a repository path; a file outside the repository keeps its whole path. -/
def relativeFile (root : Path) (file : String) : String :=
  let p := Path.parse file
  if p.isAbsolute then ((p.relativeTo? root).getD p).render else p.render

/-- The files that an import may reach. -/
def reached (r : Resolver) (dotted : Bool) (directory : String) (i : FoundImport) : Except LookupError (List String) :=
  if dotted then r.resolveNames i.specifier i.names directory
  else (r.resolve i.specifier directory).map (·.toList)

/-- Appends a dependency that is not there yet; the file itself and the repository root are none. -/
def addDependency (self : String) (found : List String) (file : String) : List String :=
  if file ≠ "" ∧ file ≠ self then Resolver.addNew found file else found

/-- The text that is searched for imports. -/
def searchedText (l : Language) (text : List Char) : Except ScanError (List Char) := do
  l.stripComments (← if l.isTemplate then (l.unwrap text).map (·.2) else .ok text)

/-- The repository files that a file imports. -/
def extract (registry : Registry) (r : Resolver) (file text : String) : Except ScanError (List String) :=
  match registry.languageOf file with
  | none => .ok []
  | some l => do
    let self := relativeFile r.root file
    let imports ← l.findImports (← searchedText l text.toList)
    let files ← (imports.mapM (reached r l.isDotted (Path.directory self))).mapError .lookup
    return files.flatten.foldl (addDependency self) []

/-- The dependency entries of files, in their order. -/
def mapOf (registry : Registry) (r : Resolver) (files : Table String String) : Except ScanError DependencyMap :=
  (files.entries.mapM fun e => (extract registry r e.1 e.2).map fun found =>
    (e.1, (⟨e.1, found⟩ : DependencyEntry))).map Table.ofList

end CodeAtlas.Dependency
