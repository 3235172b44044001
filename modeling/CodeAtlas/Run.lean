import CodeAtlas.Element

/-!
# Runs

A run gathers the findings of many files. `Run.merge` adds the outcome of one file; `Run.resolve` turns the references by
name into relations between elements: each reference is looked for in the file it was imported from, in its own file, in
the file that an import binds its name to, and at last in all files, and the first element of a fitting kind is taken.
-/

namespace CodeAtlas

/-- What a run has gathered. -/
structure Run where
  id : String
  elements : List Element
  relations : List Relation
  references : List Reference
  /-- The names that imports bind, file by file. -/
  bindings : Table String (Table String Binding)
  analyzed : List String
  /-- The files that failed, with the reason. -/
  failed : Table String String
  /-- The number of the next file that is parsed. -/
  nextOrdinal : Nat
deriving Repr, DecidableEq

namespace Run

/-- A run that has gathered nothing. -/
def new (id : String) : Run := ⟨id, [], [], [], .empty, [], .empty, 0⟩

/-- Takes the number of a file. -/
def claimOrdinal (r : Run) : Nat × Run := (r.nextOrdinal, { r with nextOrdinal := r.nextOrdinal + 1 })

/-- The reason of a failure as it is recorded. -/
def reason (error : String) : String := if error = "" then "unknown error" else error

/-- Adds the outcome of a file. -/
def merge (r : Run) (result : FileResult) : Run :=
  match result.outcome with
  | .error error => { r with failed := r.failed.put result.file (reason error) }
  | .ok found =>
    { r with
      elements := r.elements ++ found.elements
      relations := r.relations ++ found.relations
      references := r.references ++ found.references
      bindings := r.bindings.put result.file (((r.bindings.get? result.file).getD .empty).update found.bindings)
      analyzed := r.analyzed ++ [result.file] }

/-! ## Resolving references -/

/-- An element of this kind may be the target of a relation. -/
def eligible : RelationKind → ElementKind → Bool
  | .calls, k => k = .functionDef || k = .methodDef || k = .classDef || k = .variableDef
  | .inherits, k | .implements, k | .references, k =>
    k = .classDef || k = .interfaceDef || k = .typeDef || k = .enumDef
  | .imports, k | .contains, k => k ≠ .importDef

/-- The element can be referred to by name. -/
def isNameable (e : Element) : Bool := e.kind ≠ .importDef && e.name ≠ ""

/-- The elements that can be referred to, by file and name and by name alone. -/
structure Index where
  byFile : Table (String × String) (List Element)
  byName : Table String (List Element)

/-- The index of some elements. -/
def Index.of (elements : List Element) : Index :=
  let named := elements.filter isNameable
  ⟨.group (fun e => (e.file, e.name)) named, .group (·.name) named⟩

/-- The first element of a kind that fits. -/
def firstEligible (kind : RelationKind) (candidates : List Element) : Option Element :=
  candidates.find? fun e => eligible kind e.kind

namespace Index

/-- The first fitting element of a file and a name. -/
def inFile (x : Index) (kind : RelationKind) (file name : String) : Option Element :=
  firstEligible kind ((x.byFile.get? (file, name)).getD [])

/-- The first fitting element of a name. -/
def anywhere (x : Index) (kind : RelationKind) (name : String) : Option Element :=
  firstEligible kind ((x.byName.get? name).getD [])

end Index

/-- A text that is there and not empty. -/
def present (text : Option String) : Option String := text.filter (· ≠ "")

/-- The name that a reference has in the file it was imported from. -/
def importedName (ref : Reference) : String := (present ref.importedName).getD ref.targetName

/-- What the imports of a reference's file bind its name to. -/
def bindingOf (r : Run) (ref : Reference) : Option Binding := (r.bindings.get? ref.file).bind (·.get? ref.targetName)

/-- The element that a reference means. -/
def target (r : Run) (x : Index) (ref : Reference) : Option Element :=
  ((present ref.modulePath).bind fun file => x.inFile ref.kind file (importedName ref))
    |>.or (x.inFile ref.kind ref.file ref.targetName)
    |>.or ((r.bindingOf ref).bind fun b =>
      (present b.modulePath).bind fun file => x.inFile ref.kind file b.importedName)
    |>.or (x.anywhere ref.kind ref.targetName)

/-- Appends a relation that is not there yet. -/
def addRelation (found : List Relation) (rel : Relation) : List Relation :=
  if found.contains rel then found else found ++ [rel]

/-- The relations that the references stand for; references without a target are dropped. -/
def resolve (r : Run) : List Relation :=
  let x := Index.of r.elements
  (r.references.filterMap fun ref => (r.target x ref).map fun e => ⟨ref.source, e.id, ref.kind⟩).foldl addRelation []

/-- The relations found in the trees, followed by those of the references. -/
def allRelations (r : Run) : List Relation := r.relations ++ r.resolve

end Run

end CodeAtlas
