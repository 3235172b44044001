import CodeAtlas.Table

/-!
# Code elements and their relations

What the analysis of one file finds: elements (declared things and imports), relations between elements given by their
ids, references to elements that are only known by name yet, and the names that imports bind.
-/

namespace CodeAtlas

/-- What an element is. -/
inductive ElementKind where
  | classDef
  | interfaceDef
  | functionDef
  | methodDef
  | variableDef
  | propertyDef
  | typeDef
  | enumDef
  | importDef
deriving Repr, DecidableEq

namespace ElementKind

/-- How a kind is written. -/
def name : ElementKind → String
  | classDef => "class"
  | interfaceDef => "interface"
  | functionDef => "function"
  | methodDef => "method"
  | variableDef => "variable"
  | propertyDef => "property"
  | typeDef => "type"
  | enumDef => "enum"
  | importDef => "import"

/-- All kinds, in their usual order. -/
def all : List ElementKind :=
  [classDef, interfaceDef, functionDef, methodDef, variableDef, propertyDef, typeDef, enumDef, importDef]

/-- Reads a kind. -/
def ofName? (text : String) : Option ElementKind := all.find? fun k => k.name = text

theorem mem_all (k : ElementKind) : k ∈ all := by cases k <;> simp [all]

theorem ofName?_name (k : ElementKind) : ofName? k.name = some k := by cases k <;> decide

end ElementKind

/-- How two elements are related. -/
inductive RelationKind where
  | contains
  | calls
  | inherits
  | implements
  | imports
  | references
deriving Repr, DecidableEq

namespace RelationKind

/-- How a kind is written. -/
def name : RelationKind → String
  | contains => "contains"
  | calls => "calls"
  | inherits => "inherits"
  | implements => "implements"
  | imports => "imports"
  | references => "references"

/-- All kinds, in their usual order. -/
def all : List RelationKind := [contains, calls, inherits, implements, imports, references]

/-- Reads a kind. -/
def ofName? (text : String) : Option RelationKind := all.find? fun k => k.name = text

theorem mem_all (k : RelationKind) : k ∈ all := by cases k <;> simp [all]

theorem ofName?_name (k : RelationKind) : ofName? k.name = some k := by cases k <;> decide

end RelationKind

/-- Where an element stands in its file: lines count from one, columns count bytes from zero. -/
structure Location where
  startLine : Int
  startColumn : Int
  endLine : Int
  endColumn : Int
deriving Repr, DecidableEq

/-- A declared thing or an import of a file. -/
structure Element where
  id : String
  /-- The declared name, empty if there is none. -/
  name : String
  kind : ElementKind
  file : String
  location : Location
  /-- The source text of the declaration. -/
  implementation : String
deriving Repr, DecidableEq

/-- A directed relation between two elements, given by their ids. -/
structure Relation where
  source : String
  target : String
  kind : RelationKind
deriving Repr, DecidableEq

/-- A relation whose target is only known by name. -/
structure Reference where
  source : String
  targetName : String
  kind : RelationKind
  file : String
  /-- The file that an import names, if it is known. -/
  modulePath : Option String
  /-- The name of the target in that file. -/
  importedName : Option String
deriving Repr, DecidableEq

/-- A local name that an import binds. -/
structure Binding where
  localName : String
  importedName : String
  specifier : String
  /-- The repository file of the specifier, if there is one. -/
  modulePath : Option String
deriving Repr, DecidableEq

/-- What a visit of a file finds. -/
structure Findings where
  elements : List Element
  relations : List Relation
  references : List Reference
  bindings : Table String Binding
deriving Repr, DecidableEq

/-- Nothing found. -/
def Findings.none : Findings := ⟨[], [], [], .empty⟩

/-- The outcome of visiting a file: its findings, or why there are none. -/
structure FileResult where
  file : String
  outcome : Except String Findings

/-- The visit succeeded. -/
def FileResult.succeeded (r : FileResult) : Bool := r.outcome.isOk

/-- The findings of a result, nothing after a failure. -/
def FileResult.findings (r : FileResult) : Findings := r.outcome.toOption.getD .none

end CodeAtlas
