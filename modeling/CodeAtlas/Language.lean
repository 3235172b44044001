import CodeAtlas.Document.Key
import CodeAtlas.Element
import CodeAtlas.Path
import CodeAtlas.Pattern
import CodeAtlas.Text.Case

/-!
# Languages

A language says what the nodes of a syntax tree mean, how comments and imports are written, and which file suffixes belong
to it. A template language has no grammar of its own: its files hold scripts of other languages. A registry holds languages
by name and finds the language of a file by its suffix.

Some settings of a language are kept as they were written. A value of the wrong kind there does no harm until it is used.
-/

namespace CodeAtlas

/-- What a node of a syntax tree is for the analysis. -/
inductive Shape where
  /-- Declares an element. -/
  | declares (kind : ElementKind)
  /-- Calls something. -/
  | call
  /-- Mentions a type. -/
  | reference
deriving Repr, DecidableEq

namespace Shape

/-- How a shape is written. -/
def name : Shape → String
  | declares kind => kind.name
  | call => "call"
  | reference => "reference"

/-- All shapes. -/
def all : List Shape := ElementKind.all.map declares ++ [call, reference]

/-- The node declares something other than an import. -/
def isEntity : Shape → Bool
  | declares kind => kind ≠ .importDef
  | _ => false

end Shape

/-- What a type of nodes means, and the field that holds its name. -/
structure NodeRule where
  shape : Shape
  nameField : Document

/-- A language of source files. -/
structure Language where
  name : String
  /-- The file suffixes of the language. -/
  extensions : Document
  /-- The grammar of its files; templates have none. -/
  grammar : Document
  /-- How its imports name modules. -/
  resolution : Document
  /-- The meaning of node types. -/
  rules : Table String NodeRule
  /-- The meaning of node types directly under an export. -/
  exportRules : Table String NodeRule
  /-- What starts a comment that fills a line. -/
  lineMarks : List Document
  /-- What opens and closes a comment. -/
  blockMarks : List (String × String)
  /-- Patterns whose first group is the specifier of an import. -/
  importPatterns : List Pattern
  /-- For templates: script language names and the languages they stand for. -/
  scripts : Document
  /-- For templates: the language of a script that names none. -/
  defaultScript : Document
  /-- What the parser says when a node is asked for its child in a field that is a value of this kind instead of a text. It
  may say nothing and find no child there, as do trees that are given as data. -/
  fieldRefusal : String → Option String := fun _ => none

namespace Language

/-- The file suffixes that can be looked up, each with its key. -/
def suffixes (l : Language) : List (Key × Document) :=
  (l.extensions.elements?.getD []).filterMap fun suffix => suffix.key?.map (·, suffix)

/-- The files hold scripts of other languages. -/
def isTemplate (l : Language) : Bool := l.grammar.isNull

/-- Imports name modules by dotted names. -/
def isDotted (l : Language) : Bool := l.resolution.isText "python"

/-- The shape of a node type; under an export statement further types have one. -/
def shape? (l : Language) (type : String) (parentType : Option String) : Option Shape :=
  match l.rules.get? type with
  | some rule => some rule.shape
  | none => if parentType = some "export_statement" then (l.exportRules.get? type).map (·.shape) else none

/-- The field that holds the name of a node of this type. -/
def nameField (l : Language) (type : String) : Document :=
  match l.rules.get? type with
  | some rule => rule.nameField
  | none => ((l.exportRules.get? type).map (·.nameField)).getD .null

end Language

/-- Languages by name, and the languages of file suffixes. -/
structure Registry where
  languages : Table String Language
  suffixes : Keyed String

namespace Registry

/-- The registry without languages. -/
def empty : Registry := ⟨.empty, .empty⟩

/-- Adds a language; its suffixes win over earlier ones. -/
def add (r : Registry) (l : Language) : Registry where
  languages := r.languages.put l.name l
  suffixes := l.suffixes.foldl (fun t s => t.put s.1 s.2 l.name) r.suffixes

/-- The registry of a list of languages. -/
def ofList (languages : List Language) : Registry := languages.foldl add empty

/-- The name of the language of a file. -/
def detect (r : Registry) (file : String) : Option String :=
  r.suffixes.get? (.text (String.ofList (Text.lower (Path.parse file).suffix)))

/-- The language of a file. -/
def languageOf (r : Registry) (file : String) : Option Language := (r.detect file).bind r.languages.get?

/-- Some language claims the file. -/
def supports (r : Registry) (file : String) : Bool := (r.detect file).isSome

/-- The grammars that there are parsers for. -/
def grammars : List String := ["javascript", "typescript", "tsx", "python"]

/-- There is a parser for the language. -/
def hasParser (r : Registry) (language : String) : Bool :=
  (r.languages.get? language).any fun l => grammars.any fun g => l.grammar.isText g

end Registry

end CodeAtlas
