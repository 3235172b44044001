import CodeAtlas.Document
import CodeAtlas.Path
import CodeAtlas.Tree

/-!
# Reading names, imports and bases off nodes

The families of languages put the same things into different nodes. A dialect knows where the name of a declaration, the
target of a call, the bindings of an import and the bases of a class stand.
-/

namespace CodeAtlas

/-- A family of languages whose trees are read alike. -/
inductive Dialect where
  | script
  | typedScript
  | python
deriving Repr, DecidableEq

/-- Why a file gives no findings. -/
inductive FileFailure where
  | unsupportedFile
  /-- No language has this name, which is given as messages give it. -/
  | unsupportedScript (name : String)
  | noParser (language : String)
  | noDialect (language : String)
  /-- The parser gave no tree. -/
  | noTree
  /-- The tree has errors and the visit is strict. -/
  | brokenTree
  /-- An import binds a node that is missing. -/
  | missingName
  /-- The field that holds a name is no text. -/
  | badNameField (kind : String)
  /-- The parser does not look for a child in a field that is no text. -/
  | badField (refusal : String)
  /-- A file that may be imported cannot be looked up. -/
  | lookup (error : LookupError)
  /-- A scope was left that was never entered. -/
  | scopeUnderflow
deriving Repr, DecidableEq

/-- What a failure says. -/
def FileFailure.message : FileFailure → String
  | unsupportedFile => "Unsupported file type"
  | unsupportedScript name => "Unsupported script language: " ++ name
  | noParser language => "Parser not available for " ++ language
  | noDialect language => "No extractor for " ++ language
  | noTree => "no tree"
  | brokenTree => "Syntax errors in file"
  | missingName => "'NoneType' object has no attribute 'text'"
  | badNameField kind => "'" ++ kind ++ "' object has no attribute 'split'"
  | badField refusal => refusal
  | lookup error => error.message
  | scopeUnderflow => "pop from empty list"

/-- The module that an import names, and the local names it binds with the names they have in the module. -/
structure ImportInfo where
  module : String
  bindings : List (String × String)
deriving Repr, DecidableEq

/-- The bases of a class or an interface. -/
structure Heritage where
  extended : List String
  implemented : List String
deriving Repr, DecidableEq

namespace Dialect

/-- The dialect of a language. -/
def ofLanguage? (language : String) : Option Dialect :=
  [("javascript", script), ("typescript", typedScript), ("tsx", typedScript), ("python", python)].lookup language

/-- Node types that are identifiers. -/
def identifierTypes : List String :=
  ["identifier", "type_identifier", "property_identifier", "private_property_identifier",
    "shorthand_property_identifier"]

/-- Node types whose names are bases and not mentions. -/
def heritageTypes : Dialect → List String
  | script => ["class_heritage"]
  | typedScript => ["class_heritage", "extends_clause", "implements_clause", "extends_type_clause"]
  | python => []

variable (source : List UInt8)

/-! ## Names -/

/-- Follows fields down from a node. -/
def descend : Node → List String → Option Node
  | n, [] => some n
  | n, field :: fields => (n.child? field).bind fun c => descend c fields

/-- The name at the end of a path of fields. Without an identifier there the name is empty. -/
def nameAt (n : Node) (path : String) : String :=
  match descend n ((Text.splitOn '.' path.toList).map String.ofList) with
  | some c => if identifierTypes.contains c.type then c.text source else ""
  | none => ""

/-- The name of a declaration; the field may be a path of fields. Without a field the name is empty. -/
def declaredName (n : Node) (nameField : Document) : Except FileFailure String :=
  if nameField.isFalsy then .ok ""
  else match nameField with
    | .text path => .ok (nameAt source n path)
    | other => .error (.badNameField other.kindName)

/-- The text of an identifier. -/
def identifier? (n : Node) : Option String := if identifierTypes.contains n.type then some (n.text source) else none

/-- The last name of a qualified script expression. -/
def scriptName? (n : Node) : Option String :=
  if n.type = "member_expression" then (n.child? "property").map (·.text source) else identifier? source n

mutual

/-- The last name of a type, generic or qualified as it may be. -/
def typedName? : Node → Option String
  | .mk type named start stop field children =>
    if type = "generic_type" then nameAmong? children
    else
      let n : Node := .mk type named start stop field children
      if type = "nested_type_identifier" then (n.child? "name").map (·.text source) else scriptName? source n

/-- The last name of the first node in the field `name`. -/
def nameAmong? : List Node → Option String
  | [] => none
  | c :: rest => if c.field = some "name" then typedName? c else nameAmong? rest

end

/-- The last name of a callee or a base. -/
def lastName? (d : Dialect) (n : Node) : Option String :=
  match d with
  | script => scriptName? source n
  | typedScript => typedName? source n
  | python => if n.type = "attribute" then (n.child? "attribute").map (·.text source) else identifier? source n

/-- The last names of nodes, without those that have none. -/
def lastNames (d : Dialect) (ns : List Node) : List String :=
  (ns.filterMap (d.lastName? source)).filter (· ≠ "")

/-! ## Imports -/

/-- A text without the given characters at its ends. -/
def trimmed (chars text : String) : String := String.ofList (Text.trimChars chars.toList text.toList)

/-- The binding of one name in braces. -/
def namedBinding? (spec : Node) : Option (String × String) :=
  (spec.child? "name").map fun name =>
    let imported := trimmed "\"'" (name.text source)
    (((spec.child? "alias").map (·.text source)).getD imported, imported)

/-- The bindings of one part of an import clause. -/
def clauseBindings (n : Node) : List (String × String) :=
  if n.type = "identifier" then [(n.text source, n.text source)]
  else if n.type = "named_imports" then
    (n.namedChildren.filter (·.type = "import_specifier")).filterMap (namedBinding? source)
  else []

/-- The import of a script statement; without a source it imports nothing. -/
def scriptImport? (n : Node) : Option ImportInfo :=
  (n.child? "source").map fun origin =>
    { module := trimmed "\"'\x60" (origin.text source)
      bindings := ((n.namedChildren.filter (·.type = "import_clause")).flatMap (·.namedChildren)).flatMap
        (clauseBindings source) }

/-- The name inside a node that may rename it. -/
def importedNode (n : Node) : Except FileFailure Node :=
  if n.type = "aliased_import" then (n.child? "name").elim (.error .missingName) .ok else .ok n

/-- What follows the last dot of a name. -/
def afterLastDot (name : String) : String := String.ofList (name.toList.reverse.takeWhile (· ≠ '.')).reverse

/-- The binding of one imported name. -/
def importedBinding (n : Node) : Except FileFailure (String × String) :=
  (importedNode n).map fun imported =>
    let name := imported.text source
    let bound := if n.type = "aliased_import" then ((n.child? "alias").map (·.text source)).getD name else name
    (bound, afterLastDot name)

/-- The import of a Python statement. A plain import binds modules, which are no elements. -/
def pythonImport? (n : Node) : Except FileFailure (Option ImportInfo) :=
  if n.type = "import_statement" then
    match n.childrenIn "name" with
    | [] => .ok none
    | first :: _ => (importedNode first).map fun name => some ⟨name.text source, []⟩
  else match n.child? "module_name" with
    | none => .ok none
    | some module => ((n.childrenIn "name").mapM (importedBinding source)).map fun bindings =>
        some ⟨module.text source, bindings⟩

/-- What an import statement imports. -/
def importInfo? (d : Dialect) (n : Node) : Except FileFailure (Option ImportInfo) :=
  match d with
  | python => pythonImport? source n
  | _ => .ok (scriptImport? source n)

/-! ## Bases -/

/-- The bases in one clause of a typed class. -/
def clauseHeritage (clause : Node) : Heritage :=
  if clause.type = "extends_clause" then
    let values := clause.childrenIn "value"
    let bases := if values.isEmpty then clause.namedChildren.filter (·.type ≠ "type_arguments") else values
    ⟨lastNames source typedScript bases, []⟩
  else if clause.type = "implements_clause" then ⟨[], lastNames source typedScript clause.namedChildren⟩
  else ⟨[], []⟩

/-- The bases in one child of a typed class or interface. -/
def typedHeritage (child : Node) : Heritage :=
  if child.type = "class_heritage" then
    let clauses := child.namedChildren.map (clauseHeritage source)
    ⟨clauses.flatMap (·.extended), clauses.flatMap (·.implemented)⟩
  else if child.type = "extends_type_clause" then ⟨lastNames source typedScript child.namedChildren, []⟩
  else ⟨[], []⟩

/-- The bases of a class or an interface. -/
def heritage (d : Dialect) (n : Node) : Heritage :=
  match d with
  | script =>
    ⟨(n.children.filter (·.type = "class_heritage")).flatMap fun c => lastNames source script c.namedChildren, []⟩
  | typedScript =>
    let parts := n.children.map (typedHeritage source)
    ⟨parts.flatMap (·.extended), parts.flatMap (·.implemented)⟩
  | python => ⟨((n.child? "superclasses").map fun c => lastNames source python c.namedChildren).getD [], []⟩

end Dialect

end CodeAtlas
