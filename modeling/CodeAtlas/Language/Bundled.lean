import CodeAtlas.Language

/-!
# The bundled languages

TypeScript, its variant with markup, JavaScript, Vue templates and Python.
-/

namespace CodeAtlas.Bundled

open Regex

/-! ## Patterns of imports -/

/-- A quote of either kind. -/
def quote : Regex := .one (.ofChars "'\"")

/-- The specifier between quotes, remembered as the first group. -/
def specifier : Regex := .group 1 (plus (.notChars "'\"\n"))

/-- Blanks, possibly none. -/
def blanks : Regex := star .blank

/-- At least one blank. -/
def blanks1 : Regex := plus .blank

/-- What may stand between an import keyword and `from`. -/
def clauseSet : CharSet :=
  ⟨false, [.word] ++ (CharSet.ofChars "*\x7b\x7d").items ++ [.blank] ++ (CharSet.ofChars ",$").items⟩

/-- The bindings of an import up to `from`. -/
def importClause : Regex := all [.chars false 1 none clauseSet, blanks1, literal "from", blanks]

/-- The keyword that starts an import statement. -/
def importKeyword : Regex := .alt (literal "import") (literal "export")

/-- An import or export statement. -/
def importStatement : Pattern :=
  ⟨all [.place .wordEdge, importKeyword, blanks1, opt importClause, quote, specifier, quote], 1⟩

/-- An import or export statement that may import types only. -/
def typedImportStatement : Pattern :=
  ⟨all [.place .wordEdge, importKeyword, blanks1, opt (all [literal "type", blanks1]), opt importClause, quote,
    specifier, quote], 1⟩

/-- A call of a loading function with a quoted specifier. -/
def loadCall (function : String) : Pattern :=
  ⟨.seq (.place .wordEdge)
    (all [literal function, blanks, literal "(", blanks, quote, specifier, quote, blanks, literal ")"]), 1⟩

/-- A space or a tab. -/
def gapSet : CharSet := .ofChars " \t"

/-- Spaces and tabs, possibly none. -/
def gap : Regex := star gapSet

/-- At least one space or tab. -/
def gap1 : Regex := plus gapSet

/-- Characters of dotted names. -/
def dottedSet : CharSet := CharSet.word.withChars "."

/-- Imports of names from a module: the module is the first group, the names are the second or the third. -/
def fromStatement : Pattern :=
  ⟨all [.place .lineStart, gap, literal "from", gap1,
    .group 1 (.alt (all [plus (.ofChars "."), star dottedSet]) (plus dottedSet)),
    gap1, literal "import", .place .wordEdge, gap,
    .alt (all [literal "(", .group 2 (star ⟨false, [.word, .blank, .range ',' ',']⟩), literal ")"])
      (.group 3 (star (CharSet.word.withChars " \t,*")))], 3⟩

/-- A module with the name it is bound to. -/
def moduleItem : List Regex := [plus dottedSet, opt (all [gap1, literal "as", gap1, plus .word])]

/-- Imports of whole modules, all of them in the first group. -/
def modulesStatement : Pattern :=
  ⟨all [.place .lineStart, gap, literal "import", gap1,
    .group 1 (all (moduleItem ++ [.many true 0 none (all ([gap, literal ",", gap] ++ moduleItem))]))], 1⟩

/-! ## Meanings of node types -/

/-- The rule of a declaration named by the given field. -/
def declares (kind : ElementKind) (field : String) : NodeRule := ⟨.declares kind, .text field⟩

/-- Classes, functions and variables of the script languages. -/
def scriptRules : List (String × NodeRule) := [
  ("class_declaration", declares .classDef "name"),
  ("function_declaration", declares .functionDef "name"),
  ("generator_function_declaration", declares .functionDef "name"),
  ("method_definition", declares .methodDef "name"),
  ("variable_declarator", declares .variableDef "name"),
  ("import_statement", declares .importDef "source"),
  ("call_expression", ⟨.call, .text "function"⟩),
  ("new_expression", ⟨.call, .text "constructor"⟩)]

/-- What typed scripts declare beyond that. -/
def typedRules : List (String × NodeRule) := [
  ("abstract_class_declaration", declares .classDef "name"),
  ("interface_declaration", declares .interfaceDef "name"),
  ("function_signature", declares .functionDef "name"),
  ("method_signature", declares .methodDef "name"),
  ("abstract_method_signature", declares .methodDef "name"),
  ("public_field_definition", declares .propertyDef "name"),
  ("type_alias_declaration", declares .typeDef "name"),
  ("enum_declaration", declares .enumDef "name"),
  ("type_identifier", ⟨.reference, .null⟩)]

/-- Expressions that declare something when they are exported. -/
def exportRules : List (String × NodeRule) := [
  ("class", declares .classDef "name"),
  ("function", declares .functionDef "name"),
  ("function_expression", declares .functionDef "name"),
  ("generator_function", declares .functionDef "name"),
  ("arrow_function", ⟨.declares .functionDef, .null⟩)]

/-! ## Languages -/

/-- What the script languages have in common. -/
def script (name : String) (extensions : List String) (rules : List (String × NodeRule)) (statement : Pattern) :
    Language where
  name := name
  extensions := .texts extensions
  grammar := .text name
  resolution := .text "javascript"
  rules := .ofList rules
  exportRules := .ofList exportRules
  lineMarks := [.text "//"]
  blockMarks := [("/*", "*/")]
  importPatterns := [statement, loadCall "require", loadCall "import"]
  scripts := .object []
  defaultScript := .null

/-- TypeScript. -/
def typescript : Language :=
  script "typescript" [".ts", ".mts", ".cts"] (scriptRules ++ typedRules) typedImportStatement

/-- TypeScript with markup. -/
def tsx : Language := script "tsx" [".tsx"] (scriptRules ++ typedRules) typedImportStatement

/-- JavaScript. -/
def javascript : Language :=
  script "javascript" [".js", ".jsx", ".mjs", ".cjs"]
    (scriptRules ++ [("field_definition", declares .propertyDef "property")]) importStatement

/-- Vue templates. -/
def vue : Language :=
  { script "vue" [".vue"] [] typedImportStatement with
    grammar := .null
    exportRules := .empty
    scripts := .object [
      ("ts", .text "typescript"), ("tsx", .text "tsx"), ("js", .text "javascript"), ("jsx", .text "javascript")]
    defaultScript := .text "javascript" }

/-- Python. -/
def python : Language where
  name := "python"
  extensions := .texts [".py"]
  grammar := .text "python"
  resolution := .text "python"
  rules := .ofList [
    ("class_definition", declares .classDef "name"),
    ("function_definition", declares .functionDef "name"),
    ("assignment", declares .variableDef "left"),
    ("import_statement", declares .importDef "name"),
    ("import_from_statement", declares .importDef "module_name"),
    ("call", ⟨.call, .text "function"⟩)]
  exportRules := .empty
  lineMarks := [.text "#"]
  blockMarks := [("\"\"\"", "\"\"\""), ("'''", "'''")]
  importPatterns := [fromStatement, modulesStatement]
  scripts := .object []
  defaultScript := .null

/-- All bundled languages. -/
def registry : Registry := .ofList [typescript, tsx, javascript, vue, python]

end CodeAtlas.Bundled
