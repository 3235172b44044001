import CodeAtlas.Language
import CodeAtlas.Pattern.Reader

/-!
# Languages from settings

A registry is written down as an object that maps language names to their settings. Reading stops at the first thing that
is missing or malformed. Where a list is expected, any value that is made of other values will do: a text gives its
characters and an object the names of its fields.
-/

namespace CodeAtlas

/-- Why settings cannot be read. -/
inductive SettingsError where
  /-- A required setting is missing. -/
  | missing (key : String)
  /-- A node shape that does not exist; `shown` is the value as it is quoted. -/
  | unknownShape (shown : String)
  /-- An object was expected. -/
  | noObject
  /-- A value of another kind was expected. -/
  | wrongKind
  /-- A pattern that cannot be read. -/
  | badPattern (error : PatternError)
  /-- A block comment with fewer than two marks. -/
  | tooFewMarks (count : Nat)
  /-- A block comment with more than two marks. -/
  | tooManyMarks
deriving Repr, DecidableEq

namespace SettingsError

/-- What the error says. -/
def message : SettingsError → String
  | missing key => String.ofList (Text.quoted key.toList)
  | unknownShape shown => shown ++ " is not a valid NodeShape"
  | noObject => "an object was expected"
  | wrongKind => "a value of another kind was expected"
  | badPattern error => error.message
  | tooFewMarks count => "not enough values to unpack (expected 2, got " ++ toString count ++ ")"
  | tooManyMarks => "too many values to unpack (expected 2)"

end SettingsError

namespace LanguageSettings

/-- The fields of an object. -/
def fieldsOf : Document → Except SettingsError (List (String × Document))
  | .object fields => .ok fields
  | _ => .error .noObject

/-- The fields of an object; what counts as false is an object without fields. -/
def fieldsOrNone (d : Document) : Except SettingsError (List (String × Document)) :=
  if d.isFalsy then .ok [] else fieldsOf d

/-- The values that a value is made of. -/
def elementsOf (d : Document) : Except SettingsError (List Document) := d.elements?.elim (.error .wrongKind) .ok

/-- A required setting. -/
def require (fields : List (String × Document)) (key : String) : Except SettingsError Document :=
  (Document.field? fields key).elim (.error (.missing key)) .ok

/-- An optional setting. -/
def optional (fields : List (String × Document)) (key : String) : Document :=
  (Document.field? fields key).getD .null

/-- A text. -/
def textOf : Document → Except SettingsError String
  | .text s => .ok s
  | _ => .error .wrongKind

/-- A node shape. -/
def shapeOf (d : Document) : Except SettingsError Shape :=
  (Shape.all.find? fun s => d.isText s.name).elim (.error (.unknownShape d.shown)) .ok

/-- The meaning of one node type. -/
def ruleOf (entry : Document) : Except SettingsError NodeRule :=
  match entry with
  | .object fields => do return ⟨← shapeOf (← require fields "shape"), optional fields "name_field"⟩
  | _ => .error .wrongKind

/-- The meanings of node types. -/
def rulesOf (fields : List (String × Document)) : Except SettingsError (Table String NodeRule) := do
  let rules ← fields.mapM fun e => (ruleOf e.2).map fun rule => (e.1, rule)
  return .ofList rules

/-- A pattern of imports; it is matched line by line. -/
def patternOf (d : Document) : Except SettingsError Pattern := do
  (Pattern.read .everyLine (← textOf d).toList).mapError .badPattern

/-- The opening and closing marks of a block comment. -/
def marksOf (d : Document) : Except SettingsError (String × String) := do
  match ← elementsOf d with
  | [opening, closing] => return (← textOf opening, ← textOf closing)
  | [] => throw (.tooFewMarks 0)
  | [_] => throw (.tooFewMarks 1)
  | _ => throw .tooManyMarks

/-- The values of a setting, none if it is missing. -/
def elementsIn (fields : List (String × Document)) (key : String) : Except SettingsError (List Document) :=
  (Document.field? fields key).elim (.ok []) elementsOf

/-- The names and languages of scripts; what counts as false stands for no scripts. -/
def scriptsOf (d : Document) : Document := if d.isFalsy then .object [] else d

/-- Reads the settings of a language. -/
def language (name : String) (settings : Document) : Except SettingsError Language := do
  let fields ← match settings with
    | .object fields => .ok fields
    | _ => .error .wrongKind
  let extensions ← require fields "extensions"
  let grammar ← require fields "tree_sitter_language"
  let nodeShapes ← require fields "node_shapes"
  let comments ← require fields "comment_patterns"
  let patterns ← require fields "import_patterns"
  let rules ← rulesOf (← fieldsOf nodeShapes)
  let exportRules ← rulesOf (← fieldsOrNone (optional fields "export_default_shapes"))
  let importPatterns ← (← elementsOf patterns).mapM patternOf
  let comments ← fieldsOf comments
  let blockMarks ← (← elementsIn comments "block").mapM marksOf
  let lineMarks ← elementsIn comments "line"
  return {
    name := name
    extensions := extensions
    grammar := grammar
    resolution := (Document.field? fields "resolution").getD (.text "javascript")
    rules := rules
    exportRules := exportRules
    lineMarks := lineMarks
    blockMarks := blockMarks
    importPatterns := importPatterns
    scripts := scriptsOf (optional fields "script_languages")
    defaultScript := optional fields "default_script_language" }

/-- All file suffixes of a language can be looked up. -/
def checkSuffixes (l : Language) : Except SettingsError Unit := do
  if (← elementsOf l.extensions).all fun suffix => suffix.key?.isSome then return else throw .wrongKind

end LanguageSettings

/-- Adds the language with the given settings. -/
def Registry.addSettings (r : Registry) (entry : String × Document) : Except SettingsError Registry := do
  let l ← LanguageSettings.language entry.1 entry.2
  LanguageSettings.checkSuffixes l
  return r.add l

/-- Reads a registry. -/
def Registry.ofDocument (settings : Document) : Except SettingsError Registry := do
  (← LanguageSettings.fieldsOf settings).foldlM Registry.addSettings .empty

end CodeAtlas
