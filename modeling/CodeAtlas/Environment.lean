import CodeAtlas.Number.Literal
import CodeAtlas.Path
import CodeAtlas.Table
import CodeAtlas.Text.Case
import CodeAtlas.Text.Quoted

/-!
# Settings from the environment

The environment binds names to texts. Every setting has a name, a default for the case that the name is not bound, and a
rule for reading its text. Settings that are no numbers where numbers are expected are errors.
-/

namespace CodeAtlas

/-- The texts that names are bound to. -/
structure Environment where
  bindings : Table String String
deriving Repr, DecidableEq

/-- Why the environment gives no settings. -/
inductive EnvironmentError where
  | notInteger (text : String)
  /-- A whole number with more digits than are read. -/
  | tooLong (digits : Nat)
  | notDecimal (text : String)
deriving Repr, DecidableEq

/-- A text in quotes. -/
def EnvironmentError.quoted (text : String) : List Char := Text.quoted text.toList

/-- What the error says; long texts are cut in the first one. -/
def EnvironmentError.message : EnvironmentError → String
  | notInteger text => "invalid literal for int() with base 10: " ++ String.ofList ((quoted text).take 200)
  | tooLong digits => Literal.tooLongMessage digits
  | notDecimal text => "could not convert string to float: " ++ String.ofList (quoted text)

/-- Why a name cannot be bound. -/
inductive BindingError where
  /-- The name or the text holds a null character. -/
  | nullCharacter
  /-- The name holds an equals sign. -/
  | badName
  | emptyName
deriving Repr, DecidableEq

/-- What the error says. -/
def BindingError.message : BindingError → String
  | nullCharacter => "embedded null byte"
  | badName => "illegal environment variable name"
  | emptyName => "[Errno 22] Invalid argument"

/-- How to reach a database. -/
structure Credentials where
  uri : String
  user : String
  password : String
deriving Repr, DecidableEq

namespace Environment

/-- The environment without names. -/
def empty : Environment := ⟨.empty⟩

/-- The environment with a name bound to a text. -/
def set (e : Environment) (name text : String) : Environment := ⟨e.bindings.put name text⟩

/-- The environment with a name bound to a text, if that is possible. -/
def bind (e : Environment) (name text : String) : Except BindingError Environment :=
  if (name ++ text).toList.contains (Char.ofNat 0) then .error .nullCharacter
  else if name.toList.contains '=' then .error .badName
  else if name = "" then .error .emptyName
  else .ok (e.set name text)

/-- The text of a name. -/
def get? (e : Environment) (name : String) : Option String := e.bindings.get? name

/-- The text of a name, or a default. -/
def getD (e : Environment) (name default : String) : String := (e.get? name).getD default

/-- The text of a name, if it is bound to a text that is not empty. -/
def present? (e : Environment) (name : String) : Option String := (e.get? name).filter (· ≠ "")

/-- The directory to analyze. -/
def workspacePath (e : Environment) : String := e.getD "WORKSPACE_PATH" "/workspace"

/-- The file with the language settings. -/
def languagesFile (e : Environment) : Option Path := (e.present? "LANGUAGES_CONFIG").map Path.parse

/-- The number of workers. -/
def workers (e : Environment) : Except EnvironmentError Int :=
  let text := e.getD "MAX_WORKERS" "1"
  (Literal.integer text).mapError fun
    | .malformed => .notInteger text
    | .tooLong digits => .tooLong digits

/-- The seconds that an analysis may take. -/
def timeout (e : Environment) : Except EnvironmentError (Option Binary64) :=
  match e.present? "ANALYSIS_TIMEOUT" with
  | none => .ok none
  | some text => (Literal.decimal? text).elim (.error (.notDecimal text)) fun t => .ok (some t)

/-- The patterns of files to leave out: between commas, without the blanks around them. -/
def exclude (e : Environment) : List String :=
  (((Text.splitOn ',' (e.getD "EXCLUDE_PATTERNS" "").toList).map Text.trim).filter fun p => !p.isEmpty).map String.ofList

/-- The ignore file is heeded: the text is the word for yes, in upper or lower case. -/
def heedsIgnoreFile (e : Environment) : Bool := Text.lower (e.getD "FOLLOW_GITIGNORE" "true").toList = "true".toList

/-- The user and the password for a database at an address. -/
def credentials (e : Environment) (uri : String) : Credentials :=
  ⟨uri, e.getD "NEO4J_USER" "neo4j", e.getD "NEO4J_PASSWORD" ""⟩

end Environment

/-- The settings of a service. -/
structure Settings where
  workspacePath : String
  languagesFile : Option Path
  workers : Int
  timeout : Option Binary64
  exclude : List String
  heedsIgnoreFile : Bool
  database : Credentials
deriving Repr, DecidableEq

/-- The settings that an environment gives. -/
def Settings.ofEnvironment (e : Environment) : Except EnvironmentError Settings := do
  return {
    workspacePath := e.workspacePath
    languagesFile := e.languagesFile
    workers := ← e.workers
    timeout := ← e.timeout
    exclude := e.exclude
    heedsIgnoreFile := e.heedsIgnoreFile
    database := e.credentials (e.getD "NEO4J_URI" "bolt://localhost:7687") }

end CodeAtlas
