import CodeAtlas.Language
import CodeAtlas.Path.Glob
import CodeAtlas.Path.Ignore
import CodeAtlas.Text.Utf8
import CodeAtlas.Workspace

/-!
# Source files of a workspace

Which files below a directory are analyzed: those of a known language that lie in no directory of dependencies or build
products, that the ignore file of the directory does not leave out, that no exclusion pattern matches, and whose bytes are
UTF-8. They are listed in the order of their paths, segment by segment.
-/

namespace CodeAtlas

/-- Why source files cannot be collected. -/
inductive CollectError where
  | notDirectory (directory : String)
  | emptyPattern
  /-- A rule of the ignore file cannot be understood. -/
  | badRule (error : PatternError)
  | lookup (error : LookupError)
deriving Repr, DecidableEq

/-- What the error says. -/
def CollectError.message : CollectError → String
  | notDirectory directory => "Not a directory: " ++ directory
  | emptyPattern => "empty pattern"
  | badRule error => error.message
  | lookup error => error.message

/-- Which files are wanted. -/
structure Selection where
  /-- Glob patterns of files to leave out. -/
  exclude : List String
  /-- Heed the ignore file. -/
  heedIgnoreFile : Bool
deriving Repr, DecidableEq

namespace Workspace

/-- Names of directories and files that are never analyzed. -/
def neverAnalyzed : List String :=
  ["node_modules", ".git", "__pycache__", ".pytest_cache", "venv", ".venv", "dist", "build", ".next", ".nuxt", "vendor"]

/-- The rules of the ignore file of a directory. A file that cannot be read has no rules. -/
def ignoreRules (w : Workspace) (directory : List String) : List IgnoreRule :=
  (((w.files.get? (directory ++ [".gitignore"])).bind Text.decode?).bind fun text =>
    Ignore.rulesOf (Text.unifyNewlines text)).getD []

/-- Some pattern matches; patterns after the first that matches are not looked at. -/
def matchesAny (segments : List String) : List String → Except CollectError Bool
  | [] => .ok false
  | pattern :: rest =>
    match Glob.matches? pattern segments with
    | none => .error .emptyPattern
    | some true => .ok true
    | some false => matchesAny segments rest

/-- The file with these segments is wanted. -/
def wants (registry : Registry) (rules : List IgnoreRule) (exclude : List String) (segments : List String) :
    Except CollectError Bool :=
  let path := Path.joinSegments segments
  if !registry.supports path || segments.any (neverAnalyzed.contains ·) then .ok false
  else do
    if ← (Ignore.ignores rules path.toList).mapError .badRule then return false
    else return !(← matchesAny segments exclude)

/-- The text of a source file. -/
def sourceText? (bytes : List UInt8) : Option String :=
  (Text.decode? bytes).map fun text => String.ofList (Text.unifyNewlines text)

/-- The wanted files among the given ones, with their texts. Files that are not UTF-8 are passed over. -/
def wantedTexts (registry : Registry) (rules : List IgnoreRule) (exclude : List String) :
    List (List String × List UInt8) → Except CollectError (List (String × String))
  | [] => .ok []
  | (segments, bytes) :: rest => do
    let wanted ← wants registry rules exclude segments
    let others ← wantedTexts registry rules exclude rest
    match wanted, sourceText? bytes with
    | true, some text => return (Path.joinSegments segments, text) :: others
    | _, _ => return others

/-- The source files below a directory: their paths from there and their texts. -/
def collect (w : Workspace) (registry : Registry) (directory : String) (selection : Selection) :
    Except CollectError (Table String String) := do
  match ← (w.folder (Path.parse directory)).mapError .lookup with
  | none => throw (.notDirectory directory)
  | some place =>
    let rules := if selection.heedIgnoreFile then w.ignoreRules place else []
    let files := (w.filesBelow place).mergeSort fun a b => Path.precedes a.1 b.1
    (wantedTexts registry rules selection.exclude files).map .ofList

end Workspace

end CodeAtlas
