import CodeAtlas.Document.Reader
import CodeAtlas.Language.Bundled
import CodeAtlas.Language.Settings
import CodeAtlas.Workspace.Sources

/-!
# Language settings in files

The languages of an analysis come from a settings file, or from the bundled settings if no file is named. A registry that
was read once is kept: later requests get it whatever file they name.
-/

namespace CodeAtlas

/-- Why a settings file gives no registry. -/
inductive LanguagesFileError where
  | missing
  /-- A directory stands where the file should be. -/
  | isDirectory
  /-- A file stands where a directory of the path should be. -/
  | notDirectory
  /-- The file is not UTF-8. -/
  | notText
  /-- The file is no document. -/
  | unreadable (error : Document.ReadError)
  | settings (error : SettingsError)
  | lookup (error : LookupError)
deriving Repr, DecidableEq

/-- What the error says. -/
def LanguagesFileError.message : LanguagesFileError → String
  | missing => "no such file"
  | isDirectory => "is a directory"
  | notDirectory => "not a directory"
  | notText => "not a text"
  | unreadable error => error.message
  | settings error => error.message
  | lookup error => error.message

namespace Workspace

/-- The path leads through a file. -/
def crossesFile (w : Workspace) (p : Path) : Bool :=
  (List.range p.segments.length).any fun k =>
    match w.isFile ⟨p.anchor, p.segments.take k⟩ with
    | .ok found => found
    | .error _ => false

/-- Why there are no bytes of a settings file at a path. -/
def absence (w : Workspace) (p : Path) (place : Option (List String)) : LanguagesFileError :=
  if place.any w.isDirectory then .isDirectory else if w.crossesFile p then .notDirectory else .missing

/-- The bytes of a settings file. -/
def settingsBytes (w : Workspace) (p : Path) : Except LanguagesFileError (List UInt8) := do
  let place ← (w.locate p).mapError .lookup
  (place.bind w.files.get?).elim (.error (w.absence p place)) .ok

/-- The registry of a settings file. -/
def registryIn (w : Workspace) (p : Path) : Except LanguagesFileError Registry := do
  let text ← ((sourceText? (← w.settingsBytes p)).elim (.error .notText) .ok)
  let settings ← (Document.read .standard text.toList).mapError .unreadable
  (Registry.ofDocument settings).mapError .settings

/-- The registry of a settings file, or the bundled one. -/
def registry (w : Workspace) (file : Option Path) : Except LanguagesFileError Registry :=
  file.elim (.ok Bundled.registry) w.registryIn

end Workspace

/-- The registry that was read before, or else the one that is read now. -/
def Registry.keep {ε : Type} (kept : Option Registry) (read : Except ε Registry) : Except ε Registry :=
  kept.elim read .ok

end CodeAtlas
