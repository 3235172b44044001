import CodeAtlas.Path
import CodeAtlas.Table

/-!
# Workspaces

A workspace is a tree of directories and files as the analysis sees it: absolute paths with the bytes of their files.
Paths are followed segment by segment, so that a double dot only works below an existing directory. A segment that is too
long for a name cannot be looked up where it would have to stand in an existing directory.
-/

namespace CodeAtlas

/-- Directories and files, by the segments of their absolute paths. -/
structure Workspace where
  /-- The directories that exist even if they hold no file. -/
  directories : List (List String)
  files : Table (List String) (List UInt8)
  /-- Where paths that are not absolute start. -/
  current : List String
deriving Repr, DecidableEq

namespace Workspace

/-- The workspace with nothing in it. -/
def empty : Workspace := ⟨[], .empty, []⟩

/-- Something stands at or below the place. -/
def isDirectory (w : Workspace) (place : List String) : Bool :=
  place.isEmpty || place = w.current || w.directories.any (place.isPrefixOf ·)
    || w.files.keys.any fun file => place.isPrefixOf file && place.length < file.length

/-- Where segments lead. -/
inductive Trace where
  | found (place : List String)
  | missing
  /-- A name is too long to be looked up. -/
  | tooLong
deriving Repr, DecidableEq

/-- Follows segments from a place. -/
def follow (w : Workspace) : (place : List String) → List String → Trace
  | place, [] => .found place
  | place, segment :: rest =>
    if !w.isDirectory place then .missing
    else if Path.segmentLimit < segment.utf8ByteSize then .tooLong
    else follow w (if segment = ".." then place.dropLast else place ++ [segment]) rest

/-- The place that a path leads to. -/
def locate (w : Workspace) (p : Path) : Except LookupError (Option (List String)) :=
  if p.hasNull then .ok none
  else if p.isTooLong then .error (.nameTooLong p.render)
  else match w.follow (if p.isAbsolute then [] else w.current) p.segments with
    | .found place => .ok (some place)
    | .missing => .ok none
    | .tooLong => .error (.nameTooLong p.render)

/-- The bytes of the file at a path. -/
def read (w : Workspace) (p : Path) : Except LookupError (Option (List UInt8)) :=
  (w.locate p).map (·.bind w.files.get?)

/-- The path leads to a file. -/
def isFile (w : Workspace) (p : Path) : Except LookupError Bool := (w.read p).map (·.isSome)

/-- The directory that a path leads to. -/
def folder (w : Workspace) (p : Path) : Except LookupError (Option (List String)) :=
  (w.locate p).map (·.filter w.isDirectory)

/-- The path leads to something. -/
def hasPath (w : Workspace) (p : Path) : Except LookupError Bool :=
  (w.locate p).map fun place => place.any fun place => w.isDirectory place || w.files.contains place

/-! ## Writing -/

/-- Why a file cannot be written. -/
inductive WriteError where
  | lookup (error : LookupError)
  /-- A name holds a character that no name can hold. -/
  | nullInName
  /-- A file stands where the directory of the file should be. -/
  | fileInPlace
  /-- The path leads through a file. -/
  | throughFile
  /-- A directory stands where the file should be. -/
  | isDirectory
deriving Repr, DecidableEq

/-- What the error says. -/
def WriteError.message : WriteError → String
  | lookup error => error.message
  | nullInName => "embedded null byte"
  | fileInPlace => "a file stands where a directory is needed"
  | throughFile => "the path leads through a file"
  | isDirectory => "a directory stands in place of the file"

/-- The workspace with a directory at the place. -/
def withFolder (w : Workspace) (place : List String) : Workspace :=
  if w.isDirectory place then w else { w with directories := w.directories ++ [place] }

/-- Follows segments to a directory; directories that are missing are made, up to the first that cannot be. The path is given
for messages. -/
def makeFolder (path : Path) (w : Workspace) : (place : List String) → List String →
    Workspace × Except WriteError (List String)
  | place, [] => (w, .ok place)
  | place, segment :: rest =>
    let next := if segment = ".." then place.dropLast else place ++ [segment]
    if Path.isNull segment then (w, .error .nullInName)
    else if Path.segmentLimit < segment.utf8ByteSize then (w, .error (.lookup (.nameTooLong path.render)))
    else if w.files.contains next then (w, .error (if rest.isEmpty then .fileInPlace else .throughFile))
    else makeFolder path (w.withFolder next) next rest

/-- Writes a file at a written path below a base directory; directories that are missing are made. What follows the last
slash has to be a name. -/
def write (w : Workspace) (base : Path) (path : String) (bytes : List UInt8) : Workspace × Except WriteError Unit :=
  let whole := base.under (Path.parse path)
  let name := Path.lastPart path
  match makeFolder whole w [] (base.under (Path.parse (Path.directory path))).segments with
  | (w, .error e) => (w, .error e)
  | (w, .ok folder) =>
    let place := folder ++ [name]
    if Path.isNull name then (w, .error .nullInName)
    else if whole.isTooLong || Path.segmentLimit < name.utf8ByteSize then
      (w, .error (.lookup (.nameTooLong whole.render)))
    else if ["", ".", ".."].contains name || w.isDirectory place then (w, .error .isDirectory)
    else ({ w with files := w.files.put place bytes }, .ok ())

/-! ## Listing -/

/-- The files below a directory: the segments of their paths from there, and their bytes. -/
def filesBelow (w : Workspace) (place : List String) : List (List String × List UInt8) :=
  w.files.entries.filterMap fun e =>
    if place.isPrefixOf e.1 && place.length < e.1.length then some (e.1.drop place.length, e.2) else none

end Workspace

end CodeAtlas
