import CodeAtlas.Command

/-!
# The program

Reads the environment and the workspace, runs the command, and writes the report. Parsers and a database are not linked into
the program: every file counts as one without a tree, and an export is refused.
-/

namespace CodeAtlas.Program

/-- The names that the command looks up. -/
def variableNames : List String := [
  "WORKSPACE_PATH", "REPO_NAME", "LANGUAGES_CONFIG", "MAX_WORKERS", "ANALYSIS_TIMEOUT", "EXCLUDE_PATTERNS",
  "FOLLOW_GITIGNORE", "OUTPUT_PATH", "NEO4J_URI", "NEO4J_USER", "NEO4J_PASSWORD"]

/-- The environment of the process. -/
def environment : IO Environment :=
  variableNames.foldlM (fun e name => do return (← IO.getEnv name).elim e (e.set name)) .empty

/-- The place of a path, seen from the current directory. -/
def placeOf (current : List String) (path : String) : List String :=
  let p := Path.parse path
  if p.isAbsolute then p.segments else current ++ p.segments

/-- The workspace with the file at a path, if there is one. -/
def loadFile (w : Workspace) (path : String) (place : List String) : IO Workspace := do
  try
    let bytes ← IO.FS.readBinFile path
    return { w with files := w.files.put place bytes.toList }
  catch _ => return w

/-- The workspace with everything below a directory, except for directories that are never analyzed. -/
partial def loadFolder (w : Workspace) (path : String) (place : List String) : IO Workspace := do
  let folder : IO.FS.DirEntry := ⟨path, "."⟩
  if !(← folder.path.isDir) then return w
  let mut loaded := { w with directories := w.directories ++ [place] }
  for entry in ← folder.path.readDir do
    let below := place ++ [entry.fileName]
    if ← entry.path.isDir then
      unless Workspace.neverAnalyzed.contains entry.fileName do
        loaded ← loadFolder loaded (path ++ "/" ++ entry.fileName) below
    else loaded ← loadFile loaded (path ++ "/" ++ entry.fileName) below
  return loaded

/-- The directory of a path, if it exists. -/
def loadParent (w : Workspace) (path : String) (place : List String) : IO Workspace := do
  let folder : IO.FS.DirEntry := ⟨if Path.directory path = "" then "." else Path.directory path, "."⟩
  return if ← folder.path.isDir then { w with directories := w.directories ++ [place.dropLast] } else w

/-- Everything on disk that a run looks at. -/
def workspace (e : Environment) : IO Workspace := do
  let current := (Path.parse (toString (← IO.currentDir))).segments
  let start : Workspace := { Workspace.empty with current := current }
  let w ← loadFolder start e.workspacePath (placeOf current e.workspacePath)
  let w ← match e.present? "LANGUAGES_CONFIG" with
    | some path => loadFile w path (placeOf current path)
    | none => pure w
  match e.present? "OUTPUT_PATH" with
  | some path => loadParent w path (placeOf current path)
  | none => return w

/-- Writes a report. -/
def emit (o : Output) : IO Unit :=
  match o.destination with
  | .standardOutput => IO.print o.text
  | .file path => IO.FS.writeFile path o.text

end CodeAtlas.Program

open CodeAtlas in
/-- Runs the command in the environment of the process. -/
def main : IO UInt32 := do
  let e ← Program.environment
  let around : Surroundings := ⟨← Program.workspace e, fun _ _ => none, id⟩
  let wire : Wire := ⟨some ⟨.unavailable, "no database driver is linked"⟩, [], []⟩
  let result := Command.run e around (toString (← IO.monoNanosNow)) wire
  result.output.forM Program.emit
  match result.outcome with
  | .ok () => return 0
  | .error error =>
    IO.eprintln error.message
    return 1
