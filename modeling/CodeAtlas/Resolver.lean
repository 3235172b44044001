import CodeAtlas.Path
import CodeAtlas.Table

/-!
# Resolving imports to repository files

A resolver knows the root of a repository and which repository paths are files. It turns what an import names, seen from
the directory of the importing file, into the path of a repository file. Packages from elsewhere, missing files and paths
that climb above the root resolve to nothing.

Two ways of naming modules are read: specifiers, which are paths whose file suffix may be left out (`Resolver.resolve`),
and dotted names, whose leading dots climb directories (`Resolver.resolveDotted`, `Resolver.resolveNames`). Both list
their candidate files in order and take the first that exists. A candidate that cannot be looked up is an error, unless an
earlier one exists.
-/

namespace CodeAtlas

/-- What resolution depends on. -/
structure Resolver where
  /-- The directory of the repository. -/
  root : Path
  /-- The repository path is a file. -/
  isFile : String → Except LookupError Bool
  /-- Starts of specifiers that stand for directories of the repository. -/
  aliases : Table String String
  /-- The suffixes that a specifier may leave out, first choice first. -/
  extensions : List String

namespace Resolver

/-- The suffixes tried when none are given. -/
def sourceExtensions : List String := [".ts", ".tsx", ".js", ".jsx"]

/-- The suffixes of a specifier that names its file in full. -/
def fullExtensions : List String := sourceExtensions ++ [".mts", ".cts", ".mjs", ".cjs", ".vue"]

/-- The aliases used when none are given. -/
def standardAliases : Table String String := .ofList [("@/", "src/"), ("~/", "src/")]

/-- A resolver over a list of files that are known to exist. -/
def ofKnown (root : String) (known : List String) (aliases : Option (Table String String))
    (extensions : List String) : Resolver where
  root := Path.parse root
  isFile := let files := known.map Path.tidy
    fun path => .ok (files.contains path)
  aliases := aliases.getD standardAliases
  extensions := extensions

/-- A resolver that asks for the existence of whole paths. -/
def onDisk (root : String) (exists? : Path → Except LookupError Bool) (aliases : Option (Table String String))
    (extensions : List String) : Resolver where
  root := Path.parse root
  isFile path := exists? ((Path.parse root).under (Path.parse path))
  aliases := aliases.getD standardAliases
  extensions := extensions

/-- A directory as a repository path; directories outside the repository give nothing. -/
def relativeDirectory (r : Resolver) (directory : String) : Option String :=
  let p := Path.parse directory
  let inside := if p.isAbsolute then p.relativeTo? r.root else some p
  inside.bind fun q => Path.normalize q.render

/-- The first of some repository paths that is a file. -/
def firstFile (r : Resolver) : List String → Except LookupError (Option String)
  | [] => .ok none
  | file :: rest => do if ← r.isFile file then return some file else firstFile r rest

/-! ## Specifiers -/

/-- The specifier starts at the importing file's directory. -/
def isRelative (specifier : String) : Bool :=
  specifier = "." || specifier = ".." || "./".toList.isPrefixOf specifier.toList
    || "../".toList.isPrefixOf specifier.toList

/-- The alias that a specifier starts with, if any: the text that takes its place and the rest of the specifier. -/
def aliasFor (specifier : List Char) : List (String × String) → Option (List Char)
  | [] => none
  | (start, replacement) :: rest =>
    if start.toList.isPrefixOf specifier then some (replacement.toList ++ specifier.drop start.length)
    else aliasFor specifier rest

/-- The path that a specifier names, before suffixes are tried. -/
def basePath (r : Resolver) (specifier directory : String) : Option String :=
  if isRelative specifier then Path.normalize (Path.join directory specifier)
  else if "/".toList.isPrefixOf specifier.toList then
    Path.normalize (String.ofList (specifier.toList.dropWhile (· = '/')))
  else match aliasFor specifier.toList r.aliases.entries with
    | some path => Path.normalize (String.ofList path)
    | none => Path.normalize specifier

/-- The path ends in a suffix that names its file in full. -/
def namesFile (base : String) : Bool := fullExtensions.any fun e => e.toList.isSuffixOf base.toList

/-- The files a path may stand for: itself, itself with a suffix, an index file below it. -/
def candidates (extensions : List String) (base : String) : List String :=
  (if base ≠ "" && namesFile base then [base] else [])
    ++ (if base ≠ "" then extensions.map (base ++ ·) else [])
    ++ extensions.map fun e => Path.join base ("index" ++ e)

/-- The path that a specifier names for a file of the given directory, before suffixes are tried. -/
def target? (r : Resolver) (specifier directory : String) : Option String := do
  let here ← r.relativeDirectory directory
  if specifier = "" then none else r.basePath specifier here

/-- The file that a specifier names for a file of the given directory. -/
def resolve (r : Resolver) (specifier directory : String) : Except LookupError (Option String) :=
  r.firstFile (((r.target? specifier directory).map (candidates r.extensions)).getD [])

/-! ## Dotted names -/

/-- The number of leading dots. -/
def dotLevel (module : List Char) : Nat := (module.takeWhile (· = '.')).length

/-- The path of the name after the leading dots. -/
def dottedPath (module : List Char) : List Char := Text.replaceChar '.' '/' (module.dropWhile (· = '.'))

/-- The directory some levels up. -/
def climb : Nat → String → Option String
  | 0, directory => some directory
  | n + 1, directory => (Path.normalize (Path.join directory "..")).bind (climb n)

/-- The places where a dotted name is looked for. -/
def dottedBases (module : String) (here : String) : Option (List String) :=
  let path := String.ofList (dottedPath module.toList)
  match dotLevel module.toList with
  | 0 => some [path, Path.join "src" path]
  | n + 1 => (climb n here).map fun base => [if path = "" then base else Path.join base path]

/-- The files of a module at a place: the module's own file, or the file of the package. -/
def moduleFiles (named : Bool) (base : String) : List String :=
  (if named then [base ++ ".py"] else []) ++ [Path.join base "__init__.py"]

/-- The files that a dotted name may stand for, seen from a file of the given directory. -/
def dottedCandidates (r : Resolver) (module directory : String) : Option (List String) := do
  let here ← r.relativeDirectory directory
  let bases ← if module = "" then none else dottedBases module here
  return bases.flatMap (moduleFiles !(dottedPath module.toList).isEmpty)

/-- The file of a dotted name for a file of the given directory. -/
def resolveDotted (r : Resolver) (module directory : String) : Except LookupError (Option String) :=
  r.firstFile ((r.dottedCandidates module directory).getD [])

/-- The dotted name of a member of a module. -/
def submodule (module name : String) : String :=
  if ".".toList.isSuffixOf module.toList then module ++ name else module ++ "." ++ name

/-- The file of an imported name that is itself a module. -/
def resolveMember (r : Resolver) (module directory name : String) : Except LookupError (Option String) :=
  if name = "*" then .ok none else r.resolveDotted (submodule module name) directory

/-- Appends a value that is not there yet. -/
def addNew (xs : List String) (x : String) : List String := if xs.contains x then xs else xs ++ [x]

/-- The files that `from module import names` reaches: the names that are modules, and the module itself if a name is
none of these or nothing else was found. -/
def resolveNames (r : Resolver) (module : String) (names : List String) (directory : String) :
    Except LookupError (List String) := do
  let members ← names.mapM (r.resolveMember module directory)
  let found := (members.filterMap id).foldl addNew []
  if members.any Option.isNone || found.isEmpty then
    return ((← r.resolveDotted module directory).map (addNew found)).getD found
  else return found

end Resolver

end CodeAtlas
