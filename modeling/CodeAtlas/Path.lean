import CodeAtlas.Text.Quoted
import CodeAtlas.Text.Split

/-!
# Paths

A path is an anchor and a list of segments. Reading a path drops empty segments and single dots and keeps double dots.
`normalize` cancels the double dots of a repository path and refuses a path that climbs above the repository.
-/

namespace CodeAtlas

/-- Where a path starts: at the current place, at the root, or at the root written with exactly two slashes. -/
inductive Anchor where
  | here
  | root
  | doubleRoot
deriving Repr, DecidableEq

/-- How an anchor is written. -/
def Anchor.text : Anchor → String
  | .here => ""
  | .root => "/"
  | .doubleRoot => "//"

/-- A path: its anchor and its segments, none of them empty or a single dot. -/
structure Path where
  anchor : Anchor
  segments : List String
deriving Repr, DecidableEq

namespace Path

/-- The anchor of a written path, from the number of slashes in front. -/
def anchorOf (slashes : Nat) : Anchor :=
  if slashes = 0 then .here else if slashes = 2 then .doubleRoot else .root

/-- The segments of a written path. -/
def segmentsOf (text : String) : List String :=
  ((Text.splitOn '/' text.toList).map String.ofList).filter fun s => s ≠ "" && s ≠ "."

/-- Reads a path. -/
def parse (text : String) : Path where
  anchor := anchorOf (text.toList.takeWhile (· = '/')).length
  segments := segmentsOf text

/-- What follows the last slash of a written path. -/
def lastPart (text : String) : String := String.ofList (text.toList.reverse.takeWhile (· ≠ '/')).reverse

/-- Segments with slashes between them. -/
def joinSegments (segments : List String) : String := String.intercalate "/" segments

/-- Writes a path; the path without anchor and segments is a dot. -/
def render (p : Path) : String :=
  match p.anchor, p.segments with
  | .here, [] => "."
  | a, ss => a.text ++ joinSegments ss

/-- A path as it is written after reading it. -/
def tidy (text : String) : String := (parse text).render

/-- The path starts at the root. -/
def isAbsolute (p : Path) : Bool := p.anchor ≠ .here

/-- The last segment, empty if there is none. -/
def name (p : Path) : String := p.segments.getLast?.getD ""

/-- The part of a name from its last dot on, unless that dot is its first or its last character. -/
def suffixOf (name : List Char) : List Char :=
  let tail := name.reverse.takeWhile (· ≠ '.')
  if tail.isEmpty || name.length ≤ tail.length + 1 then [] else '.' :: tail.reverse

/-- The suffix of the last segment. -/
def suffix (p : Path) : List Char := suffixOf p.name.toList

/-- What is left of an absolute path below a base path. -/
def relativeTo? (p base : Path) : Option Path :=
  if p.anchor = base.anchor ∧ base.segments.isPrefixOf p.segments then
    some ⟨.here, p.segments.drop base.segments.length⟩
  else none

/-- A path seen from a base path: absolute paths stay as they are. -/
def under (base p : Path) : Path := if p.isAbsolute then p else ⟨base.anchor, base.segments ++ p.segments⟩

/-- The path that leads to the directory of the last segment. -/
def parent (p : Path) : Path := ⟨p.anchor, p.segments.dropLast⟩

/-- Paths in order: by their first different segments, a shorter path before the ones below it. -/
def precedes : List String → List String → Bool
  | [], _ => true
  | _ :: _, [] => false
  | a :: as, b :: bs => if a = b then precedes as bs else Text.precedes a b

/-! ## Paths inside a repository -/

/-- Cancels double dots; `kept` holds the segments kept so far, innermost first. A climb above the start is refused. -/
def cancel : (kept : List String) → List String → Option (List String)
  | kept, [] => some kept.reverse
  | kept, segment :: rest =>
    if segment = ".." then
      match kept with
      | [] => none
      | _ :: outer => cancel outer rest
    else cancel (segment :: kept) rest

/-- The segments that normalisation sees; a double root counts as a segment. -/
def normalParts (p : Path) : List String :=
  match p.anchor with
  | .doubleRoot => "//" :: p.segments
  | _ => p.segments

/-- A repository path without dots, or nothing if it climbs above the repository. The repository itself is empty. -/
def normalize (text : String) : Option String := (cancel [] (parse text).normalParts).map joinSegments

/-- A path below a directory. -/
def join (directory path : String) : String := if directory = "" then path else directory ++ "/" ++ path

/-- Everything before the last slash, without the slashes that end it unless it has nothing else. -/
def directoryChars (path : List Char) : List Char :=
  let head := (path.reverse.dropWhile (· ≠ '/')).reverse
  if head.all (· = '/') then head else (head.reverse.dropWhile (· = '/')).reverse

/-- The directory of a written path. -/
def directory (path : String) : String := String.ofList (directoryChars path.toList)

/-! ## Limits -/

/-- The number of bytes that a segment may have. -/
def segmentLimit : Nat := 255

/-- The number of bytes that a path may have. -/
def pathLimit : Nat := 4095

/-- The path has more bytes than can be looked up. -/
def isTooLong (p : Path) : Bool := pathLimit < p.render.utf8ByteSize

/-- The segment holds a character that no name can hold. -/
def isNull (segment : String) : Bool := segment.toList.contains (Char.ofNat 0)

/-- A segment holds a character that no name can hold. -/
def hasNull (p : Path) : Bool := p.segments.any isNull

end Path

/-- Why a path cannot be looked up. -/
inductive LookupError where
  | nameTooLong (path : String)
deriving Repr, DecidableEq

/-- What the error says. -/
def LookupError.message : LookupError → String
  | nameTooLong path => "[Errno 36] File name too long: " ++ String.ofList (Text.quoted path.toList)

end CodeAtlas
