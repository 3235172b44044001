import CodeAtlas.Path.Bracket
import CodeAtlas.Pattern.Occurs
import CodeAtlas.Pattern.Reader
import CodeAtlas.Text.Blank
import CodeAtlas.Text.Split

/-!
# Ignore files

An ignore file lists rules, one a line, that tell which files of a repository to leave out. A rule is turned into the
written form of a pattern, which is searched for in the path of a file. Rules that start with an exclamation mark take
files back in; the last rule that matches decides.
-/

namespace CodeAtlas

/-- A rule of an ignore file. A set may be written so that the rule has no pattern. -/
structure IgnoreRule where
  negated : Bool
  pattern : Except PatternError Pattern

namespace Ignore

/-- A character other than a slash. -/
def inSegment : CharSet := .notChars "/"

/-- Two or more stars. -/
def stars : Regex := .chars true 2 none (.ofChars "*")

/-- Stars after something in the same segment. -/
def starsAfter : Pattern := ⟨.all [.group 1 (.one inSegment), stars], 1⟩

/-- Stars before something in the same segment. -/
def starsBefore : Pattern := ⟨.all [stars, .group 1 (.one inSegment)], 1⟩

/-- What the first group captured. -/
def captured (m : Match) : List Char := ((m.group? 1).map (·.text)).getD []

/-- Several stars inside a segment are one star. -/
def foldStars (text : List Char) : List Char :=
  starsBefore.replaceAll (fun m => '*' :: captured m) (starsAfter.replaceAll (fun m => captured m ++ ['*']) text)

/-- Drops the trailing spaces of a rule, from place `i` down, unless a backslash stands before them. -/
def trimSpaces : (i : Nat) → (drop : Bool) → List Char → List Char
  | i + 2, drop, text =>
    if text[i + 2]? = some ' ' then
      if text[i + 1]? = some '\\' then trimSpaces i false (text.take (i + 1) ++ text.drop (i + 2))
      else trimSpaces (i + 1) drop (if drop then text.take (i + 2) else text)
    else text
  | _, _, text => text

/-- A rule in parts: what it looks for, whether it is bound to the root, and whether it names a directory. -/
structure Parts where
  text : List Char
  anchored : Bool
  directory : Bool

/-- The text without a first character that is the given one; there has to be a first character. -/
def dropFirst (c : Char) : List Char → Option (List Char)
  | [] => none
  | d :: rest => some (if d = c then rest else d :: rest)

/-- The text without a last character that is a slash; there has to be a last character. -/
def dropLastSlash (text : List Char) : Option (List Char) :=
  text.getLast?.map fun c => if c = '/' then text.dropLast else text

/-- Drops two stars at the start. -/
def dropStars : List Char → Option (Bool × List Char)
  | [] => none
  | '*' :: '*' :: rest => some (true, rest)
  | text => some (false, text)

/-- Drops the backslash before a mark at the start; a backslash has to be followed by something. -/
def unescapeMark : List Char → Option (List Char)
  | [] => none
  | ['\\'] => none
  | '\\' :: c :: rest => some (if c = '#' ∨ c = '!' then c :: rest else '\\' :: c :: rest)
  | text => some text

/-- Takes a rule apart. A rule that runs out of characters on the way has no parts. -/
def partsOf (text : List Char) : Option Parts := do
  let last ← text.getLast?
  let anchored := text.dropLast.contains '/'
  let text ← dropFirst '/' text
  let (floating, text) ← dropStars text
  let text ← dropFirst '/' text
  let text ← dropLastSlash text
  let text ← unescapeMark text
  return ⟨trimSpaces (text.length - 1) true text, anchored && !floating, last = '/'⟩

/-! ## Rules as patterns -/

/-- A slash in a written pattern. -/
def slash : String := "[/]"

/-- Characters that mean something in a pattern unless a backslash stands before them. -/
def specials : List Char := "()[]\x7b\x7d?*+-|^$\\.&~# \t\n\r\x0b\x0c".toList

/-- A character that stands for itself in a written pattern. -/
def escaped (c : Char) : List Char := if specials.contains c then ['\\', c] else [c]

/-- The written form of a set; slashes are left out. A set that holds nothing then has none. -/
def writtenSet? (content : List Char) : Option (List Char) :=
  let body := (content.flatMap fun c => if c = '\\' then ['\\', '\\'] else [c]).filter (· ≠ '/')
  match body with
  | [] => none
  | '!' :: rest => some ('[' :: '^' :: rest ++ [']'])
  | '^' :: rest => some ('[' :: '\\' :: '^' :: rest ++ [']'])
  | _ => some ('[' :: body ++ [']'])

/-- The written pattern of what a rule looks for, none if a set holds nothing. The first argument bounds the length of the
text. -/
def written? : Nat → List Char → Option (List Char)
  | 0, _ => some []
  | _ + 1, [] => some []
  | n + 1, '*' :: '*' :: '/' :: rest => (written? n rest).map ("(.*[/])?".toList ++ ·)
  | n + 1, '*' :: '*' :: rest => (written? n rest).map (".*".toList ++ ·)
  | n + 1, '*' :: rest => (written? n rest).map ("[^/]*".toList ++ ·)
  | n + 1, '?' :: rest => (written? n rest).map ("[^/]".toList ++ ·)
  | n + 1, '/' :: rest => (written? n rest).map (slash.toList ++ ·)
  | n + 1, '[' :: rest =>
    match Bracket.split? rest with
    | none => (written? n rest).map ("\\[".toList ++ ·)
    | some (content, after) => do return (← writtenSet? content) ++ (← written? n after)
  | n + 1, c :: rest => (written? n rest).map (escaped c ++ ·)

/-- Where a rule may start to match. -/
def startOf (anchored : Bool) : String := if anchored then "^" else "(^|" ++ slash ++ ")"

/-- Where a rule may stop to match. -/
def stopOf (directory negated : Bool) : String :=
  if !directory then "$" else if negated then "/$" else "($|/)"

/-- The written pattern of a rule. -/
def Parts.written? (p : Parts) (negated : Bool) : Option (List Char) :=
  (Ignore.written? (p.text.length + 1) p.text).map fun body =>
    (startOf p.anchored).toList ++ body ++ (stopOf p.directory negated).toList

/-- What a line of an ignore file says: nothing, a rule, or something that spoils the file. -/
inductive Line where
  | blank
  | rule (rule : IgnoreRule)
  | spoilt

/-- The text of a line without its mark of negation. -/
def unnegated : List Char → Bool × List Char
  | '!' :: rest => (true, rest)
  | text => (false, text)

/-- Reads a line. -/
def lineOf (line : List Char) : Line :=
  if !Text.hasInk line || line.head? = some '#' then .blank
  else
    let (negated, body) := unnegated line
    let body := foldStars body
    if Text.trimEnd body = ['/'] then .blank
    else match (partsOf body).bind (·.written? negated) with
      | none => .spoilt
      | some pattern => .rule ⟨negated, Pattern.read .wholeText pattern⟩

/-- Collects the rules of lines, unless one spoils them. -/
def collectRules : List Line → Option (List IgnoreRule)
  | [] => some []
  | .blank :: rest => collectRules rest
  | .spoilt :: _ => none
  | .rule r :: rest => (collectRules rest).map (r :: ·)

/-- The rules of an ignore file; a file with a spoilt line has none. -/
def rulesOf (text : List Char) : Option (List IgnoreRule) := collectRules ((Text.splitOn '\n' text).map lineOf)

/-- The first rule that matches a path. A rule without pattern that is reached decides nothing. -/
def firstMatch (path : List Char) : List IgnoreRule → Except PatternError (Option IgnoreRule)
  | [] => .ok none
  | r :: rest =>
    match r.pattern with
    | .error e => .error e
    | .ok p => if p.occursIn path then .ok (some r) else firstMatch path rest

/-- The rules leave out the path. -/
def ignores (rules : List IgnoreRule) (path : List Char) : Except PatternError Bool :=
  let ordered := if rules.any (·.negated) then rules.reverse else rules
  (firstMatch path ordered).map fun r => r.any fun r => !r.negated

end Ignore

end CodeAtlas
