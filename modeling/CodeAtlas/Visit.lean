import CodeAtlas.Hash.Blake3
import CodeAtlas.Language.Template
import CodeAtlas.Visit.Walk

/-!
# Visiting a file

A file is visited if its language, or the language of its scripts, has a parser and a dialect. Each element gets an id that
is a hash of the run, the number of the file in the run, the number of the element in the file, and the place of its node.
-/

namespace CodeAtlas.Visit

/-- A file that is ready for its parser: its language, its dialect and the text that is parsed. -/
structure Prepared where
  language : Language
  dialect : Dialect
  text : List Char

/-- The language that a file is parsed as, and the parsed text. -/
structure Parsed where
  language : Language
  text : List Char

/-- The language of a script language, if there is one. A value that cannot be looked up is an error. -/
def scriptLanguage? (registry : Registry) (script : Document) : Except ScanError (Option Language) :=
  match script with
  | .text name => .ok (registry.languages.get? name)
  | .list _ | .object _ => .error (.badScript script.kindName)
  | _ => .ok none

/-- The language that a file is parsed as, and the parsed text. -/
def parsedAs (registry : Registry) (file : String) (text : List Char) : Except ScanError (Except FileFailure Parsed) :=
  match registry.languageOf file with
  | none => .ok (.error .unsupportedFile)
  | some l =>
    if l.isTemplate then do
      let (script, masked) ← l.unwrap text
      return (← scriptLanguage? registry script).elim (.error (.unsupportedScript script.plain)) fun language =>
        .ok ⟨language, masked⟩
    else .ok (.ok ⟨l, text⟩)

/-- A parsed file, if its language has a parser and a dialect. -/
def withDialect (registry : Registry) (p : Parsed) : Except FileFailure Prepared :=
  let name := p.language.name
  if !registry.hasParser name then .error (.noParser name)
  else match Dialect.ofLanguage? name with
    | none => .error (.noDialect name)
    | some dialect => .ok ⟨p.language, dialect, p.text⟩

/-- Everything that can be said about a file before it is parsed: that it cannot be read at all, that it fails, or that it
is ready. -/
def prepare (registry : Registry) (file text : String) : Except ScanError (Except FileFailure Prepared) :=
  (parsedAs registry file text.toList).map (·.bind (withDialect registry))

/-- The text that an element id is the hash of. -/
def idText (runId : String) (ordinal : Int) (file : String) (sequence : Nat) (n : Node) : String :=
  String.intercalate ":" [runId, toString ordinal, toString sequence, file, n.type, toString n.start, toString n.stop]

/-- The id of an element: the first sixteen hexadecimal digits of a hash. -/
def elementId (runId : String) (ordinal : Int) (file : String) (sequence : Nat) (n : Node) : String :=
  String.ofList ((Blake3.hexHash (Text.encode (idText runId ordinal file sequence n).toList)).take 16)

/-- The subject of a visit. -/
def subject (p : Prepared) (resolver : Option Resolver) (runId file : String) (ordinal : Int) : Subject where
  file := file
  source := Text.encode p.text
  language := p.language
  dialect := p.dialect
  resolver := resolver
  ident := elementId runId ordinal file

/-- The findings of a prepared file; `tree` is what its parser gave. -/
def findings (p : Prepared) (resolver : Option Resolver) (strict : Bool) (runId file : String) (ordinal : Int)
    (tree : Option Tree) : Except FileFailure Findings :=
  match tree with
  | none => .error .noTree
  | some t =>
    if t.hasError && strict then .error .brokenTree
    else walkTree (subject p resolver runId file ordinal) t.root

end CodeAtlas.Visit
