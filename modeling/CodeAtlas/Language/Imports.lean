import CodeAtlas.Language.Comments

/-!
# Finding imports

Every pattern of a language is matched over the whole text, and the imports found are put into the order in which their
specifiers start. Languages with dotted names may list several modules in one statement, and list the names they import.
-/

namespace CodeAtlas

/-- An import found in a text: where its specifier starts, the specifier, and the names it lists. -/
structure FoundImport where
  start : Int
  specifier : String
  names : List String
deriving Repr, DecidableEq

namespace Imports

/-- The names of a list such as `a as b, c`, without what they are bound to. -/
def listedNames (text : List Char) : List String :=
  ((Text.splitOn ',' text).filter Text.hasInk).map fun part => String.ofList (Text.firstWord part)

/-- The first group after the first that captured something. -/
def nameList (p : Pattern) (m : Match) : List Char :=
  let captured := (List.range' 2 (p.groups - 1)).filterMap fun i => (m.group? i).map (·.text)
  (captured.find? fun text => !text.isEmpty).getD []

/-- Where the first group starts. -/
def groupStart (m : Match) : Int := (m.group? 1).elim (-1) fun c => c.start

/-- The imports of one match. -/
def ofMatch (dotted : Bool) (p : Pattern) (m : Match) : Except ScanError (List FoundImport) :=
  if p.groups = 0 then .error .noGroup
  else if dotted then
    let names := listedNames (nameList p m)
    let modules := listedNames (((m.group? 1).map (·.text)).getD [])
    .ok (modules.map fun module => ⟨groupStart m, module, names⟩)
  else match m.group? 1 with
    | some c => .ok [⟨groupStart m, String.ofList (Text.trim c.text), []⟩]
    | none => .error .emptyGroup

/-- The imports that one pattern finds. -/
def ofPattern (dotted : Bool) (text : List Char) (p : Pattern) : Except ScanError (List FoundImport) :=
  ((p.findAll text).mapM (ofMatch dotted p)).map List.flatten

end Imports

/-- The imports of a text without comments, in the order of the text. -/
def Language.findImports (l : Language) (text : List Char) : Except ScanError (List FoundImport) :=
  (l.importPatterns.mapM (Imports.ofPattern l.isDotted text)).map fun found =>
    found.flatten.mergeSort fun a b => a.start ≤ b.start

end CodeAtlas
