import CodeAtlas.Language.Comments

/-!
# Scripts inside templates

A template file holds its code in script blocks. `Language.unwrap` blanks out everything around the bodies of these blocks,
so that what is left can be read as a file of the script's language and every character keeps its place.
-/

namespace CodeAtlas

namespace Template

/-! ## Script blocks -/

/-- The forms of a letter that count as the same letter in a tag. -/
def anyCaseOf (c : Char) : CharSet where
  negated := false
  items :=
    let letters := [c, c.toUpper] ++ (if c = 's' then [Char.ofNat 0x17F] else [])
      ++ (if c = 'i' then [Char.ofNat 0x130, Char.ofNat 0x131] else [])
    letters.map fun d => .range d d

/-- What follows a word in any mixture of cases, if the text starts with one; the word is written in small letters. -/
def afterWord? : (word : List Char) → (text : List Char) → Option (List Char)
  | [], text => some text
  | _ :: _, [] => none
  | c :: word, d :: text => if (anyCaseOf c).has d then afterWord? word text else none

/-- The name of the element that holds a script. -/
def element : List Char := "script".toList

/-- The start of a script block: its attributes, and what follows the tag. -/
structure OpeningTag where
  attributes : List Char
  following : List Char
deriving Repr, DecidableEq

/-- How long a tag with the given attributes is. -/
def OpeningTag.length (tag : OpeningTag) : Nat := element.length + tag.attributes.length + 2

/-- The opening tag at the start of a text. Its name ends where a word ends, and the tag at the next closing angle. -/
def openingTag? : List Char → Option OpeningTag
  | '<' :: text => do
    let rest ← afterWord? element text
    if rest.head?.any Text.isWord then none
    else match rest.dropWhile (· ≠ '>') with
      | [] => none
      | _ :: following => some ⟨rest.takeWhile (· ≠ '>'), following⟩
  | _ => none

/-- How long the closing tag at the start of a text is. -/
def closingLength? : List Char → Option Nat
  | '<' :: '/' :: text => do
    let rest ← afterWord? element text
    if (rest.dropWhile Text.isBlank).head? = some '>' then
      some (element.length + (rest.takeWhile Text.isBlank).length + 3)
    else none
  | _ => none

/-- How much stands before the next closing tag, and how long that tag is. -/
def upToClosing? : List Char → Option (Nat × Nat)
  | [] => none
  | c :: rest =>
    match closingLength? (c :: rest) with
    | some n => some (0, n)
    | none => (upToClosing? rest).map fun r => (r.1 + 1, r.2)

/-- The characters from `start` up to, but not including, `stop`. -/
structure Span where
  start : Nat
  stop : Nat
deriving Repr, DecidableEq

/-- A script block: the attributes of its tag and the place of its body. -/
structure ScriptBlock where
  attributes : List Char
  body : Span
deriving Repr, DecidableEq

/-- The script blocks of a text that start at `resume` or later; `position` is the place of the text in the whole. If no
closing tag follows an opening one then none follows a later one, so the search ends there. -/
def blocksFrom (position resume : Nat) : List Char → List ScriptBlock
  | [] => []
  | c :: rest =>
    if position < resume then blocksFrom (position + 1) resume rest
    else match openingTag? (c :: rest) with
      | none => blocksFrom (position + 1) resume rest
      | some tag =>
        match upToClosing? tag.following with
        | none => []
        | some (n, closing) =>
          let start := position + tag.length
          ⟨tag.attributes, start, start + n⟩ :: blocksFrom (position + 1) (start + n + closing) rest

/-- The script blocks of a text, from left to right. -/
def blocks (text : List Char) : List ScriptBlock := blocksFrom 0 0 text

/-- A word in any mixture of cases, written in small letters here. -/
def anyCase (word : String) : Regex := .all (word.toList.map fun c => .one (anyCaseOf c))

/-- The attribute that names the language of a script: the name is the first group. -/
def languageAttribute : Pattern where
  regex := .all [
    .place .wordEdge, anyCase "lang", .star .blank, .literal "=", .star .blank, .opt (.one (.ofChars "\"'")),
    .group 1 (.plus .word)]
  groups := 1

/-! ## Masks -/

/-- Newlines stay, everything else becomes a space. -/
def blankOut (text : List Char) : List Char := text.map fun c => if c = '\n' then '\n' else ' '

/-- Blanks out what stands outside the spans; `position` is the place of the text in the whole. -/
def keepSpans : (position : Nat) → List Span → List Char → List Char
  | _, [], text => blankOut text
  | position, s :: spans, text =>
    blankOut (text.take (s.start - position))
      ++ (text.take (s.stop - position)).drop (s.start - position)
      ++ keepSpans s.stop spans (text.drop (s.stop - position))

/-- The bodies of the script blocks of a text. -/
def bodies (text : List Char) : List Span := (blocks text).map (·.body)

/-- The text with everything outside its script bodies blanked out. -/
def mask (text : List Char) : List Char := keepSpans 0 (bodies text) text

end Template

namespace Language

/-- The language that a script language name stands for, if it stands for one. -/
def scriptNamed? (l : Language) (name : List Char) : Except ScanError (Option Document) :=
  match l.scripts with
  | .object fields => .ok (Document.field? fields (String.ofList (Text.lower name)))
  | other => .error (.noScripts other.kindName)

/-- The language of scripts after a block with these attributes. -/
def scriptAfter (l : Language) (current : Document) (attributes : List Char) : Except ScanError Document :=
  match (Template.languageAttribute.find? attributes).bind (·.group? 1) with
  | some c => (l.scriptNamed? c.text).map (·.getD current)
  | none => .ok current

/-- The language of the scripts of a text; the last block that names a known one decides. -/
def scriptLanguage (l : Language) (text : List Char) : Except ScanError Document :=
  (Template.blocks text).foldlM (fun current b => l.scriptAfter current b.attributes) l.defaultScript

/-- The script language of a template and its masked text. -/
def unwrap (l : Language) (text : List Char) : Except ScanError (Document × List Char) :=
  (l.scriptLanguage text).map (·, Template.mask text)

end Language

end CodeAtlas
