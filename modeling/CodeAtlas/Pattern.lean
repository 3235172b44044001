import CodeAtlas.Pattern.Regex

/-!
# Patterns

A pattern is a regular expression together with the number of its groups. `Pattern.findAll` lists the matches of a pattern
in a text from left to right, none overlapping another; after an empty match the next one at the same place is not empty.
-/

namespace CodeAtlas

/-- A regular expression and the number of its groups. -/
structure Pattern where
  regex : Regex
  groups : Nat
deriving Repr, DecidableEq

/-- A match: where it starts and ends, and what the groups captured. -/
structure Match where
  start : Nat
  stop : Nat
  captures : List (Nat × Capture)
deriving Repr, DecidableEq

/-- What a group captured last. -/
def Match.group? (m : Match) (index : Nat) : Option Capture := m.captures.lookup index

namespace Pattern

/-- The match between two cursors. -/
def matchBetween (s t : Cursor) : Match := ⟨s.position, t.position, t.captures⟩

/-- The first match at a cursor; an empty match counts only if it may. -/
def matchAt (p : Pattern) (bound : Nat) (s : Cursor) (mayBeEmpty : Bool) : Option Match :=
  (p.regex.run bound s fun t => if t.position = s.position && !mayBeEmpty then none else some t).map (matchBetween s)

/-- The matches at a cursor: one, and if that is empty one more that is not. -/
def matchesAt (p : Pattern) (bound : Nat) (s : Cursor) : List Match :=
  match p.matchAt bound s true with
  | none => []
  | some m => if m.stop = m.start then m :: (p.matchAt bound s false).toList else [m]

/-- The end of the last match, or the given place if there is none. -/
def endOf (place : Nat) (found : List Match) : Nat := (found.getLast?.map (·.stop)).getD place

/-- The matches in the rest of a text that start at `resume` or later. The rest starts at `position`, after the characters
`before`, which stand last first. -/
def findFrom (p : Pattern) (bound : Nat) (before : List Char) (position resume : Nat) : List Char → List Match
  | [] => if position < resume then [] else p.matchesAt bound ⟨before, [], position, []⟩
  | c :: rest =>
    if position < resume then p.findFrom bound (c :: before) (position + 1) resume rest
    else
      let found := p.matchesAt bound ⟨before, c :: rest, position, []⟩
      if found.isEmpty then p.findFrom bound (c :: before) (position + 1) resume rest
      else found ++ p.findFrom bound (c :: before) (position + 1) (endOf position found) rest

/-- The matches in a text, from left to right. -/
def findAll (p : Pattern) (text : List Char) : List Match := p.findFrom (text.length + 1) [] 0 0 text

/-- The first match in the rest of a text. The rest starts at `position`, after the characters `before`, which stand last
first. -/
def firstFrom (p : Pattern) (bound : Nat) (before : List Char) (position : Nat) : List Char → Option Match
  | [] => p.matchAt bound ⟨before, [], position, []⟩ true
  | c :: rest =>
    (p.matchAt bound ⟨before, c :: rest, position, []⟩ true).or (p.firstFrom bound (c :: before) (position + 1) rest)

/-- The first match in a text. -/
def find? (p : Pattern) (text : List Char) : Option Match := p.firstFrom (text.length + 1) [] 0 text

/-- The text with each match replaced; `position` is the place of the text in the whole. -/
def replaceMatches (f : Match → List Char) : (position : Nat) → List Match → List Char → List Char
  | _, [], text => text
  | position, m :: ms, text =>
    text.take (m.start - position) ++ f m ++ replaceMatches f m.stop ms (text.drop (m.stop - position))

/-- Replaces every match. -/
def replaceAll (p : Pattern) (f : Match → List Char) (text : List Char) : List Char :=
  replaceMatches f 0 (p.findAll text) text

end Pattern

end CodeAtlas
