import CodeAtlas.Number.Literal
import CodeAtlas.Pattern.Source
import CodeAtlas.Pattern.Width
import CodeAtlas.Text.Identifier

/-!
# Groups of patterns

What is known about the groups of a pattern while it is read, and the written forms of what opens with a parenthesis. A
question mark after the parenthesis tells what is special about a group: that it is not remembered, that it has a name, that
it only looks ahead or behind, that it is a condition, or that other modes hold inside it.
-/

namespace CodeAtlas.Pattern

namespace Reader

/-- The groups read so far. -/
structure Groups where
  count : Nat := 0
  names : List (List Char × Nat) := []
  /-- How long the matches of the groups that are closed are. -/
  widths : List (Nat × Width) := []
  /-- How many groups there were before the outermost look behind that is open, if there is one. -/
  outside : Option Nat := none
  /-- The greatest number that a condition asks for. -/
  asked : Nat := 0
  /-- The first fault that counts only if the pattern can be read to its end. -/
  late : Option PatternError := none
deriving Repr, DecidableEq

namespace Groups

/-- Opens a group. -/
def opened (g : Groups) (name : Option (List Char)) (position : Nat) : Except PatternError Groups :=
  match name with
  | none => .ok { g with count := g.count + 1 }
  | some name =>
    match g.names.lookup name with
    | some earlier => Reader.fail (.takenName name (g.count + 1) earlier) position
    | none => .ok { g with count := g.count + 1, names := (name, g.count + 1) :: g.names }

/-- Closes a group with the given body. -/
def closed (g : Groups) (index : Nat) (body : Regex) : Groups :=
  { g with widths := (index, body.width g.widths) :: g.widths }

/-- The group may be referred to: it is closed, and not part of the look behind that is open. -/
def check (g : Groups) (index position : Nat) : Except PatternError Unit :=
  if g.count < index then Reader.fail (.unknownGroup index) position
  else if (g.widths.lookup index).isNone then Reader.fail .openGroup position
  else if g.outside.any (· < index) then Reader.fail .groupInLook position
  else .ok ()

/-- The number of the group with a name. -/
def indexOf (g : Groups) (name : List Char) (position : Nat) : Except PatternError Nat :=
  (g.names.lookup name).elim (Reader.fail (.unknownName name) position) .ok

/-- The number of the group that a condition asks for by name or number. -/
def askedIndex (g : Groups) (asked : List Char) (position : Nat) : Except PatternError Nat :=
  if Text.isIdentifier asked then g.indexOf asked position
  else match Literal.integer (String.ofList asked) with
    | .ok (.ofNat (n + 1)) => .ok (n + 1)
    | _ => Reader.fail (.badName asked) position

/-- A condition asks for a group, which may come later. -/
def ask (g : Groups) (index position : Nat) : Except PatternError Groups := do
  if g.outside.isSome then g.check index position
  return { g with asked := Nat.max g.asked index }

/-- Remembers a fault for later. -/
def withFault (g : Groups) (fault : PatternFault) (position : Nat) : Groups :=
  { g with late := g.late.or (some ⟨fault, position⟩) }

end Groups

/-! ## What opens with a parenthesis -/

/-- The number of characters before one that is not escaped. -/
def lengthUpTo (stop : Char) : List Char → Nat
  | [] => 0
  | '\\' :: _ :: rest => lengthUpTo stop rest + 2
  | c :: rest => if c = stop then 0 else lengthUpTo stop rest + 1

/-- Reads what follows a group; `start` is where the group starts. -/
def closeGroup (start : Nat) (s : Source) : Except PatternError Source :=
  if s.rest.head? = some ')' then .ok (s.skip 1) else fail .missingParenthesis start

/-- Reads the name of a group and the character that ends it. -/
def groupName (stop : Char) (s : Source) : Except PatternError (List Char × Source) := do
  let (name, t) ← nameUpTo stop s
  if Text.isIdentifier name then return (name, t) else fail (.badName name) s.position

/-- How something in parentheses opens. -/
inductive Opening where
  | group (name : Option (List Char))
  /-- Parentheses that only hold a part of the pattern together. -/
  | plain
  /-- A group that is not remembered, with the mode inside it. -/
  | modes (mode : Mode)
  | once
  | ahead (wanted : Bool)
  | behind (wanted : Bool)
  | condition (asked : List Char)
  /-- A whole reference to a named group. -/
  | reference (name : List Char)
  /-- A whole change of the mode of the pattern. -/
  | change (mode : Mode)
  /-- A whole comment. -/
  | comment
deriving Repr, DecidableEq

/-- Reads a change of modes; `s` stands after the question mark. The modes to turn off stand after a dash. -/
def modeChange (m : Mode) (s : Source) : Except PatternError (Opening × Source) :=
  let on := s.rest.takeWhile Char.isAlpha
  let t := s.skip on.length
  let off := (t.rest.drop 1).takeWhile Char.isAlpha
  let opening : Option (Opening × Source) := match t.rest with
    | ')' :: _ => (m.changed? on).map fun mode => (.change mode, t.skip 1)
    | ':' :: _ => (m.inside? on []).map fun mode => (.modes mode, t.skip 1)
    | '-' :: _ =>
      let u := t.skip (off.length + 1)
      if off.isEmpty || u.rest.head? ≠ some ':' then none
      else (m.inside? on off).map fun mode => (.modes mode, u.skip 1)
    | _ => none
  opening.elim (fail .badModes s.position) .ok

/-- Reads how something in parentheses opens; `s` stands at the parenthesis. -/
def opening (m : Mode) (s : Source) : Except PatternError (Opening × Source) :=
  match s.rest with
  | '(' :: '?' :: rest =>
    match rest with
    | [] | ['<'] | ['P'] => fail .unexpectedEnd (s.position + 2 + rest.length)
    | ':' :: _ => .ok (.plain, s.skip 3)
    | '>' :: _ => .ok (.once, s.skip 3)
    | '=' :: _ => .ok (.ahead true, s.skip 3)
    | '!' :: _ => .ok (.ahead false, s.skip 3)
    | '<' :: '=' :: _ => .ok (.behind true, s.skip 4)
    | '<' :: '!' :: _ => .ok (.behind false, s.skip 4)
    | 'P' :: '<' :: _ => (groupName '>' (s.skip 4)).map fun r => (.group (some r.1), r.2)
    | 'P' :: '=' :: _ => (groupName ')' (s.skip 4)).map fun r => (.reference r.1, r.2)
    | '(' :: _ => (nameUpTo ')' (s.skip 3)).map fun r => (.condition r.1, r.2)
    | '#' :: text =>
      let t := s.skip (3 + lengthUpTo ')' text)
      if t.rest.isEmpty then fail .unterminatedComment s.position else .ok (.comment, t.skip 1)
    | c :: d :: _ =>
      if c = '<' || c = 'P' then fail (.unknownExtension (String.ofList [c, d])) (s.position + 1)
      else if c = '-' || "iLmsxatu".toList.contains c then modeChange m (s.skip 2)
      else fail (.unknownExtension (String.singleton c)) (s.position + 1)
    | [c] => fail (.unknownExtension (String.singleton c)) (s.position + 1)
  | _ => .ok (.group none, s.skip 1)

end Reader

end CodeAtlas.Pattern
