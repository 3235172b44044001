import CodeAtlas.Pattern.Mode

/-!
# Parts of patterns

A pattern is read part by part. Where it offers several alternatives, the parts that all of them start with are taken out,
and alternatives of one character each are joined to a set (`Part.either`).
-/

namespace CodeAtlas.Pattern

/-- A set as it is written, and the mode it is meant in. -/
structure Start where
  mode : Mode
  set : WrittenSet
deriving Repr, DecidableEq

/-- A part of a pattern. -/
inductive Part where
  /-- One character of a set. -/
  | one (set : WrittenSet)
  /-- One character that a dot stands for. -/
  | dot
  /-- A place and no text. -/
  | place (kind : Place)
  /-- What a group matched. -/
  | again (index : Nat)
  /-- Something repeated. -/
  | repeated (regex : Regex)
  /-- A group, and the set that it starts with if it starts with one. -/
  | group (start : Option Start) (regex : Regex)
  | other (regex : Regex)
deriving Repr, DecidableEq

namespace Part

/-- The expression of a part. -/
def regex (m : Mode) : Part → Regex
  | one set => .one (m.set set)
  | dot => .one m.dot
  | place kind => .place kind
  | again index => .again index m.caseRule
  | repeated r => r
  | group _ r => r
  | other r => r

/-- The expression of some parts one after another. -/
def all (m : Mode) (parts : List Part) : Regex := .all (parts.map (regex m))

/-- One character. -/
def char (code : Nat) : Part := .one ⟨false, [.char code]⟩

/-! ## Starts -/

/-- The set that some parts start with. -/
def start? (m : Mode) : List Part → Option Start
  | one set :: _ => some ⟨m, set⟩
  | group start _ :: _ => start
  | _ => none

/-- A group that holds some parts; `wrap` makes the expression of the group from that of its parts. -/
def grouped (m : Mode) (wrap : Regex → Regex) (parts : List Part) : Part := .group (start? m parts) (wrap (all m parts))

/-! ## Alternatives -/

/-- The part matches in one way only and without inner parts, so that it can be taken out of alternatives. -/
def isSimple : Part → Bool
  | one _ | dot | place _ | again _ => true
  | repeated _ | group .. | other _ => false

/-- Takes out the simple parts that all alternatives start with; what is left of each follows. -/
def factored : (first : List Part) → (others : List (List Part)) → List Part × List (List Part)
  | [], others => ([], [] :: others)
  | p :: rest, others =>
    if p.isSimple && others.all (·.head? = some p) then
      let (shared, left) := factored rest (others.map List.tail)
      (p :: shared, left)
    else ([], (p :: rest) :: others)

/-- The entries of alternatives that are one character of a set each, none of them negated. -/
def entries? : List (List Part) → Option (List SetItem)
  | [] => some []
  | [.one set] :: rest => if set.negated then none else (entries? rest).map (set.items ++ ·)
  | _ => none

/-- One expression or another. -/
def branches : List Regex → Regex
  | [] => .empty
  | [r] => r
  | r :: rest => .alt r (branches rest)

/-- The parts of a pattern that offers alternatives: a first one and others. -/
def either (m : Mode) (first : List Part) (others : List (List Part)) : List Part :=
  if others.isEmpty then first
  else
    let (shared, left) := factored first others
    match entries? left with
    | some items => shared ++ [.one ⟨false, items.eraseDups⟩]
    | none => shared ++ [.other (branches (left.map (all m)))]

end Part

/-! ## Where to look -/

/-- The number is that of a letter that is the same as others up to case. -/
def Mode.isCased (m : Mode) (code : Nat) : Bool :=
  let c := Char.ofNat code
  if m.ascii then c.isAlpha else Text.small c ≠ c || Text.capital c ≠ c

/-- The entry of a set stands for the same in every case. -/
def Mode.isCaseless (m : Mode) : SetItem → Bool
  | .char code => !m.isCased code
  | .range low high => high ≤ 0xFFFF && (List.range' low (high + 1 - low)).all fun code => !m.isCased code
  | .named _ => true

/-- The entry of a set is a class of characters. -/
def SetItem.isNamed : SetItem → Bool
  | .named _ => true
  | _ => false

/-- The characters that are looked for where a pattern may start to match. They matter only if the classes among them have
another alphabet than the pattern as a whole: they are meant as in the whole, while a match has to start with a character
of the set in its own mode too. -/
def Start.filter? (m : Mode) (s : Start) : Option CharSet :=
  if s.mode.ascii ≠ m.ascii && s.set.items.any SetItem.isNamed && (!s.mode.anyCase || s.set.items.all s.mode.isCaseless) then
    some ({ m with anyCase := false }.set s.set)
  else none

/-- The expression of a whole pattern. -/
def Part.whole (m : Mode) (parts : List Part) : Regex :=
  match (Part.start? m parts).bind (Start.filter? m) with
  | some set => .seq (.ahead true (.one set)) (Part.all m parts)
  | none => Part.all m parts

/-! ## Pieces -/

/-- What a repetition is about: one part, or what stands in parentheses that mean nothing else. -/
inductive Piece where
  | part (part : Part)
  | enclosed (parts : List Part)
deriving Repr, DecidableEq

/-- The parts of a piece. -/
def Piece.parts : Piece → List Part
  | part p => [p]
  | enclosed ps => ps

end CodeAtlas.Pattern
