import CodeAtlas.Pattern
import CodeAtlas.Pattern.Groups
import CodeAtlas.Pattern.Part

/-!
# Reading patterns

The written form of patterns: literals, escapes, sets in brackets, groups in parentheses, alternatives, and the repetitions
`*`, `+`, `?` and `{m,n}`, each lazy if a question mark follows and never given up if a plus sign follows. Modes for the whole
pattern stand at its start. An error tells what is wrong and at which character of the pattern.
-/

namespace CodeAtlas

namespace Pattern

namespace Reader

/-! ## Repetitions -/

/-- How often something is repeated: at least `least` times and `extra` more times, without bound if that is missing. -/
structure Repetition where
  least : Nat
  extra : Option Nat
deriving Repr, DecidableEq

/-- The character may start a repetition. -/
def startsRepetition (c : Char) : Bool := c = '*' || c = '+' || c = '?' || c = '{'

/-- Reads decimal digits. -/
def number? (s : Source) : Option Nat × Source :=
  let digits := s.rest.takeWhile Char.isDigit
  (if digits.isEmpty then none else some (Text.ofDigits 10 digits), s.skip digits.length)

/-- Reads the bounds of a counted repetition after its opening brace; without a closing brace there are none. -/
def bounds? (s : Source) : Option ((Nat × Option Nat) × Source) :=
  if s.rest.head? = some '}' then none
  else
    let (low, t) := number? s
    let (high, u) := if t.rest.head? = some ',' then number? (t.skip 1) else (low, t)
    if u.rest.head? = some '}' then some ((low.getD 0, high), u.skip 1) else none

/-- Numbers of repetitions are below this one. -/
def countLimit : Nat := 4294967295

/-- Reads a repetition; a brace without bounds is none. -/
def repetition (s : Source) : Except PatternError (Option Repetition × Source) :=
  match s.rest with
  | '*' :: _ => .ok (some ⟨0, none⟩, s.skip 1)
  | '+' :: _ => .ok (some ⟨1, none⟩, s.skip 1)
  | '?' :: _ => .ok (some ⟨0, some 1⟩, s.skip 1)
  | _ =>
    match bounds? (s.skip 1) with
    | none => .ok (none, s)
    | some ((least, most), t) =>
      if t.rest = ['\\'] then fail (.badEscape "(end of pattern)") t.position
      else if countLimit ≤ least || most.any (countLimit ≤ ·) then fail .countTooLarge s.position
      else if most.any (· < least) then fail .boundsReversed (s.position + 1)
      else .ok (some ⟨least, most.map (· - least)⟩, t)

/-- An expression repeated. -/
def Repetition.of (r : Repetition) (greedy : Bool) : Regex → Regex
  | .one set => .chars greedy r.least r.extra set
  | body => .many greedy r.least r.extra body

/-- Repeats the last of the pieces, which stand last first; `start` is where the repetition is written. -/
def repeatLast (m : Mode) (r : Repetition) (start : Nat) (s : Source) :
    List Piece → Except PatternError (List Piece × Source)
  | [] | .part (.place _) :: _ => fail .nothingToRepeat start
  | .part (.repeated _) :: _ => fail .multipleRepeat start
  | piece :: before =>
    let body := Part.all m piece.parts
    let (regex, t) := match s.rest with
      | '?' :: _ => (r.of false body, s.skip 1)
      | '+' :: _ => (.once (r.of true (.once body)), s.skip 1)
      | _ => (r.of true body, s)
    .ok (.part (.repeated regex) :: before, t)

/-! ## Escapes -/

/-- The kind of place that a letter names after a backslash. -/
def place? (m : Mode) (c : Char) : Option Place :=
  [('A', Place.textStart), ('Z', .textEnd), ('b', .edge m.words), ('B', .noEdge m.words)].lookup c

/-- What a number after a backslash stands for: a character if it has three octal digits, otherwise what a group matched.
`s` stands at the backslash, and `c` is the first digit. -/
def numbered (g : Groups) (c : Char) (s : Source) : Except PatternError (Part × Source) :=
  let digits := c :: (s.rest.drop 2).takeWhile Char.isDigit
  if 3 ≤ digits.length && (digits.take 3).all isOctal then
    (octalEscape (digits.take 3) (s.skip 2)).map fun r => (.char r.1, r.2)
  else
    let index := Text.ofDigits 10 (digits.take 2)
    (g.check index (s.position + 1)).map fun _ => (.again index, s.skip ((digits.take 2).length + 1))

/-- What an escape outside a set stands for; `s` stands at the backslash. -/
def escape (m : Mode) (g : Groups) (s : Source) : Except PatternError (Part × Source) :=
  match s.rest.drop 1 with
  | [] => fail (.badEscape "(end of pattern)") s.position
  | c :: _ =>
    match place? m c, class? c with
    | some kind, _ => .ok (.place kind, s.skip 2)
    | none, some item => .ok (.one ⟨false, [.named item]⟩, s.skip 2)
    | none, none =>
      if '1' ≤ c ∧ c ≤ '9' then numbered g c s
      else (escapedChar c (s.skip 2)).map fun r => (.char r.1, r.2)

/-! ## Whole patterns -/

/-- The number of characters at the start of a text that mean nothing in a spaced pattern. -/
def spacing (text : List Char) : Nat :=
  match text with
  | '#' :: rest => lengthUpTo '\n' rest + 2
  | c :: _ => if " \t\n\r\x0b\x0c".toList.contains c then 1 else 0
  | [] => 0

/-- How deep groups may be nested; a condition counts as half a group. -/
def depthLimit : Nat := 2 * 490

/-- What opens in a way adds to the depth. -/
def Opening.depth : Opening → Nat
  | .condition _ => 1
  | _ => 2

mutual

/-- Reads alternatives, up to a closing parenthesis or the end. Groups around them add up to a depth. -/
def alternatives : (fuel depth : Nat) → Mode → Groups → Source → Except PatternError ((List Part × Groups) × Source)
  | 0, _, _, _, s => fail .unexpectedEnd s.position
  | fuel + 1, depth, m, g, s => do
    let ((first, g), t) ← sequence fuel depth m g [] s
    let ((others, g), t) ← furtherAlternatives fuel depth m g t
    return ((Part.either m first others, g), t)

/-- Reads the alternatives after the first one. -/
def furtherAlternatives : (fuel depth : Nat) → Mode → Groups → Source →
    Except PatternError ((List (List Part) × Groups) × Source)
  | 0, _, _, _, s => fail .unexpectedEnd s.position
  | fuel + 1, depth, m, g, s =>
    if s.rest.head? = some '|' then do
      let ((first, g), t) ← sequence fuel depth m g [] (s.skip 1)
      let ((others, g), t) ← furtherAlternatives fuel depth m g t
      return ((first :: others, g), t)
    else return (([], g), s)

/-- Reads the parts of one alternative; `before` are the pieces read so far, last first. -/
def sequence : (fuel depth : Nat) → Mode → Groups → (before : List Piece) → Source →
    Except PatternError ((List Part × Groups) × Source)
  | 0, _, _, _, _, s => fail .unexpectedEnd s.position
  | fuel + 1, depth, m, g, before, s =>
    match s.rest with
    | [] | '|' :: _ | ')' :: _ => .ok ((before.reverse.flatMap Piece.parts, g), s)
    | c :: _ =>
      if m.spaced && 0 < spacing s.rest then sequence fuel depth m g before (s.skip (spacing s.rest))
      else if startsRepetition c then do
        match ← repetition s with
        | (some r, t) =>
          let (pieces, t) ← repeatLast m r s.position t before
          sequence fuel depth m (if m.single then g.withFault .barredRepeat s.position else g) pieces t
        | (none, _) => sequence fuel depth m g (.part (.char c.toNat) :: before) (s.skip 1)
      else do
        let ((pieces, g), t) ← piece fuel depth m g s
        sequence fuel depth m g (pieces ++ before) t

/-- Reads one piece, without what repeats it; a comment is none. -/
def piece : (fuel depth : Nat) → Mode → Groups → Source → Except PatternError ((List Piece × Groups) × Source)
  | 0, _, _, _, s => fail .unexpectedEnd s.position
  | fuel + 1, depth, m, g, s =>
    match s.rest with
    | [] => fail .unexpectedEnd s.position
    | '(' :: _ => do
      let (o, t) ← opening m s
      match o with
      | .comment => return (([], g), t)
      | .change _ => fail .lateModes s.position
      | .reference name =>
        let index ← g.indexOf name s.position
        g.check index s.position
        return (([.part (.again index)], g), t)
      | o =>
        if depthLimit < depth + o.depth then fail .tooDeep s.position
        let ((body, g), t) ← enclosed fuel (depth + o.depth) m g s.position o t
        let t ← closeGroup s.position t
        return (([body], g), t)
    | '[' :: _ => (writtenSet (s.skip 1)).map fun r => (([.part (.one r.1)], g), r.2)
    | '\\' :: _ => (escape m g s).map fun r => (([.part r.1], g), r.2)
    | '.' :: _ => .ok (([.part .dot], g), s.skip 1)
    | '^' :: _ => .ok (([.part (.place m.caret)], g), s.skip 1)
    | '$' :: _ => .ok (([.part (.place m.dollar)], g), s.skip 1)
    | c :: _ => .ok (([.part (.char c.toNat)], g), s.skip 1)

/-- Reads what stands in parentheses that open at `start`, up to the closing one. -/
def enclosed : (fuel depth : Nat) → Mode → Groups → (start : Nat) → Opening → Source →
    Except PatternError ((Piece × Groups) × Source)
  | 0, _, _, _, _, _, s => fail .unexpectedEnd s.position
  | fuel + 1, depth, m, g, start, o, s =>
    match o with
    | .group name => do
      let h ← g.opened name start
      let ((parts, k), t) ← alternatives fuel depth m h s
      return ((.part (.grouped m (.group h.count) parts), k.closed h.count (Part.all m parts)), t)
    | .once => do
      let ((parts, g), t) ← alternatives fuel depth m g s
      return ((.part (.other (.once (Part.all m parts))), g), t)
    | .ahead wanted => do
      let ((parts, g), t) ← alternatives fuel depth m g s
      return ((.part (.other (.ahead wanted (Part.all m parts))), g), t)
    | .behind wanted => do
      let ((parts, h), t) ← alternatives fuel depth m { g with outside := g.outside.or (some g.count) } s
      let body := Part.all m parts
      let h := { h with outside := g.outside }
      match (body.width h.widths).fixed? with
      | some width => return ((.part (.other (.behind wanted width body)), h), t)
      | none => return ((.part (.other .empty), h.withFault .lookWidth start), t)
    | .condition asked => do
      let index ← g.askedIndex asked start
      let g ← g.ask index start
      let ((yes, g), t) ← sequence fuel depth m g [] s
      if t.rest.head? = some '|' then
        let ((no, g), t) ← sequence fuel depth m g [] (t.skip 1)
        if t.rest.head? = some '|' then fail .tooManyBranches t.position
        else return ((.part (.other (.whether index (Part.all m yes) (Part.all m no))), g), t)
      else return ((.part (.other (.whether index (Part.all m yes) .empty)), g), t)
    | .modes mode => do
      let ((parts, g), t) ← alternatives fuel depth mode g s
      return ((.part (.grouped mode id parts), g), t)
    | _ => do
      let ((parts, g), t) ← alternatives fuel depth m g s
      return ((.enclosed parts, g), t)

end

/-- Reads the modes for the whole pattern. The first argument bounds the length of the pattern. -/
def leadingModes : (fuel : Nat) → Mode → Source → Except PatternError (Mode × Source)
  | 0, m, s => .ok (m, s)
  | fuel + 1, m, s =>
    if m.spaced && 0 < spacing s.rest then leadingModes fuel m (s.skip (spacing s.rest))
    else do
      match ← opening m s with
      | (.change mode, t) => leadingModes fuel mode t
      | (.comment, t) => leadingModes fuel m t
      | _ => return (m, s)

end Reader

/-- Reads a pattern. -/
def read (m : Mode) (text : List Char) : Except PatternError Pattern := do
  let (m, s) ← Reader.leadingModes (text.length + 1) m ⟨0, text⟩
  let ((parts, g), s) ← Reader.alternatives (4 * text.length + 4) 0 m {} s
  if s.rest.isEmpty && Reader.endsInEscape text then Reader.fail (.badEscape "(end of pattern)") text.length
  else if m.ascii && m.wide then Reader.fail .mixedAlphabets 0
  else if !s.rest.isEmpty then Reader.fail .unbalancedParenthesis s.position
  else if g.count < g.asked then Reader.fail (.unknownGroup g.asked) text.length
  else match g.late with
    | some error => .error error
    | none => return ⟨Part.whole m parts, g.count⟩

end Pattern

end CodeAtlas
