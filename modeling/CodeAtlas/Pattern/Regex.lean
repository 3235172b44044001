import CodeAtlas.Pattern.CharSet

/-!
# Regular expressions

Expressions are matched by backtracking: alternatives are tried in the order they are written, greedy repetitions try more
before less, lazy ones less before more, and the first way to match wins. `Regex.run` matches an expression at a cursor and
hands each possible end, in that order, to what follows until that succeeds.
-/

namespace CodeAtlas

/-- A kind of place in a text. -/
inductive Place where
  /-- The start of the text. -/
  | textStart
  /-- The start of a line. -/
  | lineStart
  /-- The end of the text. -/
  | textEnd
  /-- The end of the text, or before a newline that ends it. -/
  | lastLineEnd
  /-- The end of a line. -/
  | lineEnd
  /-- Between a character of a set and something else. -/
  | edge (set : CharSet)
  /-- Between two characters of a set, or next to none in a text that is not empty. -/
  | noEdge (set : CharSet)
deriving Repr, DecidableEq

/-- Between a word character and something else. -/
def Place.wordEdge : Place := .edge .word

/-- A regular expression. -/
inductive Regex where
  /-- Nothing. -/
  | empty
  /-- One character of a set. -/
  | one (set : CharSet)
  /-- At least `least` characters of a set, then up to `extra` more, without bound if `extra` is missing. -/
  | chars (greedy : Bool) (least : Nat) (extra : Option Nat) (set : CharSet)
  | seq (first second : Regex)
  | alt (first second : Regex)
  /-- The body at least `least` times, then up to `extra` more times, without bound if `extra` is missing. -/
  | many (greedy : Bool) (least : Nat) (extra : Option Nat) (body : Regex)
  /-- The body, remembered under a number. -/
  | group (index : Nat) (body : Regex)
  /-- What the group of a number matched last, in letters that count as the same. -/
  | again (index : Nat) (rule : Text.CaseRule)
  /-- The first expression if the group of a number has matched, the second one if not. -/
  | whether (index : Nat) (yes no : Regex)
  /-- The body in the first way it matches; what follows does not change that. -/
  | once (body : Regex)
  /-- Nothing, at a place of a kind. -/
  | place (kind : Place)
  /-- Nothing, where the body matches, or where it does not if it is not `wanted`. -/
  | ahead (wanted : Bool) (body : Regex)
  /-- Nothing, where the body matches from `width` characters before, or where it does not if it is not `wanted`. -/
  | behind (wanted : Bool) (width : Nat) (body : Regex)
deriving Repr, DecidableEq

/-- What a group matched: where it starts and stops, and the text from its start on. -/
structure Capture where
  start : Nat
  stop : Nat
  following : List Char
deriving Repr, DecidableEq

/-- The text that a group matched. -/
def Capture.text (c : Capture) : List Char := c.following.take (c.stop - c.start)

/-- A place in a text, with the captures made on the way there, one for a group. The characters before it stand last
first. -/
structure Cursor where
  before : List Char
  rest : List Char
  position : Nat
  captures : List (Nat × Capture)
deriving Repr, DecidableEq

namespace Cursor

/-- The start of a text. -/
def start (text : List Char) : Cursor := ⟨[], text, 0, []⟩

/-- The cursor after the next character. -/
def skip (s : Cursor) (c : Char) (rest : List Char) : Cursor :=
  { s with before := c :: s.before, rest := rest, position := s.position + 1 }

/-- The cursor a number of characters before. -/
def back? : Nat → Cursor → Option Cursor
  | 0, s => some s
  | n + 1, s =>
    match s.before with
    | [] => none
    | c :: before => back? n { s with before := before, rest := c :: s.rest, position := s.position - 1 }

/-- The cursor after a text, if that stands next in letters that count as the same. -/
def skipText? (rule : Text.CaseRule) : List Char → Cursor → Option Cursor
  | [], s => some s
  | c :: text, s =>
    match s.rest with
    | [] => none
    | d :: rest => if rule.same c d then skipText? rule text (s.skip d rest) else none

/-- There is a character of a set on one side only. -/
def isAtEdge (s : Cursor) (set : CharSet) : Bool := s.before.head?.any set.has != s.rest.head?.any set.has

/-- The cursor is at a place of a kind. -/
def isAt (s : Cursor) : Place → Bool
  | .textStart => s.before.isEmpty
  | .lineStart => s.before.head?.all (· = '\n')
  | .textEnd => s.rest.isEmpty
  | .lastLineEnd => s.rest = [] ∨ s.rest = ['\n']
  | .lineEnd => s.rest.head?.all (· = '\n')
  | .edge set => s.isAtEdge set
  | .noEdge set => !s.isAtEdge set && !(s.before.isEmpty && s.rest.isEmpty)

/-- Remembers the text since an earlier cursor. -/
def capture (t : Cursor) (index : Nat) (s : Cursor) : Cursor :=
  { t with captures := (index, ⟨s.position, t.position, s.rest⟩) :: t.captures.filter (·.1 ≠ index) }

/-- Enters a group: what it captured before counts no more inside it, unless that reaches up to the cursor. -/
def enter (s : Cursor) (index : Nat) : Cursor :=
  { s with captures := s.captures.filter fun e => e.1 ≠ index || s.position ≤ e.2.stop }

end Cursor

namespace Regex

/-- The expressions of a list one after another. -/
def all : List Regex → Regex
  | [] => .empty
  | [r] => r
  | r :: rest => .seq r (all rest)

/-- The characters of a text one after another. -/
def literal (text : String) : Regex := all (text.toList.map fun c => .one (.ofChars (String.singleton c)))

/-- As many characters of a set as possible. -/
def star (s : CharSet) : Regex := .chars true 0 none s

/-- As many characters of a set as possible, at least one. -/
def plus (s : CharSet) : Regex := .chars true 1 none s

/-- The expression if possible. -/
def opt (r : Regex) : Regex := .many true 0 (some 1) r

/-! ## Matching -/

/-- Something that hands the ends of its matches at a cursor to what follows until that succeeds. -/
abbrev Step := Cursor → (Cursor → Option Cursor) → Option Cursor

/-- Exactly `n` characters of a set. -/
def requiredChars (set : CharSet) : Nat → Step
  | 0, s, next => next s
  | n + 1, s, next =>
    match s.rest with
    | [] => none
    | c :: rest => if set.has c then requiredChars set n (s.skip c rest) next else none

/-- Up to `n` characters of a set. -/
def optionalChars (set : CharSet) (greedy : Bool) : Nat → Step
  | 0, s, next => next s
  | n + 1, s, next =>
    match s.rest with
    | [] => next s
    | c :: rest =>
      if !set.has c then next s
      else if greedy then (optionalChars set greedy n (s.skip c rest) next).or (next s)
      else (next s).or (optionalChars set greedy n (s.skip c rest) next)

/-- Exactly `n` times. -/
def required (step : Step) : Nat → Step
  | 0, s, next => next s
  | n + 1, s, next => step s fun t => required step n t next

/-- Up to `n` times; a time that does not move the cursor on is the last one. -/
def optional (step : Step) (greedy : Bool) : Nat → Step
  | 0, s, next => next s
  | n + 1, s, next =>
    let more := fun () => step s fun t =>
      if s.position < t.position then optional step greedy n t next else next t
    if greedy then (more ()).or (next s) else (next s).or (more ())

/-- Nothing, where what was looked for is found as wanted; captures made on the look stay. -/
def looked (wanted : Bool) (found : Option Cursor) : Step := fun s next =>
  match found, wanted with
  | some t, true => next { s with captures := t.captures }
  | none, false => next s
  | _, _ => none

/-- Matches an expression at a cursor. A repetition without bound of its own is tried up to `bound` times, which is to be
more than there are characters. -/
def run (bound : Nat) : Regex → Step
  | .empty, s, next => next s
  | .one set, s, next =>
    match s.rest with
    | [] => none
    | c :: rest => if set.has c then next (s.skip c rest) else none
  | .chars greedy least extra set, s, next =>
    requiredChars set least s fun t => optionalChars set greedy (extra.getD bound) t next
  | .seq a b, s, next => run bound a s fun t => run bound b t next
  | .alt a b, s, next => (run bound a s next).or (run bound b s next)
  | .many greedy least extra body, s, next =>
    required (run bound body) least s fun t => optional (run bound body) greedy (extra.getD bound) t next
  | .group index body, s, next => run bound body (s.enter index) fun t => next (t.capture index s)
  | .again index rule, s, next => ((s.captures.lookup index).bind fun c => s.skipText? rule c.text).bind next
  | .whether index yes no, s, next =>
    if (s.captures.lookup index).isSome then run bound yes s next else run bound no s next
  | .once body, s, next => (run bound body s some).bind next
  | .place kind, s, next => if s.isAt kind then next s else none
  | .ahead wanted body, s, next => looked wanted (run bound body s some) s next
  | .behind wanted width body, s, next =>
    looked wanted ((s.back? width).bind fun t => run bound body t some) s next

end Regex

end CodeAtlas
