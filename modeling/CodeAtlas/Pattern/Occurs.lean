import CodeAtlas.Pattern

/-!
# Whether a pattern occurs

If it only matters whether a pattern matches somewhere, not where and how, then the places that can be reached are followed
all at once. Every place is looked at once for each part of the pattern, however many ways lead there.
-/

namespace CodeAtlas

namespace Cursor

/-- All places of a text. -/
def places (before : List Char) (position : Nat) : List Char → List Cursor
  | [] => [⟨before, [], position, []⟩]
  | c :: rest => ⟨before, c :: rest, position, []⟩ :: places (c :: before) (position + 1) rest

/-- One of the cursors is at the place of the given one. -/
def isAmong (s : Cursor) (cursors : List Cursor) : Bool := cursors.any (·.position = s.position)

/-- One cursor for every place of the given ones. -/
def distinct (cursors : List Cursor) : List Cursor :=
  cursors.foldl (fun seen s => if s.isAmong seen then seen else s :: seen) []

end Cursor

namespace Regex

/-- The expression matches the same whatever its groups have matched, and in every way there is. -/
def isPlain : Regex → Bool
  | .empty | .one _ | .chars .. | .place _ => true
  | .seq a b | .alt a b => isPlain a && isPlain b
  | .many _ _ _ body | .group _ body => isPlain body
  | .again .. | .whether .. | .once _ | .ahead .. | .behind .. => false

/-- Where `n` steps lead. -/
def afterSteps (step : List Cursor → List Cursor) : Nat → List Cursor → List Cursor
  | 0, cursors => cursors
  | n + 1, cursors => if cursors.isEmpty then [] else afterSteps step n (Cursor.distinct (step cursors))

/-- Where up to `n` more steps lead; the last step led to the places `latest` among those reached. -/
def reachedBy (step : List Cursor → List Cursor) : Nat → (reached latest : List Cursor) → List Cursor
  | 0, reached, _ => reached
  | n + 1, reached, latest =>
    let fresh := (Cursor.distinct (step latest)).filter fun s => !s.isAmong reached
    if fresh.isEmpty then reached else reachedBy step n (fresh ++ reached) fresh

/-- Where `least` steps and up to `extra` more lead. -/
def repeated (step : List Cursor → List Cursor) (least extra : Nat) (cursors : List Cursor) : List Cursor :=
  let reached := afterSteps step least cursors
  reachedBy step extra reached reached

/-- The cursors after one character of a set. -/
def charEnds (set : CharSet) (cursors : List Cursor) : List Cursor :=
  cursors.filterMap fun s =>
    match s.rest with
    | [] => none
    | c :: rest => if set.has c then some (s.skip c rest) else none

/-- Where the matches of a plain expression end that start at the given cursors. A repetition without bound of its own is
tried up to `bound` times, which is to be more than there are characters. -/
def ends (bound : Nat) : Regex → List Cursor → List Cursor
  | .one set, cursors => charEnds set cursors
  | .chars _ least extra set, cursors => repeated (charEnds set) least (extra.getD bound) cursors
  | .seq a b, cursors => ends bound b (ends bound a cursors)
  | .alt a b, cursors => Cursor.distinct (ends bound a cursors ++ ends bound b cursors)
  | .many _ least extra body, cursors => repeated (ends bound body) least (extra.getD bound) cursors
  | .group _ body, cursors => ends bound body cursors
  | .place kind, cursors => cursors.filter (·.isAt kind)
  | _, cursors => cursors

end Regex

/-- The pattern matches somewhere in a text. -/
def Pattern.occursIn (p : Pattern) (text : List Char) : Bool :=
  if p.regex.isPlain then !(p.regex.ends (text.length + 1) (Cursor.places [] 0 text)).isEmpty
  else (p.find? text).isSome

end CodeAtlas
