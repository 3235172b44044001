import CodeAtlas.Path
import CodeAtlas.Path.Bracket
import CodeAtlas.Pattern.CharSet

/-!
# Glob patterns

A glob pattern is a path whose segments may hold wildcards: a star for any characters, a question mark for one character,
and sets in brackets. It is compared with the last segments of a path, from the right.
-/

namespace CodeAtlas

/-- One element of a pattern for a segment. -/
inductive GlobToken where
  /-- Any characters. -/
  | any
  /-- One character of a set. -/
  | one (set : CharSet)
deriving Repr, DecidableEq

namespace Glob

/-- Characters and ranges of a set in brackets. -/
def setItems : List Char → List CharItem
  | low :: '-' :: high :: rest => .range low high :: setItems rest
  | c :: rest => .range c c :: setItems rest
  | [] => []

/-- The content of a set without the ranges at its start that hold nothing. -/
def dropEmptyRanges : List Char → List Char
  | low :: '-' :: high :: rest => if high < low then dropEmptyRanges rest else low :: '-' :: high :: rest
  | content => content

/-- The set of what stands between brackets. An exclamation mark in front negates it, also if only ranges that hold
nothing stand before the mark. -/
def setOf : List Char → CharSet
  | '!' :: rest => ⟨true, setItems rest⟩
  | content =>
    match dropEmptyRanges content with
    | '!' :: rest => ⟨true, setItems rest⟩
    | rest => ⟨false, setItems rest⟩

/-- Reads the pattern of a segment; a bracket that is never closed is a character. -/
def tokens : List Char → List GlobToken
  | [] => []
  | '*' :: rest => .any :: tokens rest
  | '?' :: rest => .one .any :: tokens rest
  | '[' :: rest =>
    match _h : Bracket.split? rest with
    | some (content, after) => .one (setOf content) :: tokens after
    | none => .one (.ofChars "[") :: tokens rest
  | c :: rest => .one ⟨false, [.range c c]⟩ :: tokens rest
termination_by text => text.length
decreasing_by
  · simp
  · simp
  · have := Bracket.length_split? _h; simp; omega
  · simp
  · simp

/-- The pattern covers the whole text. -/
def covers : List GlobToken → List Char → Bool
  | [], text => text.isEmpty
  | .any :: rest, [] => covers rest []
  | .any :: rest, c :: text => covers rest (c :: text) || covers (.any :: rest) text
  | .one _ :: _, [] => false
  | .one set :: rest, c :: text => set.has c && covers rest text
termination_by pattern text => pattern.length + text.length

/-! ## Rows of answers

Whether a pattern covers a text depends on whether its ends cover the ends of the text. A row holds the answers of all ends
of a pattern for one text, so that no question is asked twice.
-/

/-- The answers of all ends of a pattern for a text, the whole pattern first. -/
def answers : List GlobToken → List Char → List Bool
  | [], text => [covers [] text]
  | token :: rest, text => covers (token :: rest) text :: answers rest text

/-- The row of the text without characters. -/
def emptyRow : List GlobToken → List Bool
  | [] => [true]
  | .any :: rest =>
    let row := emptyRow rest
    row.headD false :: row
  | .one _ :: rest => false :: emptyRow rest

/-- The row of a text with one more character in front. -/
def nextRow (c : Char) : List GlobToken → List Bool → List Bool
  | .any :: rest, now :: later =>
    let row := nextRow c rest later
    (row.headD false || now) :: row
  | .one set :: rest, _ :: later => (later.headD false && set.has c) :: nextRow c rest later
  | _, _ => [false]

/-- The row of a text. -/
def row (pattern : List GlobToken) : List Char → List Bool
  | [] => emptyRow pattern
  | c :: text => nextRow c pattern (row pattern text)

/-- A row starts with the answer of the whole pattern. -/
theorem headD_answers (pattern : List GlobToken) (text : List Char) :
    (answers pattern text).headD false = covers pattern text := by
  cases pattern <;> rfl

/-- One more character in front turns answers into answers. -/
theorem nextRow_answers (c : Char) (pattern : List GlobToken) (text : List Char) :
    nextRow c pattern (answers pattern text) = answers pattern (c :: text) := by
  induction pattern with
  | nil => simp [nextRow, answers, covers]
  | cons token rest ih =>
    cases token with
    | any => simp only [answers, nextRow, ih, headD_answers, covers]
    | one set => simp only [answers, nextRow, ih, headD_answers, covers, Bool.and_comm]

/-- A row holds the answers. -/
theorem row_eq_answers (pattern : List GlobToken) (text : List Char) : row pattern text = answers pattern text := by
  induction text with
  | nil =>
    induction pattern with
    | nil => simp [row, emptyRow, answers, covers]
    | cons token rest ih =>
      simp only [row] at ih
      cases token with
      | any => simp only [row, emptyRow, answers, ih, headD_answers, covers]
      | one set => simp only [row, emptyRow, answers, ih, covers]
  | cons c text ih => rw [row, ih, nextRow_answers]

/-- The pattern of a segment covers the segment. -/
def coversSegment (pattern segment : String) : Bool := (row (tokens pattern.toList) segment.toList).headD false

/-- The first answer of the row decides. -/
theorem coversSegment_eq_covers (pattern segment : String) :
    coversSegment pattern segment = covers (tokens pattern.toList) segment.toList := by
  rw [coversSegment, row_eq_answers, headD_answers]

/-- The last segments are covered by the segments of the pattern. -/
def coversEnd (pattern segments : List String) : Bool :=
  pattern.length ≤ segments.length && (pattern.reverse.zip segments.reverse).all fun p => coversSegment p.1 p.2

/-- The pattern matches the path with these segments. An absolute pattern matches none, and a pattern without segments is
no pattern. -/
def matches? (pattern : String) (segments : List String) : Option Bool :=
  let p := Path.parse pattern
  if p.isAbsolute then some false
  else if p.segments.isEmpty then none
  else some (coversEnd p.segments segments)

end Glob

end CodeAtlas
