import CodeAtlas.Language

/-!
# Stripping comments

Block comments are replaced by the newlines they hold, and lines that hold only a line comment become empty, so that every
line keeps its number. What starts a line comment has to be a text; a mark of another kind is an error when a line is
compared with it.
-/

namespace CodeAtlas

/-- Why the imports of a file cannot be followed. -/
inductive ScanError where
  /-- A pattern of imports has no group. -/
  | noGroup
  /-- The first group of a pattern took no part in a match. -/
  | emptyGroup
  /-- The mark of a line comment is no text. -/
  | badLineMark (kind : String)
  /-- The script languages of a template are no object. -/
  | noScripts (kind : String)
  /-- The script language of a template is nothing that can be looked up. -/
  | badScript (kind : String)
  /-- A file that may be imported cannot be looked up. -/
  | lookup (error : LookupError)
deriving Repr, DecidableEq

/-- What the error says. -/
def ScanError.message : ScanError → String
  | noGroup => "no such group"
  | emptyGroup => "'NoneType' object has no attribute 'strip'"
  | badLineMark kind => "tuple for startswith must only contain str, not " ++ kind
  | noScripts kind => "'" ++ kind ++ "' object has no attribute 'get'"
  | badScript kind => "unhashable type: '" ++ kind ++ "'"
  | lookup error => error.message

namespace Comments

/-- Cuts a text after the first occurrence of a mark: what stands before the mark, and what follows it. -/
def cutAfter (mark : List Char) : List Char → Option (List Char × List Char)
  | [] => if mark.isEmpty then some ([], []) else none
  | c :: rest =>
    if mark.isPrefixOf (c :: rest) then some ([], (c :: rest).drop mark.length)
    else (cutAfter mark rest).map fun cut => (c :: cut.1, cut.2)

/-- What is cut is made up of the two parts and the mark. -/
theorem length_cutAfter {mark text before after : List Char} (h : cutAfter mark text = some (before, after)) :
    before.length + mark.length + after.length = text.length := by
  induction text generalizing before with
  | nil =>
    unfold cutAfter at h
    split at h
    · rename_i empty
      obtain ⟨rfl, rfl⟩ := Prod.mk.inj (Option.some.inj h)
      simp [List.isEmpty_iff.1 empty]
    · simp at h
  | cons c rest ih =>
    unfold cutAfter at h
    split at h
    · rename_i found
      obtain ⟨rfl, rfl⟩ := Prod.mk.inj (Option.some.inj h)
      have := (List.isPrefixOf_iff_prefix.1 found).length_le
      simp only [List.length_nil, List.length_drop]
      omega
    · obtain ⟨cut, hcut, heq⟩ := Option.map_eq_some_iff.1 h
      obtain ⟨rfl, rfl⟩ := Prod.mk.inj heq
      have := ih hcut
      simp only [List.length_cons]
      omega

/-- The comment at the start of a text, without its marks, and what follows it. -/
def commentAt (opening closing text : List Char) : Option (List Char × List Char) :=
  if opening.isPrefixOf text then cutAfter closing (text.drop opening.length) else none

/-- A text that starts with a comment is made up of the comment, its marks and what follows. -/
theorem length_commentAt {opening closing text comment after : List Char}
    (h : commentAt opening closing text = some (comment, after)) :
    opening.length + comment.length + closing.length + after.length = text.length := by
  unfold commentAt at h
  split at h
  · rename_i found
    have := (List.isPrefixOf_iff_prefix.1 found).length_le
    have := length_cutAfter h
    simp only [List.length_drop] at this
    omega
  · simp at h

/-- The newlines of a text. -/
def newlinesOf (text : List Char) : List Char := text.filter (· = '\n')

/-- Replaces each block comment by its newlines. If both marks are empty, every character is a comment. -/
def dropBlocks (opening closing : List Char) : List Char → List Char
  | [] => []
  | c :: rest =>
    match _h : commentAt opening closing (c :: rest) with
    | some (comment, after) =>
      if _marked : 0 < opening.length + closing.length then
        newlinesOf (opening ++ comment ++ closing) ++ dropBlocks opening closing after
      else newlinesOf [c] ++ dropBlocks opening closing rest
    | none => c :: dropBlocks opening closing rest
termination_by text => text.length
decreasing_by
  · have := length_commentAt _h
    omega
  · simp
  · simp

/-- The line holds nothing but a comment. Marks after the first that fits are not looked at. -/
def isCommentLine (marks : List Document) (line : List Char) : Except ScanError Bool :=
  match marks with
  | [] => .ok false
  | .text mark :: rest => if mark.toList.isPrefixOf line then .ok true else isCommentLine rest line
  | other :: _ => .error (.badLineMark other.kindName)

/-- A line, empty if it holds nothing but a comment. -/
def dropLine (marks : List Document) (line : List Char) : Except ScanError (List Char) :=
  (isCommentLine marks (Text.trimStart line)).map fun comment => if comment then [] else line

/-- Empties the lines that hold only a comment. -/
def dropLines (marks : List Document) (text : List Char) : Except ScanError (List Char) :=
  if marks.isEmpty then .ok text
  else ((Text.splitOn '\n' text).mapM (dropLine marks)).map (Text.joinWith '\n')

end Comments

/-- A text without the comments of the language. -/
def Language.stripComments (l : Language) (text : List Char) : Except ScanError (List Char) :=
  Comments.dropLines l.lineMarks
    (l.blockMarks.foldl (fun t marks => Comments.dropBlocks marks.1.toList marks.2.toList t) text)

end CodeAtlas
