import CodeAtlas.Language.Bundled
import CodeAtlas.Proofs.Language.Lines
import CodeAtlas.Proofs.Pattern.Preference

/-!
# Keywords at the start of lines

The patterns of import statements with dotted names read a keyword at the start of a line, behind spaces and tabs, and other
things behind it (`stating`). So what such a pattern matches is decided by the word that a line starts with (`leadWord`): lines
that start with another word are passed (`finds_otherLines`), however many there are.
-/

namespace CodeAtlas.Bundled

open Regex

/-! ## Patterns that read a keyword -/

/-- A pattern that reads a keyword at the start of a line, and other things behind it. -/
def stating (keyword : String) (tails : List Regex) (groups : Nat) : Pattern :=
  ⟨all ([.place .lineStart] ++ ([gap, literal keyword, gap1] ++ tails)), groups⟩

theorem has_gapSet {c : Char} : gapSet.has c = true ↔ c = ' ' ∨ c = '\t' := by
  simp [gapSet, CharSet.has_ofChars]

theorem isWord_of_gap {c : Char} (h : gapSet.has c = true) : Text.isWord c = false := by
  rcases has_gapSet.mp h with rfl | rfl <;> decide

theorem noGap_of_isWord {c : Char} (h : Text.isWord c = true) : gapSet.has c = false := by
  refine Bool.eq_false_iff.mpr fun isGap => ?_
  rw [isWord_of_gap isGap] at h
  cases h

/-- Sets without newlines are left where a line ends. -/
theorem leaves_of_endsLine {set : CharSet} {rest : List Char} (ends : ImportStyle.EndsLine rest)
    (newline : set.has '\n' = false) : Leaves set rest := fun _ first => ends.eq_newline first ▸ newline

/-- The word that a line starts with, behind spaces and tabs. -/
def leadWord (line : List Char) : List Char := (line.dropWhile gapSet.has).takeWhile Text.isWord

theorem leadWord_append {indent word more : List Char} (gap : ∀ c ∈ indent, gapSet.has c = true)
    (isWord : ∀ c ∈ word, Text.isWord c = true) (some : word ≠ []) (leaves : Leaves .word more) :
    leadWord (indent ++ (word ++ more)) = word :=
  Text.takeWhile_dropWhile gap (fun c mem => ⟨isWord c mem, noGap_of_isWord (isWord c mem)⟩) some
    fun c first => CharSet.has_word.symm.trans (leaves c first)

/-- The text is a word. -/
def IsWord (keyword : String) : Prop := keyword.toList ≠ [] ∧ ∀ c ∈ keyword.toList, Text.isWord c = true

variable {keyword : String} {tails : List Regex} {groups bound : Nat} {s : Cursor} {line rest : List Char}

/-- What reads a keyword and a gap is rejected where another word stands. -/
theorem rejects_of_leadWord (word : IsWord keyword) (other : leadWord s.rest ≠ keyword.toList) :
    Rejects bound (all ([gap, literal keyword, gap1] ++ tails)) s := by
  refine rejects_append (rejects_of_plain ?_ fun w reads starts => other ?_)
  · simp [all, isSimple, isSimple_literal, gap, gap1, Regex.star, plus]
  · simp only [spells_all_cons, spells_literal, gap, gap1, Regex.star, plus, Spells] at reads
    obtain ⟨indent, _, ⟨blank, -⟩, ⟨_, _, rfl, ⟨behind, _, ⟨blank', some, -⟩, rfl, rfl⟩, rfl⟩, rfl⟩ := reads
    obtain ⟨rest, text⟩ := starts
    obtain ⟨c, more, rfl⟩ := List.exists_cons_of_ne_nil (List.ne_nil_of_length_pos some)
    have leaves : Leaves .word (c :: (more ++ rest)) :=
      leaves_cons (CharSet.has_word.trans (isWord_of_gap (blank' c List.mem_cons_self))) _
    have whole : s.rest = indent ++ (keyword.toList ++ c :: (more ++ rest)) := by
      rw [← text]
      simp
    rw [whole]
    exact leadWord_append blank word.2 word.1 leaves

/-- A pattern that reads a keyword matches no line that starts with another word. -/
theorem matchAt_of_leadWord (word : IsWord keyword) (other : leadWord s.rest ≠ keyword.toList) :
    (stating keyword tails groups).matchAt bound s true = none := by
  refine Pattern.matchAt_of_rejects fun next => ?_
  change run bound (all ([.place .lineStart] ++ _)) s next = none
  rw [run_all_append]
  change (if s.isAt .lineStart then _ else _) = _
  split
  · exact rejects_of_leadWord word other _
  · rfl

/-- A pattern that reads a keyword matches only at the start of a line. -/
theorem matchAt_of_inside (inside : s.isAt .lineStart = false) : (stating keyword tails groups).matchAt bound s true = none :=
  Pattern.matchAt_of_rejects (rejects_append (rejects_place inside))

/-- A pattern that reads a keyword matches no line break. -/
theorem matchAt_of_lineEnd (word : IsWord keyword) (ends : ImportStyle.EndsLine s.rest) :
    (stating keyword tails groups).matchAt bound s true = none := by
  refine matchAt_of_leadWord word fun same => word.1 (same.symm.trans ?_)
  cases text : s.rest with
  | nil => rfl
  | cons c rest =>
    obtain rfl : c = '\n' := ends.eq_newline (by rw [text]; rfl)
    rfl

/-- A pattern that reads a keyword goes on behind it where the keyword stands at the start of a line. -/
theorem prefers_stating {indent : List Char} {t : Cursor} (word : IsWord keyword) (start : s.isAt .lineStart = true)
    (blank : ∀ c ∈ indent, gapSet.has c = true) (text : s.rest = indent ++ (keyword.toList ++ ' ' :: rest))
    (leaves : Leaves gapSet rest) (length : s.rest.length ≤ bound)
    (others : Prefers bound (all tails) (s.after (indent ++ (keyword.toList ++ [' '])) rest) t) :
    Prefers bound (stating keyword tails groups).regex s t := by
  have lengths : indent.length ≤ bound ∧ 1 ≤ bound := by
    simp only [text, List.length_append, List.length_cons] at length
    omega
  have leaves' : Leaves gapSet (keyword.toList ++ ' ' :: rest) := by
    obtain ⟨c, more, first⟩ := List.exists_cons_of_ne_nil word.1
    rw [first, List.cons_append]
    exact leaves_cons (noGap_of_isWord (word.2 c (by rw [first]; exact List.mem_cons_self))) _
  have here : ((s.after indent (keyword.toList ++ ' ' :: rest)).after keyword.toList (' ' :: rest)).after [' '] rest =
      s.after (indent ++ (keyword.toList ++ [' '])) rest := by
    rw [Cursor.after_after, Cursor.after_after]
  refine prefers_append (prefers_cons (prefers_place start) prefers_nil) (prefers_append ?_ (here ▸ others))
  refine prefers_cons (prefers_star text blank leaves' lengths.1) (prefers_cons (prefers_literal rfl) ?_)
  exact prefers_cons (prefers_plus (w := [' ']) rfl (by decide) (by decide) leaves lengths.2) prefers_nil

/-! ## Lines that are passed -/

section Lines

variable {dotted : Bool} {found : List FoundImport}

/-- A line that starts with another word is passed. -/
theorem finds_line (word : IsWord keyword) (whole : '\n' ∉ line) (other : leadWord (line ++ rest) ≠ keyword.toList)
    (text : s.rest = line ++ rest)
    (later : Imports.Finds dotted (stating keyword tails groups) bound (s.after line rest) found) :
    Imports.Finds dotted (stating keyword tails groups) bound s found := by
  refine later.quiet text fun x y parts more => ?_
  -- behind its first character a line has no place where a line starts
  rcases List.eq_nil_or_concat' x with rfl | ⟨x, c, rfl⟩
  · obtain rfl : line = y := parts
    exact matchAt_of_leadWord word other
  · have inside : c ≠ '\n' := fun newline => whole (by rw [parts, ← newline]; simp)
    refine matchAt_of_inside ?_
    change ((x ++ [c]).reverse ++ s.before).head?.all (· = '\n') = false
    simpa using inside

/-- Lines that start with other words are passed. -/
theorem finds_otherLines (word : IsWord keyword) : ∀ {lines : List (List Char)} {s : Cursor}, lines ≠ [] →
    (∀ line ∈ lines, '\n' ∉ line ∧ ∀ rest, ImportStyle.EndsLine rest → leadWord (line ++ rest) ≠ keyword.toList) →
      s.rest = Text.joinWith '\n' lines ++ rest → ImportStyle.EndsLine rest →
        Imports.Finds dotted (stating keyword tails groups) bound (s.after (Text.joinWith '\n' lines) rest) found →
          Imports.Finds dotted (stating keyword tails groups) bound s found
  | [], _, nonempty, _, _, _, _ => absurd rfl nonempty
  | [line], s, _, each, text, ends, later => by
    obtain ⟨whole, other⟩ := each line List.mem_cons_self
    exact finds_line word whole (other rest ends) text later
  | line :: next :: lines, s, _, each, text, ends, later => by
    obtain ⟨⟨whole, other⟩, below⟩ := List.forall_mem_cons.mp each
    let more := Text.joinWith '\n' (next :: lines) ++ rest
    have text' : s.rest = line ++ '\n' :: more := by
      rw [text, Text.joinWith, List.append_assoc]
      rfl
    let t := (s.after line ('\n' :: more)).skip '\n' more
    have here : t.after (Text.joinWith '\n' (next :: lines)) rest =
        s.after (Text.joinWith '\n' (line :: next :: lines)) rest := by
      rw [Cursor.skip_after, Cursor.after_after, Text.joinWith]
    rw [← here] at later
    have belowFinds := finds_otherLines word (List.cons_ne_nil next lines) below rfl ends later
    refine finds_line word whole (other ('\n' :: more) rfl) text' (belowFinds.skip rfl ?_)
    exact matchAt_of_lineEnd word rfl

end Lines

end CodeAtlas.Bundled
