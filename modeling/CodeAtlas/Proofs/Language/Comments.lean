import CodeAtlas.Proofs.Language.Sound
import CodeAtlas.Proofs.Text.Split

/-!
# What comments hide

Block comments are dropped before comment lines are recognised. As long as no line has opened a block comment, the lines are
kept as they are, and what happens to the lines below does not depend on them (`dropBlocks_lines`). So the text of a comment
line in which no block comment opens has no say in what is left of a text (`stripComments_emptyLine`), nor in the imports that
are found there (`imports_ignore_comment`). A comment line in which one opens does have a say (`sample_comment_heard`).
-/

namespace CodeAtlas

namespace Comments

variable {opening closing : List Char}

/-! ## Block comments -/

theorem dropBlocks_cons {c : Char} {rest : List Char} (closed : ¬ opening <+: c :: rest) :
    dropBlocks opening closing (c :: rest) = c :: dropBlocks opening closing rest := by
  have none : commentAt opening closing (c :: rest) = none := by simp [commentAt, closed]
  rw [dropBlocks]
  split
  · rename_i found
    rw [none] at found
    cases found
  · rfl

/-- A text in which no comment opens is kept. -/
theorem dropBlocks_of_quiet {text : List Char} (quiet : ¬ opening <:+: text) : dropBlocks opening closing text = text := by
  induction text with
  | nil => rw [dropBlocks]
  | cons c text ih =>
    rw [dropBlocks_cons fun opens => quiet opens.isInfix]
    rw [ih fun opens => quiet (opens.trans (List.suffix_cons c text).isInfix)]

/-- A mark does not reach beyond the end of a line. -/
theorem prefix_of_notMem {mark rest : List Char} (line : List Char) (free : '\n' ∉ mark) (h : mark <+: line ++ '\n' :: rest) :
    mark <+: line := by
  have whole : line <+: line ++ '\n' :: rest := List.prefix_append line _
  rcases List.prefix_or_prefix_of_prefix h whole with within | beyond
  · exact within
  · obtain ⟨more, rfl⟩ := beyond
    have more' : more <+: '\n' :: rest := (List.prefix_append_right_inj line).mp h
    cases more with
    | nil => simp
    | cons c more =>
      obtain ⟨rfl, -⟩ := List.cons_prefix_cons.mp more'
      exact absurd (List.mem_append_right line List.mem_cons_self) free

/-- A line in which no comment opens is kept, and what follows is treated as if the line were not there. -/
theorem dropBlocks_line {line : List Char} (rest : List Char) (free : '\n' ∉ opening) (quiet : ¬ opening <:+: line) :
    dropBlocks opening closing (line ++ '\n' :: rest) = line ++ '\n' :: dropBlocks opening closing rest := by
  induction line with
  | nil =>
    refine dropBlocks_cons fun opens => quiet ?_
    exact (prefix_of_notMem [] free opens).isInfix
  | cons c line ih =>
    have here : ¬ opening <+: c :: (line ++ '\n' :: rest) := fun opens =>
      quiet (prefix_of_notMem (c :: line) free opens).isInfix
    rw [List.cons_append, dropBlocks_cons here, ih fun opens => quiet (opens.trans (List.suffix_cons c line).isInfix),
      List.cons_append]

/-- What block comments leave of lines. -/
def keptLines (opening closing : List Char) (lines : List (List Char)) : List (List Char) :=
  if lines = [] then [] else Text.splitOn '\n' (dropBlocks opening closing (Text.joinWith '\n' lines))

theorem keptLines_eq_nil_iff {lines : List (List Char)} : keptLines opening closing lines = [] ↔ lines = [] := by
  unfold keptLines
  split
  · rename_i none
    simp [none]
  · rename_i more
    simp [more, Text.splitOn_ne_nil]

theorem notMem_of_mem_keptLines {lines : List (List Char)} : ∀ line ∈ keptLines opening closing lines, '\n' ∉ line := by
  intro line mem
  unfold keptLines at mem
  split at mem
  · cases mem
  · exact Text.notMem_of_mem_splitOn mem

/-- Lines in which no comment opens are kept, and what is left of the lines below does not depend on them. -/
theorem dropBlocks_lines {front : List (List Char)} (rest : List (List Char)) (free : '\n' ∉ opening)
    (quiet : ∀ line ∈ front, ¬ opening <:+: line) :
    dropBlocks opening closing (Text.joinWith '\n' (front ++ rest)) =
      Text.joinWith '\n' (front ++ keptLines opening closing rest) := by
  induction front with
  | nil =>
    rw [List.nil_append, List.nil_append, keptLines]
    split
    · rename_i none
      rw [none, Text.joinWith, dropBlocks]
    · rw [Text.joinWith_splitOn]
  | cons line front ih =>
    obtain ⟨here, below⟩ := List.forall_mem_cons.mp quiet
    rw [List.cons_append, List.cons_append]
    by_cases last : front ++ rest = []
    · obtain ⟨rfl, rfl⟩ := List.append_eq_nil_iff.mp last
      exact dropBlocks_of_quiet here
    · have last' : front ++ keptLines opening closing rest ≠ [] := by
        simpa only [ne_eq, List.append_eq_nil_iff, keptLines_eq_nil_iff] using last
      rw [Text.joinWith_cons line last, Text.joinWith_cons line last', dropBlocks_line _ free here, ih below]

/-! ## Several kinds of block comments -/

/-- What block comments with the marks, one kind after another, leave of lines. -/
def keptByAll (marks : List (String × String)) (lines : List (List Char)) : List (List Char) :=
  marks.foldl (fun lines m => keptLines m.1.toList m.2.toList lines) lines

theorem notMem_of_mem_keptByAll {marks : List (String × String)} {lines : List (List Char)}
    (whole : ∀ line ∈ lines, '\n' ∉ line) : ∀ line ∈ keptByAll marks lines, '\n' ∉ line := by
  induction marks generalizing lines with
  | nil => exact whole
  | cons m marks ih => exact ih notMem_of_mem_keptLines

theorem foldl_dropBlocks_lines {marks : List (String × String)} {front : List (List Char)} (rest : List (List Char))
    (inLine : ∀ m ∈ marks, '\n' ∉ m.1.toList) (quiet : ∀ line ∈ front, ∀ m ∈ marks, ¬ m.1.toList <:+: line) :
    marks.foldl (fun t m => dropBlocks m.1.toList m.2.toList t) (Text.joinWith '\n' (front ++ rest)) =
      Text.joinWith '\n' (front ++ keptByAll marks rest) := by
  induction marks generalizing rest with
  | nil => rfl
  | cons m marks ih =>
    rw [List.foldl_cons, dropBlocks_lines rest (inLine m List.mem_cons_self) fun line mem =>
      quiet line mem m List.mem_cons_self]
    exact ih _ (fun m' mem => inLine m' (List.mem_cons_of_mem m mem)) fun line mem m' mem' =>
      quiet line mem m' (List.mem_cons_of_mem m mem')

/-! ## Comment lines -/

/-- A line is recognised as a comment if it starts with one of the marks. -/
theorem isCommentLine_eq_true_iff {marks : List Document} {line : List Char} (written : ∀ mark ∈ marks, mark.IsWritten) :
    isCommentLine marks line = .ok true ↔ ∃ mark, .text mark ∈ marks ∧ mark.toList <+: line := by
  induction marks with
  | nil => simp [isCommentLine]
  | cons first marks ih =>
    obtain ⟨⟨mark, rfl⟩, others⟩ := List.forall_mem_cons.mp written
    rw [isCommentLine]
    by_cases starts : mark.toList <+: line
    · rw [if_pos (List.isPrefixOf_iff_prefix.mpr starts)]
      exact ⟨fun _ => ⟨mark, List.mem_cons_self, starts⟩, fun _ => rfl⟩
    · rw [if_neg (mt List.isPrefixOf_iff_prefix.mp starts), ih others]
      constructor
      · rintro ⟨mark', mem, starts'⟩
        exact ⟨mark', List.mem_cons_of_mem _ mem, starts'⟩
      · rintro ⟨mark', mem, starts'⟩
        rcases List.mem_cons.mp mem with same | mem
        · exact absurd (Document.text.inj same ▸ starts') starts
        · exact ⟨mark', mem, starts'⟩

theorem dropLine_nil {marks : List Document} (written : ∀ mark ∈ marks, mark.IsWritten) : dropLine marks [] = .ok [] := by
  obtain ⟨comment, looked, -⟩ := isCommentLine_succeeds (Text.trimStart []) written
  rw [dropLine, looked]
  cases comment <;> rfl

/-- Lines that are treated alike can be put for each other. -/
theorem dropLines_congr {marks : List Document} {front back : List (List Char)} {line other : List Char}
    (whole : ∀ text ∈ front ++ line :: back, '\n' ∉ text) (whole' : '\n' ∉ other) (marked : marks ≠ [])
    (alike : dropLine marks line = dropLine marks other) :
    dropLines marks (Text.joinWith '\n' (front ++ line :: back)) =
      dropLines marks (Text.joinWith '\n' (front ++ other :: back)) := by
  have whole'' : ∀ text ∈ front ++ other :: back, '\n' ∉ text := by
    simp only [List.forall_mem_append, List.forall_mem_cons] at whole ⊢
    exact ⟨whole.1, whole', whole.2.2⟩
  have marked' : ¬ marks.isEmpty := by simpa using marked
  rw [dropLines, dropLines, if_neg marked', if_neg marked']
  rw [Text.splitOn_joinWith whole (by simp), Text.splitOn_joinWith whole'' (by simp)]
  simp only [List.mapM_append, List.mapM_cons, alike]

end Comments

namespace Language

open Comments

/-- The line holds nothing but a line comment: after blanks it starts with a mark of line comments. -/
def IsComment (l : Language) (line : List Char) : Prop :=
  ∃ mark, .text mark ∈ l.lineMarks ∧ mark.toList <+: Text.trimStart line

/-- No block comment opens in the line. -/
def IsQuiet (l : Language) (line : List Char) : Prop := ∀ marks ∈ l.blockMarks, ¬ marks.1.toList <:+: line

/-- The text of a comment line in which no block comment opens, below lines in which none opens, has no say in what is left
of a text. -/
theorem stripComments_emptyLine {l : Language} (written : ∀ mark ∈ l.lineMarks, mark.IsWritten)
    (inLine : ∀ marks ∈ l.blockMarks, '\n' ∉ marks.1.toList) {earlier later : List (List Char)} {line : List Char}
    (whole : ∀ text ∈ earlier ++ line :: later, '\n' ∉ text) (comment : l.IsComment line)
    (quiet : ∀ text ∈ earlier ++ [line], l.IsQuiet text) :
    l.stripComments (Text.joinWith '\n' (earlier ++ line :: later)) =
      l.stripComments (Text.joinWith '\n' (earlier ++ [] :: later)) := by
  have quiet' : ∀ text ∈ earlier ++ [[]], l.IsQuiet text := by
    simp only [List.forall_mem_append, List.forall_mem_singleton] at quiet ⊢
    exact ⟨quiet.1, fun marks mem opens => quiet.2 marks mem (opens.trans List.nil_infix)⟩
  have marked : l.lineMarks ≠ [] := by
    obtain ⟨mark, mem, -⟩ := comment
    exact List.ne_nil_of_mem mem
  have alike : dropLine l.lineMarks line = dropLine l.lineMarks [] := by
    rw [dropLine_nil written, dropLine, (isCommentLine_eq_true_iff written).mpr comment]
    rfl
  have below : ∀ text ∈ earlier ++ line :: keptByAll l.blockMarks later, '\n' ∉ text := by
    simp only [List.forall_mem_append, List.forall_mem_cons] at whole ⊢
    exact ⟨whole.1, whole.2.1, notMem_of_mem_keptByAll whole.2.2⟩
  -- nothing opens above, so block comments leave the same of the lines below, whatever the comment line says
  have kept := foldl_dropBlocks_lines later inLine quiet
  have kept' := foldl_dropBlocks_lines later inLine quiet'
  simp only [List.append_assoc, List.singleton_append] at kept kept'
  unfold stripComments
  rw [kept, kept']
  exact dropLines_congr below List.not_mem_nil marked alike

/-- A text that lacks a character of every mark is kept. -/
theorem stripComments_of_unmarked {l : Language} {text : List Char} (written : ∀ mark ∈ l.lineMarks, mark.IsWritten)
    (blocks : ∀ marks ∈ l.blockMarks, ¬ marks.1.toList ⊆ text)
    (lines : ∀ mark, .text mark ∈ l.lineMarks → ¬ mark.toList ⊆ text) : l.stripComments text = .ok text := by
  have kept : l.blockMarks.foldl (fun t marks => dropBlocks marks.1.toList marks.2.toList t) text = text := by
    refine List.foldlRecOn (motive := (· = text)) l.blockMarks _ rfl fun t same marks mem => ?_
    rw [same]
    exact dropBlocks_of_quiet fun opens => blocks marks mem opens.subset
  have each : ∀ line ∈ Text.splitOn '\n' text, dropLine l.lineMarks line = .ok (id line) := by
    intro line mem
    obtain ⟨comment, looked, -⟩ := isCommentLine_succeeds (Text.trimStart line) written
    cases comment with
    | false =>
      rw [dropLine, looked]
      rfl
    | true =>
      obtain ⟨mark, isMark, starts⟩ := (isCommentLine_eq_true_iff written).mp looked
      have within : Text.trimStart line ⊆ line := (List.dropWhile_sublist _).subset
      have within' := List.Subset.trans within (Text.subset_of_mem_splitOn mem)
      exact absurd (List.Subset.trans starts.subset within') (lines mark isMark)
  rw [stripComments, kept, dropLines]
  split
  · rfl
  · rw [Except.mapM_eq_ok_map each, List.map_id, Except.map, Text.joinWith_splitOn]

/-- The imports of a text are those that are left when comments are stripped. -/
def importsOf (l : Language) (text : List Char) : Except ScanError (List FoundImport) := do
  l.findImports (← l.stripComments text)

end Language

namespace Bundled

theorem opensInLine_of_mem {l : Language} (mem : l ∈ [typescript, tsx, javascript, vue, python]) :
    ∀ marks ∈ l.blockMarks, '\n' ∉ marks.1.toList := by
  simp only [List.mem_cons, List.not_mem_nil, or_false] at mem
  rcases mem with rfl | rfl | rfl | rfl | rfl <;> decide

/-- For every bundled language: a comment line in which no block comment opens, below lines in which none opens, may as well
be empty. The imports found are the same ones, at the same places. -/
theorem imports_ignore_comment {name : String} {l : Language} (bundled : registry.languages.get? name = some l)
    {content : List Char} {earlier later : List (List Char)} {line : List Char}
    (lines : Text.splitOn '\n' content = earlier ++ line :: later) (comment : l.IsComment line)
    (quiet : ∀ text ∈ earlier ++ [line], l.IsQuiet text) :
    (l.importsOf content).Gives fun found => l.importsOf (Text.joinWith '\n' (earlier ++ [] :: later)) = .ok found := by
  have mem := Registry.mem_of_get? bundled
  have sound := sound_of_mem mem
  have whole : ∀ text ∈ earlier ++ line :: later, '\n' ∉ text := fun text mem => Text.notMem_of_mem_splitOn (lines ▸ mem)
  have same := Language.stripComments_emptyLine sound.marks (opensInLine_of_mem mem) whole comment quiet
  rw [← lines, Text.joinWith_splitOn] at same
  unfold Language.importsOf
  rw [← same]
  obtain ⟨found, finds, -⟩ := (sound.stripComments_succeeds content).bind fun left _ => sound.findImports_succeeds left
  exact ⟨found, finds, finds⟩

/-- A comment with two quotes, between imports and above a text in three quotes, may as well be empty. -/
theorem sample_comment_ignored :
    let content := "import a\n # ''\nimport b\n'''\nimport c'''".toList
    let emptied := "import a\n\nimport b\n'''\nimport c'''".toList
    python.IsComment " # ''".toList ∧ (∀ text ∈ ["import a".toList, " # ''".toList], python.IsQuiet text) ∧
      (python.importsOf content).Gives fun found => python.importsOf emptied = .ok found := by
  intro content emptied
  have comment : python.IsComment " # ''".toList := ⟨"#", List.mem_cons_self, by decide⟩
  have quiet : ∀ text ∈ ["import a".toList, " # ''".toList], python.IsQuiet text := by
    unfold Language.IsQuiet
    decide +kernel
  have whole : Text.splitOn '\n' content =
      ["import a".toList] ++ " # ''".toList :: ["import b".toList, "'''".toList, "import c'''".toList] := by decide
  have bundled : registry.languages.get? "python" = some python := by rfl
  exact ⟨comment, quiet, imports_ignore_comment bundled whole comment quiet⟩

/-- A block comment that opens in a comment line is heard: it hides the import below, and the one that closes in the line
brings to light what stands behind it. -/
theorem sample_comment_heard :
    let comment := "//**/import 'a' /*".toList
    let below := ["import 'b'".toList, "/**/".toList]
    registry.languages.get? "typescript" = some typescript ∧ typescript.isTemplate = false ∧ typescript.IsComment comment ∧
      typescript.importsOf (Text.joinWith '\n' (comment :: below)) = .ok [⟨9, "a", []⟩] ∧
      typescript.importsOf (Text.joinWith '\n' ([] :: below)) = .ok [⟨9, "b", []⟩] := by
  refine ⟨by rfl, by rfl, ⟨"//", List.mem_cons_self, by decide⟩, ?_, ?_⟩
  · decide +kernel
  · decide +kernel

end Bundled

end CodeAtlas
