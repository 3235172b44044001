import CodeAtlas.Proofs.Language.Comments
import CodeAtlas.Proofs.Language.DottedPatterns

/-!
# Imports with dotted names

A text of import statements with dotted names has the imports of the statements, in their order and nothing else, and
stripping comments leaves it as it is (`importsOf_statements`). Of the two patterns, each reads the statements with its own
keyword from their start (`reads_from`, `reads_modules`), and passes the others, because no line of those starts with its
keyword (`leadWord_of_mem_lines`).
-/

namespace CodeAtlas.Bundled

open Regex

/-! ## What matches say -/

/-- A match with a first group has the modules listed there, each with the names listed in the other groups. -/
theorem ofMatch_of_group {p : Pattern} {m : Match} {c : Capture} (grouped : p.groups ≠ 0) (first : m.group? 1 = some c) :
    Imports.ofMatch true p m = .ok ((Imports.listedNames c.text).map fun module =>
      ⟨c.start, module, Imports.listedNames (Imports.nameList p m)⟩) := by
  simp [Imports.ofMatch, Imports.groupStart, grouped, first]

/-- The list of names is the group behind the first one that took part. -/
theorem nameList_of_captures {m : Match} {i : Nat} {c listed : Capture} (captures : m.captures = [(i, listed), (1, c)])
    (group : i = 2 ∨ i = 3) : Imports.nameList fromStatement m = listed.text := by
  obtain ⟨start, stop, captures'⟩ := m
  obtain rfl : captures' = _ := captures
  have nonempty : ∀ text : List Char, ([text].find? fun text => !text.isEmpty).getD [] = text := by
    rintro (_ | ⟨c, text⟩) <;> rfl
  rcases group with rfl | rfl
  · exact nonempty listed.text
  · exact nonempty listed.text

theorem listedNames_source (source : Dotted.Source) : Imports.listedNames source.text = [String.ofList source.text] := by
  have found := Dotted.listedNames_listText Dotted.Source.isItem ⟨source, none⟩ []
  simpa [Dotted.listText, Dotted.Import.text] using found

/-! ## Statements that are read -/

/-- The pattern matches the statement, and the match has its imports. -/
def Reads (p : Pattern) (bound : Nat) (s : Cursor) (st : Dotted.Statement) : Prop :=
  ∃ m, p.matchAt bound s true = some m ∧ m.stop = s.position + st.text.length ∧
    Imports.ofMatch true p m = .ok (Dotted.style.imports s.position st)

variable {bound : Nat} {s : Cursor} {indent : Dotted.Indent} {rest : List Char}

theorem gap_of_indent (indent : Dotted.Indent) : ∀ c ∈ indent.text, gapSet.has c = true :=
  fun c mem => has_gapSet.mpr (indent.blank c mem)

/-- Where the word behind the keyword starts. -/
theorem position_behind (indent : Dotted.Indent) (keyword : String) (s : Cursor) (rest : List Char) :
    (s.after (indent.text ++ (keyword.toList ++ [' '])) rest).position =
      s.position + indent.text.length + keyword.toList.length + 1 := by
  change s.position + _ = _
  rw [List.length_append, List.length_append, List.length_singleton, Nat.add_assoc, Nat.add_assoc]

theorem reads_from {source : Dotted.Source} {list : Dotted.NameList} (fresh : s.captures = [])
    (start : s.isAt .lineStart = true)
    (text : s.rest = (Dotted.Statement.mk indent (.names source list)).text ++ rest) (ends : ImportStyle.EndsLine rest)
    (length : s.rest.length ≤ bound) : Reads fromStatement bound s ⟨indent, .names source list⟩ := by
  obtain ⟨before, following, position, captures⟩ := s
  obtain rfl : captures = [] := fresh
  let following₁ := " import ".toList ++ (list.text ++ rest)
  let following₀ := source.text ++ following₁
  have text' : following = indent.text ++ ("from".toList ++ ' ' :: following₀) := by
    rw [show following = _ from text, Dotted.Statement.text_eq]
    simp [following₀, following₁, Dotted.Form.body, Dotted.Statement.keyword]
  obtain rfl := text'
  let s : Cursor := ⟨before, indent.text ++ ("from".toList ++ ' ' :: following₀), position, []⟩
  let u := s.after (indent.text ++ ("from".toList ++ [' '])) following₀
  let module : Capture := ⟨u.position, u.position + source.text.length, following₀⟩
  let v : Cursor := ((u.enter 1).after source.text following₁).capture 1 u
  have lengths : following₀.length ≤ bound ∧ following₁.length ≤ bound := by
    simp only [List.length_append, List.length_cons, following₀] at length ⊢
    omega
  have toModule : Prefers bound (.group 1 sourceExpr) u v :=
    prefers_group (prefers_sourceExpr rfl (leaves_cons (by decide) _) lengths.1)
  obtain ⟨t, toEnd, position', i, listed, captures, group, names⟩ :=
    prefers_importedNames (s := v) (c := module) rfl rfl ends lengths.2
  have whole : Prefers bound fromStatement.regex s t := by
    rw [fromStatement_eq]
    exact prefers_stating (isWord_of_mem _ (by decide)) start (gap_of_indent indent) rfl (leaves_item source.isItem _) length
      (prefers_cons toModule toEnd)
  refine ⟨_, Pattern.matchAt_of_prefers whole, ?_, ?_⟩
  · change t.position = s.position + _
    rw [position', Dotted.Statement.text_eq]
    change u.position + source.text.length + " import ".toList.length + list.text.length = _
    rw [position_behind]
    simp only [Dotted.Form.body, Dotted.Statement.keyword, List.length_append, List.length_cons]
    omega
  · have first : (Pattern.matchBetween s t).group? 1 = some module := by
      change t.captures.lookup 1 = _
      rw [captures]
      rcases group with rfl | rfl <;> rfl
    have list' : Imports.nameList fromStatement (Pattern.matchBetween s t) = listed.text := nameList_of_captures captures group
    have begin : module.start = s.position + indent.text.length + "from".toList.length + 1 :=
      position_behind indent "from" s following₀
    rw [ofMatch_of_group (by decide) first, list', names, text_of_capture, listedNames_source, begin]
    rfl

theorem reads_modules {first : Dotted.Import Dotted.Module} {others : List (Dotted.Import Dotted.Module)}
    (fresh : s.captures = []) (start : s.isAt .lineStart = true)
    (text : s.rest = (Dotted.Statement.mk indent (.modules first others)).text ++ rest) (ends : ImportStyle.EndsLine rest)
    (length : s.rest.length ≤ bound) : Reads modulesStatement bound s ⟨indent, .modules first others⟩ := by
  obtain ⟨before, following, position, captures⟩ := s
  obtain rfl : captures = [] := fresh
  let list := Dotted.listText ((first :: others).map (Dotted.Import.text Dotted.Module.text))
  have text' : following = indent.text ++ ("import".toList ++ ' ' :: (list ++ rest)) := by
    rw [show following = _ from text, Dotted.Statement.text_eq]
    simp [list, Dotted.Form.body, Dotted.Statement.keyword]
  obtain rfl := text'
  let s : Cursor := ⟨before, indent.text ++ ("import".toList ++ ' ' :: (list ++ rest)), position, []⟩
  let u := s.after (indent.text ++ ("import".toList ++ [' '])) (list ++ rest)
  let modules : Capture := ⟨u.position, u.position + list.length, list ++ rest⟩
  let t : Cursor := ((u.enter 1).after list rest).capture 1 u
  have lengthList : (list ++ rest).length ≤ bound := by
    simp only [List.length_append, List.length_cons] at length ⊢
    omega
  have toEnd : Prefers bound (.group 1 (all (moduleItem ++ [.many true 0 none nextModule]))) u t :=
    prefers_group (prefers_modules rfl ends lengthList)
  have leaves : Leaves gapSet (list ++ rest) := by
    have split : list = first.text Dotted.Module.text ++ moreItems (others.map (Dotted.Import.text Dotted.Module.text)) :=
      listText_eq_append _ _
    rw [split, Dotted.Import.text, List.append_assoc, List.append_assoc]
    exact leaves_item first.item.isItem _
  have whole : Prefers bound modulesStatement.regex s t := by
    rw [modulesStatement_eq]
    exact prefers_stating (isWord_of_mem _ (by decide)) start (gap_of_indent indent) rfl leaves length
      (prefers_cons toEnd prefers_nil)
  refine ⟨_, Pattern.matchAt_of_prefers whole, ?_, ?_⟩
  · change u.position + list.length = s.position + _
    rw [position_behind, Dotted.Statement.text_eq]
    simp only [Dotted.Form.body, Dotted.Statement.keyword, List.length_append, List.length_cons, list]
    omega
  · have first' : (Pattern.matchBetween s t).group? 1 = some modules := rfl
    -- there is no group for names
    have none : Imports.nameList modulesStatement (Pattern.matchBetween s t) = [] := rfl
    have begin : modules.start = s.position + indent.text.length + "import".toList.length + 1 :=
      position_behind indent "import" s (list ++ rest)
    rw [ofMatch_of_group (by decide) first', none, text_of_capture, Dotted.listedNames_listText Dotted.Module.isItem, begin,
      List.map_map]
    change _ = Except.ok (List.map _ (List.map _ _))
    rw [List.map_map]
    rfl

/-! ## Statements that are passed -/

theorem leadWord_nameLine (line : Dotted.Indent × Dotted.Import Dotted.Name) (leaves : Leaves .word rest) :
    leadWord (line.1.text ++ line.2.text Dotted.Name.text ++ rest) = line.2.item.text := by
  have alias' : Leaves .word (line.2.alias?.elim [] (fun other => " as ".toList ++ other.text) ++ rest) := by
    cases line.2.alias? with
    | none => exact leaves
    | some other => exact leaves_cons (c := ' ') (by decide) _
  rw [Dotted.Import.text, List.append_assoc, List.append_assoc]
  exact leadWord_append (gap_of_indent line.1) line.2.item.isWord line.2.item.some alias'

/-- A line of a name starts with that name, which is no keyword. -/
theorem leadWord_of_nameLines {keyword : String} (known : keyword ∈ Dotted.keywords) {comma : Bool}
    (ends : ImportStyle.EndsLine rest) : ∀ lines : List (Dotted.Indent × Dotted.Import Dotted.Name),
      ∀ line ∈ Dotted.nameLines comma lines, leadWord (line ++ rest) ≠ keyword.toList := by
  have each : ∀ (line : Dotted.Indent × Dotted.Import Dotted.Name) {back : List Char}, Leaves .word (back ++ rest) →
      leadWord (line.1.text ++ line.2.text Dotted.Name.text ++ back ++ rest) ≠ keyword.toList := by
    intro line back leaves
    rw [List.append_assoc, leadWord_nameLine line leaves]
    exact line.2.item.free keyword known
  have isComma : Leaves .word ([','] ++ rest) := leaves_cons (by decide) rest
  intro lines
  induction lines with
  | nil => exact nofun
  | cons line lines ih =>
    cases lines with
    | nil =>
      refine List.forall_mem_singleton.mpr (each line ?_)
      cases comma
      · exact leaves_of_endsLine ends (by decide)
      · exact isComma
    | cons next lines => exact List.forall_mem_cons.mpr ⟨each line isComma, ih⟩

/-- A statement with another keyword has no line that starts with the keyword. -/
theorem leadWord_of_mem_lines {keyword : String} (known : keyword ∈ ["from", "import"]) {st : Dotted.Statement}
    (other : st.keyword ≠ keyword) (ends : ImportStyle.EndsLine rest) :
    ∀ line ∈ st.lines, leadWord (line ++ rest) ≠ keyword.toList := by
  have first : ∀ more, leadWord (st.indent.text ++ (st.keyword.toList ++ ' ' :: more)) ≠ keyword.toList := by
    intro more
    have word : IsWord st.keyword := isWord_of_mem _ st.keyword_mem
    rw [leadWord_append (gap_of_indent st.indent) word.2 word.1 (leaves_cons (by decide) more)]
    exact fun same => other (String.toList_injective same)
  obtain ⟨indent, form⟩ := st
  cases form with
  | modules item others =>
    have whole := first (Dotted.listText ((item :: others).map (Dotted.Import.text Dotted.Module.text)) ++ rest)
    refine List.forall_mem_singleton.mpr ?_
    simpa [Dotted.Statement.keyword] using whole
  | names source list =>
    have start : ∀ more : List Char,
        leadWord (indent.text ++ "from ".toList ++ source.text ++ " import ".toList ++ more ++ rest) ≠ keyword.toList := by
      intro more
      have whole := first (source.text ++ " import ".toList ++ more ++ rest)
      simpa [Dotted.Statement.keyword] using whole
    cases list with
    | inline item others => exact List.forall_mem_singleton.mpr (start _)
    | lines item others comma closing =>
      obtain ⟨isKeyword, some⟩ : keyword ∈ Dotted.keywords ∧ keyword.toList ≠ [] :=
        (by decide : ∀ keyword ∈ ["from", "import"], keyword ∈ Dotted.keywords ∧ keyword.toList ≠ []) keyword known
      refine List.forall_mem_cons.mpr ⟨start _, List.forall_mem_append.mpr ⟨?_, List.forall_mem_singleton.mpr ?_⟩⟩
      · exact leadWord_of_nameLines isKeyword ends (item :: others)
      · have none : leadWord (closing.text ++ [')'] ++ rest) = [] := by
          rw [leadWord, List.append_assoc, List.dropWhile_append_of_pos (gap_of_indent closing)]
          rfl
        rw [none]
        exact some.symm

/-! ## The two patterns -/

theorem isReadBy_keyword {keyword : String} {tails : List Regex} {groups : Nat} (known : keyword ∈ ["from", "import"])
    (reads : ∀ {bound : Nat} {s : Cursor} {st : Dotted.Statement} {rest : List Char}, st.keyword = keyword → s.captures = [] →
      s.isAt .lineStart = true → s.rest = st.text ++ rest → ImportStyle.EndsLine rest → s.rest.length ≤ bound →
        Reads (stating keyword tails groups) bound s st) :
    Dotted.style.IsReadBy true (stating keyword tails groups) keyword where
  blank := matchAt_of_lineEnd (isWord_of_mem _ known)
  line {bound s st rest found} start text ends length later := by
    by_cases same : st.keyword = keyword
    · rw [if_pos (show Dotted.style.kind st = keyword from same)]
      have fresh : s.captures = [] := later.1
      obtain ⟨m, hits, stop, gives⟩ := reads same fresh start text ends length
      have some : Dotted.style.text st ≠ [] := by
        change st.text ≠ []
        simp [Dotted.Statement.text_eq]
      exact later.hit text hits some stop gives
    · rw [if_neg (show Dotted.style.kind st ≠ keyword from same)]
      have whole : ∀ line ∈ st.lines, ∀ c ∈ line, c ≠ '\n' := by
        refine st.forall_mem_lines ?_ ?_ (by decide)
        · rintro _ (rfl | rfl) <;> decide
        · rintro _ isWord rfl
          exact absurd isWord (by decide)
      refine finds_otherLines (isWord_of_mem _ known) st.lines_ne_nil (fun line mem => ⟨?_, ?_⟩) text ends later
      · exact fun newline => whole line mem '\n' newline rfl
      · exact fun rest ends => leadWord_of_mem_lines known same ends line mem

theorem isReadBy_from : Dotted.style.IsReadBy true fromStatement "from" := by
  rw [fromStatement_eq]
  refine isReadBy_keyword (by decide) fun {bound s st rest} same fresh start text ends length => ?_
  obtain ⟨indent, form⟩ := st
  cases form with
  | names source list => exact reads_from fresh start text ends length
  | modules first others => exact absurd same (by simp [Dotted.Statement.keyword])

theorem isReadBy_modules : Dotted.style.IsReadBy true modulesStatement "import" := by
  rw [modulesStatement_eq]
  refine isReadBy_keyword (by decide) fun {bound s st rest} same fresh start text ends length => ?_
  obtain ⟨indent, form⟩ := st
  cases form with
  | names source list => exact absurd same (by simp [Dotted.Statement.keyword])
  | modules first others => exact reads_modules fresh start text ends length

/-! ## Texts of statements -/

theorem dotted_isPlaced : Dotted.style.IsPlaced := by
  intro position st
  refine ⟨position + st.indent.text.length + st.keyword.toList.length + 1, by omega, ?_, ?_⟩
  · change _ ≤ position + st.text.length
    rw [Dotted.Statement.text_eq]
    simp only [List.length_append, List.length_cons]
    omega
  · intro j mem
    obtain ⟨i, -, rfl⟩ := List.mem_map.mp mem
    rfl

/-- Statements hold no mark of a comment. -/
theorem unmarked_textOf (statements : List Dotted.Statement) (empty : Nat) :
    ∀ c ∈ Dotted.style.textOf statements empty, c ∉ ['#', '\'', '"'] := by
  have lines : ∀ st : Dotted.Statement, ∀ line ∈ st.lines, ∀ c ∈ line, c ∉ ['#', '\'', '"'] := by
    refine Dotted.Statement.forall_mem_lines ?_ ?_ (by decide)
    · rintro _ (rfl | rfl) <;> decide
    · intro c isWord mark
      have noWord : ∀ c ∈ ['#', '\'', '"'], Text.isWord c = false := by decide
      rw [noWord c mark] at isWord
      cases isWord
  refine Text.forall_mem_joinWith (by decide) (List.forall_mem_append.mpr ⟨?_, ?_⟩)
  · intro text mem
    obtain ⟨st, -, rfl⟩ := List.mem_map.mp mem
    exact Text.forall_mem_joinWith (by decide) (lines st)
  · intro text mem
    rw [List.eq_of_mem_replicate mem]
    exact nofun

theorem stripComments_textOf (statements : List Dotted.Statement) (empty : Nat) :
    python.stripComments (Dotted.style.textOf statements empty) = .ok (Dotted.style.textOf statements empty) := by
  have marked : ∀ {mark : List Char}, (∃ c ∈ mark, c ∈ ['#', '\'', '"']) → ¬ mark ⊆ Dotted.style.textOf statements empty := by
    rintro mark ⟨c, mem, isMark⟩ within
    exact unmarked_textOf statements empty c (within mem) isMark
  have sound := sound_of_mem (l := python) (by simp)
  refine Language.stripComments_of_unmarked sound.marks (fun marks mem => marked ?_) fun mark mem => marked ?_
  · obtain rfl | rfl : marks = ("\"\"\"", "\"\"\"") ∨ marks = ("'''", "'''") := by simpa [python] using mem
    · exact ⟨'"', by decide, by decide⟩
    · exact ⟨'\'', by decide, by decide⟩
  · obtain rfl : mark = "#" := by simpa [python] using mem
    exact ⟨'#', by decide, by decide⟩

/-- A text of import statements, each on lines of its own and indented at will, has the imports of the statements and nothing
else, in the order of the statements: the module of each statement that imports names, with the names, and every module of each
statement that imports modules. -/
theorem importsOf_statements (statements : List Dotted.Statement) (empty : Nat) :
    (python.importsOf (Dotted.style.textOf statements empty)).map (·.map fun i => (i.specifier, i.names)) =
      .ok (statements.flatMap Dotted.Statement.imports) := by
  let pattern : String → Pattern := fun keyword => if keyword = "from" then fromStatement else modulesStatement
  have covered : ∀ st, Dotted.style.kind st ∈ ["from", "import"] := Dotted.Statement.keyword_mem
  have read : ∀ keyword ∈ ["from", "import"], Dotted.style.IsReadBy python.isDotted (pattern keyword) keyword := by
    rw [show python.isDotted = true by decide]
    simp only [List.forall_mem_cons]
    exact ⟨isReadBy_from, isReadBy_modules, nofun⟩
  have found := ImportStyle.findImports_textOf (l := python) rfl (by decide) covered dotted_isPlaced read statements empty
  have tells : ∀ position st, (Dotted.style.imports position st).map (fun i => (i.specifier, i.names)) = st.imports := by
    intro position st
    change List.map _ (List.map _ _) = _
    rw [List.map_map]
    exact List.map_id _
  have kept : python.stripComments (Dotted.style.textOf statements empty) = .ok (Dotted.style.textOf statements empty) :=
    stripComments_textOf statements empty
  rw [Language.importsOf, kept]
  change (python.findImports _).map _ = _
  rw [found, Except.map, ImportStyle.map_blocksFrom tells]

end CodeAtlas.Bundled
