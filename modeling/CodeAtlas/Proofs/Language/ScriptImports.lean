import CodeAtlas.Proofs.Language.ScriptStatements

/-!
# Imports of script languages

A text of import statements has the specifiers of the statements as imports, in their order and nothing else
(`findImports_statements`). Three patterns read such a text. The one of import statements reads clause characters up to the
quotes (`isClauseText_of_statementHeads`), so it stops at the parenthesis of a call, and reads every statement that calls no
function from its start (`isReadBy_statement`). The ones of calls read a parenthesis, which no clause holds, and only the name
of their own function in front of it (`eq_of_spells_callHeads`, `isReadBy_call`). So every statement is read by one pattern.
-/

namespace CodeAtlas.Bundled

open Regex Script

/-! ## What import statements read -/

/-- What import statements read before the quotes, with something optional after the keyword. -/
def statementHeads (extra : List Regex) : List Regex := [importKeyword, blanks1] ++ (extra ++ [opt importClause])

theorem importStatement_eq : importStatement = citing (statementHeads []) [] := rfl

theorem typedImportStatement_eq :
    typedImportStatement = citing (statementHeads [opt (all [literal "type", blanks1])]) [] := rfl

/-- The parts may be left out, and read clause characters only. -/
structure IsOptional (extra : List Regex) : Prop where
  plain : (all extra).isSimple = true
  skips : (all extra).Spells []
  within : ∀ {w}, (all extra).Spells w → IsClauseText w

theorem spells_blanks {w : List Char} : blanks.Spells w ↔ ∀ c ∈ w, Text.isBlank c = true := by
  simp [blanks, Regex.star, Spells, CharSet.has_blank]

theorem spells_blanks1 {w : List Char} : blanks1.Spells w ↔ (∀ c ∈ w, Text.isBlank c = true) ∧ w ≠ [] := by
  simp [blanks1, plus, Spells, CharSet.has_blank, Nat.one_le_iff_ne_zero]

theorem isClauseText_of_blank {w : List Char} (blank : ∀ c ∈ w, Text.isBlank c = true) : IsClauseText w :=
  fun c mem => has_clauseSet.mpr (Or.inr (Or.inl (blank c mem)))

theorem spells_importKeyword {w : List Char} :
    importKeyword.Spells w ↔ ∃ keyword ∈ ["import", "export"], w = keyword.toList := by
  simp [importKeyword, Spells, spells_literal]

theorem isClauseText_of_importClause {w : List Char} (h : importClause.Spells w) : IsClauseText w := by
  simp only [importClause, spells_all_cons, spells_literal, spells_blanks, spells_blanks1] at h
  obtain ⟨clause, -, ⟨within, -⟩, ⟨b, -, ⟨blank, -⟩, ⟨-, -, rfl, ⟨b', -, blank', rfl, rfl⟩, rfl⟩, rfl⟩, rfl⟩ := h
  simp only [isClauseText_append]
  exact ⟨within, isClauseText_of_blank blank, by decide, isClauseText_of_blank blank', nofun⟩

variable {extra : List Regex}

theorem spells_statementHeads {w : List Char} : (all (statementHeads extra)).Spells w ↔
    ∃ keyword ∈ ["import", "export"], ∃ b, ((∀ c ∈ b, Text.isBlank c = true) ∧ b ≠ []) ∧ ∃ e, (all extra).Spells e ∧
      ∃ clause, (clause = [] ∨ importClause.Spells clause) ∧ w = keyword.toList ++ (b ++ (e ++ clause)) := by
  have clause : ∀ {w}, (all [opt importClause]).Spells w ↔ w = [] ∨ importClause.Spells w := Iff.rfl
  simp only [statementHeads, List.cons_append, List.nil_append, spells_all_cons, spells_all_append, spells_importKeyword,
    spells_blanks1, clause]
  constructor
  · rintro ⟨_, _, ⟨keyword, known, rfl⟩, ⟨b, _, blank, ⟨e, clause, between, last, rfl⟩, rfl⟩, rfl⟩
    exact ⟨keyword, known, b, blank, e, between, clause, last, rfl⟩
  · rintro ⟨keyword, known, b, blank, e, between, clause, last, rfl⟩
    exact ⟨_, _, ⟨keyword, known, rfl⟩, ⟨b, _, blank, ⟨e, clause, between, last, rfl⟩, rfl⟩, rfl⟩

/-- Import statements read clause characters only. -/
theorem isClauseText_of_statementHeads (optional : IsOptional extra) {w : List Char}
    (h : (all (statementHeads extra)).Spells w) : IsClauseText w := by
  obtain ⟨keyword, known, b, ⟨blank, -⟩, e, between, clause, last, rfl⟩ := spells_statementHeads.mp h
  have start : ∀ keyword ∈ ["import", "export"], IsClauseText keyword.toList := by decide
  have clauseText : IsClauseText clause := by
    rcases last with rfl | last
    · exact nofun
    · exact isClauseText_of_importClause last
  simp only [isClauseText_append]
  exact ⟨start keyword known, isClauseText_of_blank blank, optional.within between, clauseText⟩

theorem opens_statementHeads (optional : IsOptional extra) : Opens (statementHeads extra) where
  plain := by
    rw [statementHeads, isSimple_all_append, isSimple_all_append, optional.plain]
    rfl
  starts w h := by
    obtain ⟨keyword, known, b, -, e, -, clause, -, rfl⟩ := spells_statementHeads.mp h
    have start : ∀ keyword ∈ ["import", "export"], ∃ c rest, keyword.toList = c :: rest ∧ Text.isWord c = true := by
      simp only [List.forall_mem_cons]
      exact ⟨⟨'i', _, rfl, by decide⟩, ⟨'e', _, rfl, by decide⟩, List.forall_mem_nil _⟩
    obtain ⟨c, rest, starts, isWord⟩ := start keyword known
    exact ⟨c, _, by rw [starts]; rfl, isWord⟩
  unquoted w h := (isClauseText_of_statementHeads optional h).notMem_quotes

/-- Import statements read a keyword and a clause. -/
theorem spells_keywordLead (optional : IsOptional extra) {keyword : String} {clause? : Option (List Char)}
    (known : keyword ∈ ["import", "export"])
    (clause : ∀ clause, clause? = some clause → clause ≠ [] ∧ IsClauseText clause) :
    (all (statementHeads extra)).Spells (keywordLead keyword clause?) := by
  have blank : ∀ c ∈ [' '], Text.isBlank c = true := by decide
  refine spells_statementHeads.mpr ⟨keyword, known, [' '], ⟨blank, by decide⟩, [], optional.skips, ?_⟩
  cases clause? with
  | none => exact ⟨[], Or.inl rfl, by rfl⟩
  | some text =>
    obtain ⟨some, within⟩ := clause text rfl
    refine ⟨text ++ " from ".toList, Or.inr ?_, rfl⟩
    have from' : " from ".toList = [' '] ++ ("from".toList ++ ([' '] ++ [])) := rfl
    have clauseChars : (chars false 1 none clauseSet).Spells text :=
      ⟨within, List.length_pos_of_ne_nil some, nofun⟩
    simp only [importClause, spells_all_cons, spells_literal, spells_blanks, spells_blanks1]
    exact ⟨text, _, clauseChars, ⟨[' '], _, ⟨blank, by decide⟩, ⟨_, _, rfl, ⟨[' '], [], blank, rfl, rfl⟩, rfl⟩, from'⟩, rfl⟩

/-! ## What calls read -/

/-- What calls of a function read before the quotes. -/
def callHeads (function : String) : List Regex := [literal function, blanks, literal "(", blanks]

/-- What calls read behind the quotes. -/
def callTails : List Regex := [blanks, literal ")"]

theorem loadCall_eq (function : String) : loadCall function = citing (callHeads function) callTails := rfl

variable {function : String} {w : List Char}

theorem spells_callHeads : (all (callHeads function)).Spells w ↔ ∃ b b', (∀ c ∈ b, Text.isBlank c = true) ∧
    (∀ c ∈ b', Text.isBlank c = true) ∧ w = function.toList ++ (b ++ '(' :: b') := by
  simp only [callHeads, spells_all_cons, spells_literal, spells_blanks]
  constructor
  · rintro ⟨_, _, rfl, ⟨b, _, blank, ⟨_, _, rfl, ⟨b', _, blank', rfl, rfl⟩, rfl⟩, rfl⟩, rfl⟩
    exact ⟨b, b', blank, blank', by simp⟩
  · rintro ⟨b, b', blank, blank', rfl⟩
    exact ⟨_, _, rfl, ⟨b, _, blank, ⟨_, _, rfl, ⟨b', [], blank', rfl, rfl⟩, rfl⟩, rfl⟩, by simp⟩

theorem spells_callTails : (all callTails).Spells w ↔ ∃ b, (∀ c ∈ b, Text.isBlank c = true) ∧ w = b ++ [')'] := by
  simp only [callTails, spells_all_cons, spells_literal, spells_blanks]
  constructor
  · rintro ⟨b, _, blank, ⟨_, _, rfl, rfl, rfl⟩, rfl⟩
    exact ⟨b, blank, rfl⟩
  · rintro ⟨b, blank, rfl⟩
    exact ⟨b, _, blank, ⟨_, _, rfl, rfl, rfl⟩, rfl⟩

theorem opens_callHeads (known : function ∈ ["require", "import"]) : Opens (callHeads function) where
  plain := by simp [callHeads, isSimple_literal, blanks, Regex.star, isSimple, all]
  starts w h := by
    obtain ⟨b, b', -, -, rfl⟩ := spells_callHeads.mp h
    have start : ∀ function ∈ ["require", "import"], ∃ c rest, function.toList = c :: rest ∧ Text.isWord c = true := by
      simp only [List.forall_mem_cons]
      exact ⟨⟨'r', _, rfl, by decide⟩, ⟨'i', _, rfl, by decide⟩, List.forall_mem_nil _⟩
    obtain ⟨c, rest, starts, isWord⟩ := start function known
    exact ⟨c, _, by rw [starts]; rfl, isWord⟩
  unquoted w h := by
    obtain ⟨b, b', blank, blank', rfl⟩ := spells_callHeads.mp h
    have name : ∀ function ∈ ["require", "import"], ∀ c ∈ function.toList, c ∉ quotes := by decide
    simp only [List.forall_mem_append, List.forall_mem_cons]
    exact ⟨name function known, (isClauseText_of_blank blank).notMem_quotes, by decide,
      (isClauseText_of_blank blank').notMem_quotes⟩

/-- The last letters of the functions tell them apart. -/
theorem last_of_function (known : function ∈ ["require", "import"]) : ∃ init c, function.toList = init ++ [c] ∧
    Text.isBlank c = false ∧ function = if c = 'e' then "require" else "import" := by
  simp only [List.mem_cons, List.not_mem_nil, or_false] at known
  rcases known with rfl | rfl
  · exact ⟨"requir".toList, 'e', by decide, by decide, by decide⟩
  · exact ⟨"impor".toList, 't', by decide, by decide, by decide⟩

/-- Blanks at the end of a text that does not end with a blank are none. -/
theorem eq_nil_of_blank {l z b : List Char} {c : Char} (blank : ∀ c ∈ b, Text.isBlank c = true)
    (notBlank : Text.isBlank c = false) (text : l ++ [c] = z ++ b) : b = [] := by
  rcases List.suffix_concat_iff.mp ⟨z, text.symm⟩ with none | ⟨init, rfl, -⟩
  · exact none
  · rw [blank c (by simp)] at notBlank
    cases notBlank

/-- In front of the quotes of a call only the call itself is read. -/
theorem eq_of_spells_callHeads {front x y : List Char} {called : String} (known : function ∈ ["require", "import"])
    (known' : called ∈ ["require", "import"]) (lead : callLead front called = x ++ y)
    (h : (all (callHeads function)).Spells y) : function = called ∧ x = front := by
  obtain ⟨b, b', blank, blank', rfl⟩ := spells_callHeads.mp h
  obtain ⟨init, c, name, -, isFunction⟩ := last_of_function known
  obtain ⟨init', c', name', notBlank, isCalled⟩ := last_of_function known'
  have whole : front ++ called.toList ++ ['('] = x ++ function.toList ++ b ++ ['('] ++ b' := by
    rw [← callLead, lead]
    simp
  obtain rfl : b' = [] := eq_nil_of_blank blank' (by decide) whole
  rw [List.append_nil] at whole
  have names : front ++ called.toList = x ++ function.toList ++ b := List.append_cancel_right whole
  obtain rfl : b = [] := eq_nil_of_blank blank notBlank (by rw [← names, name', List.append_assoc])
  rw [List.append_nil] at names
  obtain rfl : c' = c := by
    rw [name, name', ← List.append_assoc, ← List.append_assoc] at names
    exact List.singleton_inj.mp (List.append_inj_right' names rfl)
  obtain rfl : function = called := isFunction.trans isCalled.symm
  exact ⟨rfl, (List.append_cancel_right names).symm⟩

/-! ## Statements on lines -/

/-- A word that starts where no word was before starts at an edge. -/
theorem isAt_wordEdge {s : Cursor} {c : Char} (before : s.before.head?.any Text.isWord = false)
    (next : s.rest.head? = some c) (isWord : Text.isWord c = true) : s.isAt .wordEdge = true := by
  have sets : CharSet.word.has = Text.isWord := funext fun _ => CharSet.has_word
  change s.isAtEdge .word = true
  rw [Cursor.isAtEdge, sets, before, next]
  simpa using isWord

theorem noWord_of_lineStart {s : Cursor} (start : s.isAt .lineStart = true) : s.before.head?.any Text.isWord = false := by
  change s.before.head?.all (· = '\n') = true at start
  cases first : s.before.head? with
  | none => rfl
  | some c =>
    rw [first] at start
    obtain rfl : c = '\n' := by simpa using start
    decide

theorem matchAt_of_endsLine {heads tails : List Regex} (opens : Opens heads) (tail : (all tails).isSimple = true)
    {bound : Nat} {s : Cursor} (ends : ImportStyle.EndsLine s.rest) : (citing heads tails).matchAt bound s true = none := by
  refine matchAt_of_noWord opens tail fun c following next => ?_
  obtain rfl : c = '\n' := ends.eq_newline (by rw [next]; rfl)
  decide

/-- Import statements read the statements that call no function. -/
theorem isReadBy_statement (optional : IsOptional extra) :
    Script.style.IsReadBy false (citing (statementHeads extra) []) none where
  blank := matchAt_of_endsLine (opens_statementHeads optional) rfl
  line {bound s st rest found} start text ends length later := by
    have opens := opens_statementHeads optional
    cases called : st.form.function? with
    | none =>
      rw [if_pos (show Script.style.kind st = none from called)]
      obtain ⟨keyword, known, clause?, clause, lead⟩ := Form.lead_of_clause called
      have reads : (all (statementHeads extra)).Spells st.form.lead := lead ▸ spells_keywordLead optional known clause
      obtain ⟨c, more, first, isWord⟩ := opens.starts _ reads
      refine finds_hit opens rfl st.isLine (x := []) (y := st.form.lead) (z := []) rfl reads ?_ ?_ List.nil_prefix rfl ?_ text
        length later
      · intro a b parts some
        exact absurd (List.append_eq_nil_iff.mp parts.symm).2 some
      · refine isAt_wordEdge (noWord_of_lineStart start) ?_ isWord
        change (Citation.text _ ++ rest).head? = _
        simp [Citation.text, first]
      · rintro _ rfl -
        exact List.nil_prefix
    | some function =>
      rw [if_neg (show Script.style.kind st ≠ none by simp [Script.style, called])]
      obtain ⟨front, lead, -⟩ := Form.lead_of_function called
      refine finds_miss opens rfl st.isLine (fun x y parts reads => ?_) text ends later
      obtain ⟨c, more, rfl, -⟩ := opens.starts _ reads
      have parts' : front ++ function.toList ++ ['('] = x ++ c :: more := lead.symm.trans parts
      rcases List.suffix_concat_iff.mp ⟨x, parts'.symm⟩ with none | ⟨init, last, -⟩
      · cases none
      · have has := isClauseText_of_statementHeads optional reads '(' (by rw [last]; simp)
        exact absurd has (by decide)

/-- What calls read behind their quotes ends before the line does. -/
theorem within_of_callTails {z rest : List Char} (reads : (all callTails).Spells z) (within : z <+: [')', ';'] ++ rest) :
    z <+: [')', ';'] := by
  obtain ⟨b, blank, rfl⟩ := spells_callTails.mp reads
  cases b with
  | nil => exact ⟨[';'], rfl⟩
  | cons c b =>
    obtain rfl : c = ')' := (List.cons_prefix_cons.mp within).1
    exact absurd (blank ')' List.mem_cons_self) (by decide)

/-- A statement that calls the function is read from the name of the function on. -/
theorem finds_call (known : function ∈ ["require", "import"]) {bound : Nat} {s : Cursor} {st : Script.Statement}
    {rest : List Char} {found : List FoundImport} (called : st.form.function? = some function)
    (start : s.isAt .lineStart = true) (text : s.rest = st.citation.text ++ rest) (length : s.rest.length ≤ bound)
    (later : Imports.Finds false (citing (callHeads function) callTails) bound (s.after st.citation.text rest) found) :
    Imports.Finds false (citing (callHeads function) callTails) bound s (st.citation.found s.position :: found) := by
  have opens := opens_callHeads known
  obtain ⟨front, lead, edge, -⟩ := Form.lead_of_function called
  have reads : (all (callHeads function)).Spells (function.toList ++ ['(']) :=
    spells_callHeads.mpr ⟨[], [], nofun, nofun, rfl⟩
  have lead' : st.form.lead = front ++ (function.toList ++ ['(']) := lead.trans (List.append_assoc _ _ _)
  have first : ∀ a b, front = a ++ b → b ≠ [] → ¬ (all (callHeads function)).Spells (b ++ (function.toList ++ ['('])) := by
    intro a b parts some again
    have parts' : callLead front function = a ++ (b ++ (function.toList ++ ['('])) := by
      rw [← lead, lead', parts, List.append_assoc]
    obtain ⟨-, rfl⟩ := eq_of_spells_callHeads known known parts' again
    exact some (List.append_cancel_left (parts.symm.trans (List.append_nil _).symm))
  have noWord : (front.reverse ++ s.before).head?.any Text.isWord = false := by
    rcases edge with rfl | ⟨before, rfl⟩
    · exact noWord_of_lineStart start
    · rw [List.reverse_concat]
      exact (by decide : Text.isWord ' ' = false)
  have trail : st.citation.trail = [')', ';'] := Form.trail_of_function called
  have within : [')'] <+: st.citation.trail := trail ▸ ⟨[';'], rfl⟩
  have reads' : (all callTails).Spells [')'] := spells_callTails.mpr ⟨[], nofun, rfl⟩
  refine finds_hit opens rfl st.isLine lead' reads first ?_ within reads' ?_ text length later
  · obtain ⟨c, more, next, isWord⟩ := opens.starts _ reads
    refine isAt_wordEdge noWord ?_ isWord
    change (Citation.text _ ++ rest).head? = _
    rw [Citation.text, next]
    rfl
  · rw [trail]
    exact fun z => within_of_callTails

/-- Calls read the statements that call the function. -/
theorem isReadBy_call (known : function ∈ ["require", "import"]) :
    Script.style.IsReadBy false (citing (callHeads function) callTails) (some function) where
  blank := matchAt_of_endsLine (opens_callHeads known) rfl
  line {bound s st rest found} start text ends length later := by
    have opens := opens_callHeads known
    cases called : st.form.function? with
    | none =>
      rw [if_neg (show Script.style.kind st ≠ some function by simp [Script.style, called])]
      obtain ⟨keyword, known', clause?, clause, lead⟩ := Form.lead_of_clause called
      refine finds_miss opens rfl st.isLine (fun x y parts reads => ?_) text ends later
      obtain ⟨b, b', -, -, rfl⟩ := spells_callHeads.mp reads
      have mem : '(' ∈ keywordLead keyword clause? := by
        rw [← lead, show st.form.lead = _ from parts]
        simp
      exact absurd (isClauseText_keywordLead known' clause '(' mem) (by decide)
    | some function' =>
      by_cases same : function' = function
      · rw [if_pos (show Script.style.kind st = some function from same ▸ called)]
        exact finds_call known (same ▸ called) start text length later
      · rw [if_neg (show Script.style.kind st ≠ some function by simpa [Script.style, called] using same)]
        obtain ⟨front, lead, -⟩ := Form.lead_of_function called
        refine finds_miss opens rfl st.isLine (fun x y parts reads => same ?_) text ends later
        exact (eq_of_spells_callHeads known (Form.function_mem called) (lead.symm.trans parts) reads).1.symm

/-! ## Texts of statements -/

theorem style_isPlaced : Script.style.IsPlaced := by
  intro position st
  refine ⟨position + st.citation.lead.length + 1, by omega, ?_, ?_⟩
  · change _ ≤ position + st.citation.text.length
    rw [Citation.length_text]
    omega
  · intro j mem
    obtain rfl := List.mem_singleton.mp mem
    rfl

/-- A language with patterns of import statements and calls finds the imports of statements in their order. -/
theorem findImports_of_patterns {l : Language} (plain : l.isDotted = false) (optional : IsOptional extra)
    (patterns : l.importPatterns = [citing (statementHeads extra) [], loadCall "require", loadCall "import"])
    (statements : List Script.Statement) (empty : Nat) :
    (l.findImports (Script.style.textOf statements empty)).map (·.map fun i => (i.specifier, i.names)) =
      .ok (statements.map fun st => (String.ofList st.specifier.text, [])) := by
  let kinds : List (Option String) := [none, some "require", some "import"]
  let pattern : Option String → Pattern := fun function? => function?.elim (citing (statementHeads extra) []) loadCall
  have covered : ∀ st, Script.style.kind st ∈ kinds := by
    intro st
    cases called : st.form.function? with
    | none => exact List.mem_cons.mpr (Or.inl called)
    | some function =>
      have mem := Form.function_mem called
      change st.form.function? ∈ kinds
      rw [called]
      exact List.mem_cons_of_mem _ (List.mem_map_of_mem (f := some) mem)
  have call : ∀ function ∈ ["require", "import"], Script.style.IsReadBy false (loadCall function) (some function) := by
    intro function known
    rw [loadCall_eq]
    exact isReadBy_call known
  have read : ∀ i ∈ kinds, Script.style.IsReadBy l.isDotted (pattern i) i := by
    rw [plain]
    simp only [kinds, List.forall_mem_cons]
    exact ⟨isReadBy_statement optional, call "require" (by decide), call "import" (by decide), nofun⟩
  have found := ImportStyle.findImports_textOf patterns (by decide) covered style_isPlaced read statements empty
  have tells : ∀ position st, (Script.style.imports position st).map (fun i => (i.specifier, i.names)) =
      [(String.ofList st.specifier.text, [])] := by
    intro position st
    change [(String.ofList (Text.trim st.specifier.text), [])] = _
    rw [st.specifier.trimmed]
  rw [found, Except.map, ImportStyle.map_blocksFrom tells, ← List.map_eq_flatMap]

theorem isOptional_nil : IsOptional [] where
  plain := rfl
  skips := rfl
  within h := h ▸ nofun

theorem isOptional_type : IsOptional [opt (all [literal "type", blanks1])] where
  plain := by simp [opt, all, isSimple, isSimple_literal, blanks1, plus]
  skips := Or.inl rfl
  within {w} h := by
    have parts : w = [] ∨ (all [literal "type", blanks1]).Spells w := h
    rcases parts with rfl | parts
    · exact List.forall_mem_nil _
    · simp only [spells_all_cons, spells_literal, spells_blanks1] at parts
      obtain ⟨_, _, rfl, ⟨b, _, ⟨blank, -⟩, rfl, rfl⟩, rfl⟩ := parts
      simp only [isClauseText_append]
      exact ⟨by decide, isClauseText_of_blank blank, List.forall_mem_nil _⟩

/-- For the script languages: a text of import statements, each on a line of its own, has the specifiers of the statements
and nothing else as imports, in the order of the statements, whatever names and keywords the clauses and specifiers hold. -/
theorem findImports_statements {name : String} {l : Language} (script : name ∈ ["javascript", "typescript", "tsx", "vue"])
    (bundled : registry.languages.get? name = some l) (statements : List Script.Statement) (empty : Nat) :
    (l.findImports (Script.style.textOf statements empty)).map (·.map fun i => (i.specifier, i.names)) =
      .ok (statements.map fun st => (String.ofList st.specifier.text, [])) := by
  simp only [List.mem_cons, List.not_mem_nil, or_false] at script
  have typed : ∀ {l : Language}, l.isDotted = false →
      l.importPatterns = [typedImportStatement, loadCall "require", loadCall "import"] →
      (l.findImports (Script.style.textOf statements empty)).map (·.map fun i => (i.specifier, i.names)) =
        .ok (statements.map fun st => (String.ofList st.specifier.text, [])) := by
    intro l plain patterns
    rw [typedImportStatement_eq] at patterns
    exact findImports_of_patterns plain isOptional_type patterns statements empty
  rcases script with rfl | rfl | rfl | rfl
  · obtain rfl : javascript = l := Option.some.inj bundled
    have patterns : javascript.importPatterns = [importStatement, loadCall "require", loadCall "import"] := rfl
    rw [importStatement_eq] at patterns
    exact findImports_of_patterns (by decide) isOptional_nil patterns statements empty
  · obtain rfl : typescript = l := Option.some.inj bundled
    exact typed (by decide) rfl
  · obtain rfl : tsx = l := Option.some.inj bundled
    exact typed (by decide) rfl
  · obtain rfl : vue = l := Option.some.inj bundled
    exact typed (by decide) rfl

/-- Keywords as names, and specifiers that look like statements. -/
theorem sample_statements :
    let type : Name := ⟨"type".toList, by decide, by decide⟩
    let other : Name := ⟨"from".toList, by decide, by decide⟩
    let call : Specifier := ⟨"require(".toList, by decide, by decide, by decide⟩
    let statement : Specifier := ⟨"import a from".toList, by decide, by decide, by decide⟩
    let statements : List Script.Statement :=
      [⟨.imports (.both type [⟨other, some type⟩]), .single, call⟩, ⟨.requires other, .double, statement⟩,
        ⟨.loads, .single, call⟩]
    Script.style.textOf statements 1 =
      "import type, \x7b from as type \x7d from 'require(';\nconst from = require(\"import a from\");\nimport('require(');\n".toList ∧
    "tsx" ∈ ["javascript", "typescript", "tsx", "vue"] ∧ registry.languages.get? "tsx" = some tsx ∧
    (tsx.findImports (Script.style.textOf statements 1)).map (·.map fun i => (i.specifier, i.names)) =
      .ok [("require(", []), ("import a from", []), ("require(", [])] := by
  intro type other call statement statements
  have bundled : registry.languages.get? "tsx" = some tsx := by rfl
  exact ⟨by decide, by decide, bundled, findImports_statements (by decide) bundled statements 1⟩

end CodeAtlas.Bundled
