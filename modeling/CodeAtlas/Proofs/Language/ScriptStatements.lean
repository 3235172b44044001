import CodeAtlas.Proofs.Language.Citation

/-!
# Statements of script languages

The forms in which script languages name another module: imports and exports with their clauses, and calls of loading
functions, each with a quoted specifier (`Script.Statement`). Every statement is a citation that may stand on a line of its
own (`Script.Statement.isLine`). What stands before the quotes are clause characters in imports and exports
(`Script.Form.lead_of_clause`), and ends with a function and a parenthesis in calls (`Script.Form.lead_of_function`).
-/

namespace CodeAtlas.Script

open Bundled

/-! ## Names, specifiers and statements -/

/-- A character of a name: an ASCII letter or digit, an underscore or a dollar sign. -/
def isNameChar (c : Char) : Bool := c.isAlphanum || c = '_' || c = '$'

/-- A name. It may be a keyword. -/
structure Name where
  text : List Char
  some : text ≠ []
  named : ∀ c ∈ text, isNameChar c = true

/-- A specifier: no quote, no newline, and no blanks at its ends. -/
structure Specifier where
  text : List Char
  some : text ≠ []
  plain : ∀ c ∈ text, c ∉ quotes ∧ c ≠ '\n'
  trimmed : Text.trim text = text

/-- A name that is bound, perhaps under another name. -/
structure Binding where
  name : Name
  alias? : Option Name

/-- What an import binds: the default under a name, names in braces, both, or everything under a name. -/
inductive Clause where
  | default (name : Name)
  | names (bindings : List Binding)
  | both (name : Name) (bindings : List Binding)
  | all (name : Name)

/-- The form of a statement that names another module. -/
inductive Form where
  | bare
  | imports (clause : Clause)
  | exportsAll
  | exports (bindings : List Binding)
  /-- A variable for what `require` loads. -/
  | requires (name : Name)
  /-- A call of `import`. -/
  | loads

/-- A quote of either kind. -/
inductive Mark where
  | single
  | double

structure Statement where
  form : Form
  mark : Mark
  specifier : Specifier

/-! ## How statements are written -/

def Binding.text (b : Binding) : List Char := b.name.text ++ b.alias?.elim [] fun other => " as ".toList ++ other.text

/-- Names in braces. -/
def bindingsText (bindings : List Binding) : List Char :=
  "\x7b ".toList ++ ", ".toList.intercalate (bindings.map Binding.text) ++ " \x7d".toList

def Clause.text : Clause → List Char
  | default name => name.text
  | names bindings => bindingsText bindings
  | both name bindings => name.text ++ ", ".toList ++ bindingsText bindings
  | all name => "* as ".toList ++ name.text

def Mark.char : Mark → Char
  | single => '\''
  | double => '"'

/-- The function that a statement calls. -/
def Form.function? : Form → Option String
  | requires _ => some "require"
  | loads => some "import"
  | _ => none

/-- A keyword, and perhaps a clause with `from`. -/
def keywordLead (keyword : String) (clause? : Option (List Char)) : List Char :=
  keyword.toList ++ ' ' :: clause?.elim [] fun clause => clause ++ " from ".toList

/-- A function and a parenthesis after other things. -/
def callLead (front : List Char) (function : String) : List Char := front ++ function.toList ++ ['(']

/-- What stands before the quotes. -/
def Form.lead : Form → List Char
  | bare => keywordLead "import" none
  | imports clause => keywordLead "import" (some clause.text)
  | exportsAll => keywordLead "export" (some ['*'])
  | exports bindings => keywordLead "export" (some (bindingsText bindings))
  | requires name => callLead ("const ".toList ++ name.text ++ " = ".toList) "require"
  | loads => callLead [] "import"

/-- What stands behind the quotes. -/
def Form.trail (f : Form) : List Char := if f.function?.isSome then ");".toList else ";".toList

/-- The statement as a citation. -/
def Statement.citation (st : Statement) : Citation :=
  ⟨st.form.lead, st.mark.char, st.specifier.text, st.mark.char, st.form.trail⟩

/-- How statements are written, the function they call, and the import that each stands for. -/
def style : ImportStyle Statement (Option String) where
  text st := st.citation.text
  kind st := st.form.function?
  imports position st := [st.citation.found position]

/-! ## Characters -/

/-- Clause characters are word characters, blanks, and some signs. -/
theorem has_clauseSet {c : Char} :
    clauseSet.has c = true ↔ Text.isWord c = true ∨ Text.isBlank c = true ∨ c ∈ ['*', '\x7b', '\x7d', ',', '$'] := by
  have word : [CharItem.word].any (·.has c) = Text.isWord c := by simp [CharItem.has]
  have blank : [CharItem.blank].any (·.has c) = Text.isBlank c := by simp [CharItem.has]
  have signs : ∀ (text : String), (CharSet.ofChars text).items.any (·.has c) = true ↔ c ∈ text.toList :=
    fun _ => CharSet.any_ranges
  have first : "*\x7b\x7d".toList = ['*', '\x7b', '\x7d'] := by decide
  have second : ",$".toList = [',', '$'] := by decide
  simp only [clauseSet, CharSet.has, Bool.bne_false, List.any_append, Bool.or_eq_true, word, blank, signs, first, second,
    List.mem_cons, List.not_mem_nil, or_false]
  tauto

theorem has_clauseSet_of_isNameChar {c : Char} (h : isNameChar c = true) : clauseSet.has c = true := by
  rw [has_clauseSet]
  simp only [isNameChar, Bool.or_eq_true, decide_eq_true_eq] at h
  rcases h with (h | rfl) | rfl
  · exact Or.inl (Text.isWord_of_isAlphanum h)
  · exact Or.inl (by decide)
  · exact Or.inr (Or.inr (by decide))

/-- A text of clause characters. -/
def IsClauseText (text : List Char) : Prop := ∀ c ∈ text, clauseSet.has c = true

instance (text : List Char) : Decidable (IsClauseText text) := inferInstanceAs (Decidable (∀ c ∈ text, _))

theorem isClauseText_append {x y : List Char} : IsClauseText (x ++ y) ↔ IsClauseText x ∧ IsClauseText y :=
  List.forall_mem_append

theorem Name.isClauseText (n : Name) : IsClauseText n.text := fun c mem => has_clauseSet_of_isNameChar (n.named c mem)

theorem Binding.isClauseText (b : Binding) : IsClauseText b.text := by
  refine isClauseText_append.mpr ⟨b.name.isClauseText, ?_⟩
  cases b.alias? with
  | none => exact nofun
  | some other => exact isClauseText_append.mpr ⟨by decide, other.isClauseText⟩

theorem isClauseText_bindingsText (bindings : List Binding) : IsClauseText (bindingsText bindings) := by
  have inside : IsClauseText (", ".toList.intercalate (bindings.map Binding.text)) := by
    induction bindings with
    | nil => exact nofun
    | cons b bindings ih =>
      cases bindings with
      | nil => simpa using b.isClauseText
      | cons b' bindings =>
        rw [List.map_cons, List.map_cons, List.intercalate_cons_cons]
        exact isClauseText_append.mpr ⟨isClauseText_append.mpr ⟨b.isClauseText, by decide⟩, ih⟩
  exact isClauseText_append.mpr ⟨isClauseText_append.mpr ⟨by decide, inside⟩, by decide⟩

theorem Clause.isClauseText : ∀ c : Clause, IsClauseText c.text
  | default name => name.isClauseText
  | names bindings => isClauseText_bindingsText bindings
  | both name bindings =>
    isClauseText_append.mpr ⟨isClauseText_append.mpr ⟨name.isClauseText, by decide⟩, isClauseText_bindingsText bindings⟩
  | all name => isClauseText_append.mpr ⟨by decide, name.isClauseText⟩

theorem bindingsText_ne_nil (bindings : List Binding) : bindingsText bindings ≠ [] := List.cons_ne_nil '\x7b' _

theorem Clause.text_ne_nil : ∀ c : Clause, c.text ≠ []
  | default name => name.some
  | names bindings => bindingsText_ne_nil bindings
  | both _ bindings => List.append_ne_nil_of_right_ne_nil _ (bindingsText_ne_nil bindings)
  | all _ => List.cons_ne_nil '*' _

theorem IsClauseText.notMem_quotes {text : List Char} (h : IsClauseText text) : ∀ c ∈ text, c ∉ quotes := by
  intro c mem isQuote
  have has := h c mem
  revert has
  simp only [quotes, List.mem_cons, List.not_mem_nil, or_false] at isQuote
  rcases isQuote with rfl | rfl <;> decide

/-! ## What stands around the quotes -/

/-- The functions that statements call. -/
theorem Form.function_mem {f : Form} {function : String} (h : f.function? = some function) :
    function ∈ ["require", "import"] := by
  cases f <;> simp_all [function?]

/-- A statement without a call has a keyword, and perhaps a clause, before the quotes. -/
theorem Form.lead_of_clause {f : Form} (h : f.function? = none) : ∃ keyword ∈ ["import", "export"], ∃ clause?,
    (∀ clause, clause? = some clause → clause ≠ [] ∧ IsClauseText clause) ∧ f.lead = keywordLead keyword clause? := by
  cases f with
  | bare => exact ⟨"import", by decide, none, nofun, rfl⟩
  | imports clause =>
    refine ⟨"import", by decide, some clause.text, ?_, rfl⟩
    rintro _ ⟨⟩
    exact ⟨clause.text_ne_nil, clause.isClauseText⟩
  | exportsAll =>
    refine ⟨"export", by decide, some ['*'], ?_, rfl⟩
    rintro _ ⟨⟩
    exact ⟨by decide, by decide⟩
  | exports bindings =>
    refine ⟨"export", by decide, some (bindingsText bindings), ?_, rfl⟩
    rintro _ ⟨⟩
    exact ⟨bindingsText_ne_nil bindings, isClauseText_bindingsText bindings⟩
  | requires | loads => cases h

/-- A call has the function and a parenthesis before the quotes, after a blank if anything stands before it. -/
theorem Form.lead_of_function {f : Form} {function : String} (h : f.function? = some function) :
    ∃ front, f.lead = callLead front function ∧ (front = [] ∨ ∃ before, front = before ++ [' ']) ∧
      ∀ c ∈ front, c ∉ quotes := by
  cases f with
  | requires name =>
    obtain rfl := Option.some.inj h
    refine ⟨"const ".toList ++ name.text ++ " = ".toList, rfl,
      Or.inr ⟨"const ".toList ++ name.text ++ " =".toList, by simp⟩, ?_⟩
    simp only [List.forall_mem_append]
    exact ⟨⟨by decide, name.isClauseText.notMem_quotes⟩, by decide⟩
  | loads =>
    obtain rfl := Option.some.inj h
    exact ⟨[], rfl, Or.inl rfl, nofun⟩
  | bare | imports | exportsAll | exports => cases h

theorem isClauseText_keywordLead {keyword : String} {clause? : Option (List Char)} (known : keyword ∈ ["import", "export"])
    (clause : ∀ clause, clause? = some clause → clause ≠ [] ∧ IsClauseText clause) :
    IsClauseText (keywordLead keyword clause?) := by
  have start : IsClauseText (keyword.toList ++ [' ']) := by
    revert keyword
    decide
  rw [keywordLead, List.append_cons]
  refine isClauseText_append.mpr ⟨start, ?_⟩
  cases clause? with
  | none => exact nofun
  | some text => exact isClauseText_append.mpr ⟨(clause text rfl).2, by decide⟩

theorem Form.notMem_quotes_of_mem_lead (f : Form) : ∀ c ∈ f.lead, c ∉ quotes := by
  cases called : f.function? with
  | none =>
    obtain ⟨keyword, known, clause?, clause, lead⟩ := lead_of_clause called
    rw [lead]
    exact (isClauseText_keywordLead known clause).notMem_quotes
  | some function =>
    obtain ⟨front, lead, -, plain⟩ := lead_of_function called
    have known : ∀ function ∈ ["require", "import"], ∀ c ∈ function.toList, c ∉ quotes := by decide
    rw [lead, callLead]
    simp only [List.forall_mem_append]
    exact ⟨⟨plain, known function (function_mem called)⟩, by decide⟩

theorem Mark.char_mem_quotes (m : Mark) : m.char ∈ quotes := by
  cases m <;> decide

theorem Form.trail_of_function {f : Form} {function : String} (h : f.function? = some function) : f.trail = [')', ';'] := by
  rw [trail, h]
  rfl

theorem Form.trail_plain (f : Form) : ∀ d ∈ f.trail, d ∉ quotes ∧ d ≠ '\n' ∧ Text.isWord d = false := by
  unfold trail
  split <;> decide

/-- A statement may stand on a line of its own. -/
theorem Statement.isLine (st : Statement) : st.citation.IsLine where
  opening := st.mark.char_mem_quotes
  some := st.specifier.some
  plain := st.specifier.plain
  closing := st.mark.char_mem_quotes
  lead := st.form.notMem_quotes_of_mem_lead
  trail := st.form.trail_plain

end CodeAtlas.Script
