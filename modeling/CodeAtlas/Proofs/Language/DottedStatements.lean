import CodeAtlas.Language.Bundled
import CodeAtlas.Proofs.Language.Lines

/-!
# Import statements with dotted names

A statement (`Dotted.Statement`) names a module and what is imported from it, in one line or in parentheses with a line for
each name, or it lists whole modules. It is written with its keyword at the start of the first line
(`Dotted.Statement.text_eq`); the other lines start with a name, which is no keyword, or with the closing parenthesis.
-/

namespace CodeAtlas.Dotted

/-! ## Names and statements -/

/-- A character of a name: an ASCII letter or digit, or an underscore. -/
def isNameChar (c : Char) : Bool := c.isAlphanum || c = '_'

/-- The words that are no names. -/
def keywords : List String := ["import", "from", "as"]

structure Name where
  text : List Char
  some : text ≠ []
  named : ∀ c ∈ text, isNameChar c = true
  free : ∀ keyword ∈ keywords, text ≠ keyword.toList

/-- Names with dots between them. -/
def dotted (names : List Name) : List Char := Text.joinWith '.' (names.map (·.text))

/-- A module: at least one name. -/
structure Module where
  names : List Name
  some : names ≠ []

/-- What names are imported from: dots, names, or both. -/
structure Source where
  dots : Nat
  names : List Name
  some : dots ≠ 0 ∨ names ≠ []

/-- Something that is imported, perhaps under another name. -/
structure Import (α : Type) where
  item : α
  alias? : Option Name

/-- Spaces and tabs. -/
structure Indent where
  text : List Char
  blank : ∀ c ∈ text, c = ' ' ∨ c = '\t'

/-- The names that are imported from a module. -/
inductive NameList where
  /-- In one line. -/
  | inline (first : Import Name) (others : List (Import Name))
  /-- In parentheses, with a line for each name, perhaps with a comma after the last one. -/
  | lines (first : Indent × Import Name) (others : List (Indent × Import Name)) (comma : Bool) (closing : Indent)

inductive Form where
  /-- Imports names from a module. -/
  | names (source : Source) (list : NameList)
  /-- Imports modules. -/
  | modules (first : Import Module) (others : List (Import Module))

structure Statement where
  indent : Indent
  form : Form

/-! ## How statements are written -/

def Module.text (m : Module) : List Char := dotted m.names

def Source.text (s : Source) : List Char := List.replicate s.dots '.' ++ dotted s.names

/-- What is imported, and `as` with the other name if there is one. -/
def Import.text {α : Type} (written : α → List Char) (i : Import α) : List Char :=
  written i.item ++ i.alias?.elim [] fun other => " as ".toList ++ other.text

/-- Items with commas and spaces between them. -/
def listText (items : List (List Char)) : List Char := ", ".toList.intercalate items

/-- The lines of names, with a comma after each but the last one, and perhaps after that. -/
def nameLines (comma : Bool) : List (Indent × Import Name) → List (List Char)
  | [] => []
  | [line] => [line.1.text ++ line.2.text Name.text ++ if comma then [','] else []]
  | line :: next :: lines => (line.1.text ++ line.2.text Name.text ++ [',']) :: nameLines comma (next :: lines)

/-- The line that starts a list, and the lines below it. -/
def NameList.written : NameList → List Char × List (List Char)
  | inline first others => (listText ((first :: others).map (Import.text Name.text)), [])
  | lines first others comma closing => (['('], nameLines comma (first :: others) ++ [closing.text ++ [')']])

/-- The list as it is written. -/
def NameList.text (list : NameList) : List Char := Text.joinWith '\n' (list.written.1 :: list.written.2)

def Statement.lines (st : Statement) : List (List Char) :=
  match st.form with
  | .names source list =>
    (st.indent.text ++ "from ".toList ++ source.text ++ " import ".toList ++ list.written.1) :: list.written.2
  | .modules first others =>
    [st.indent.text ++ "import ".toList ++ listText ((first :: others).map (Import.text Module.text))]

def Statement.text (st : Statement) : List Char := Text.joinWith '\n' st.lines

/-! ## What statements import -/

/-- The names that are imported, without what they are bound to. -/
def NameList.names : NameList → List String
  | inline first others => (first :: others).map fun i => String.ofList i.item.text
  | lines first others _ _ => (first :: others).map fun line => String.ofList line.2.item.text

/-- The modules that are imported from, each with the names that are imported. -/
def Statement.imports (st : Statement) : List (String × List String) :=
  match st.form with
  | .names source list => [(String.ofList source.text, list.names)]
  | .modules first others => (first :: others).map fun i => (String.ofList i.item.text, [])

/-- The keyword that a statement starts with. -/
def Statement.keyword (st : Statement) : String :=
  match st.form with
  | .names .. => "from"
  | .modules .. => "import"

/-- What stands behind the keyword and a space. -/
def Form.body : Form → List Char
  | names source list => source.text ++ (" import ".toList ++ list.text)
  | modules first others => listText ((first :: others).map (Import.text Module.text))

theorem Statement.lines_ne_nil (st : Statement) : st.lines ≠ [] := by
  obtain ⟨indent, form⟩ := st
  cases form <;> exact List.cons_ne_nil _ _

/-- A statement is its keyword, with what stands before it and behind it. -/
theorem Statement.text_eq (st : Statement) :
    st.text = st.indent.text ++ (st.keyword.toList ++ ' ' :: st.form.body) := by
  obtain ⟨indent, form⟩ := st
  cases form with
  | names source list =>
    rw [text, lines, Text.joinWith_append_cons]
    simp [keyword, Form.body, NameList.text]
  | modules first others => simp [text, lines, Text.joinWith, keyword, Form.body]

theorem Statement.keyword_mem (st : Statement) : st.keyword ∈ ["from", "import"] := by
  obtain ⟨indent, form⟩ := st
  cases form
  · exact List.mem_cons_self
  · exact List.mem_cons_of_mem _ List.mem_cons_self

/-- How statements are written, the keyword they start with, and the imports that they stand for, which all start where the
word behind the keyword does. -/
def style : ImportStyle Statement String where
  text := Statement.text
  kind := Statement.keyword
  imports position st := st.imports.map fun i =>
    ⟨(position + st.indent.text.length + st.keyword.toList.length + 1 : Nat), i.1, i.2⟩

example :
    let name (text : List Char) (some : text ≠ []) (named : ∀ c ∈ text, isNameChar c = true)
      (free : ∀ keyword ∈ keywords, text ≠ keyword.toList) : Name := ⟨text, some, named, free⟩
    let a := name "a".toList (by decide) (by decide) (by decide)
    let b := name "b".toList (by decide) (by decide) (by decide)
    let tab : Indent := ⟨['\t'], by decide⟩
    let none : Indent := ⟨[], by decide⟩
    style.textOf [⟨none, .names ⟨1, [a], by decide⟩ (.lines (tab, ⟨a, .none⟩) [(tab, ⟨b, some a⟩)] true none)⟩,
      ⟨tab, .modules ⟨⟨[a, b], by decide⟩, some b⟩ [⟨⟨[b], by decide⟩, .none⟩]⟩] 1 =
      "from .a import (\n\ta,\n\tb as a,\n)\n\timport a.b as b, b\n".toList := by
  decide

/-! ## The characters of statements -/

theorem isWord_of_isNameChar {c : Char} (h : isNameChar c = true) : Text.isWord c = true := by
  simp only [isNameChar, Bool.or_eq_true, decide_eq_true_eq] at h
  rcases h with h | rfl
  · exact Text.isWord_of_isAlphanum h
  · decide

theorem isBlank_of_isNameChar {c : Char} (h : isNameChar c = true) : Text.isBlank c = false := by
  refine Bool.eq_false_iff.mpr fun blank => ?_
  simp only [isNameChar, Bool.or_eq_true, decide_eq_true_eq] at h
  rcases h with h | rfl
  · obtain ⟨range, mem, low, high⟩ := Text.inRanges_iff.mp blank
    have bounds := Text.toNat_of_isAlphanum h
    simp only [Text.blankTable, List.mem_cons, List.not_mem_nil, or_false] at mem
    rcases mem with rfl | rfl | rfl | rfl | rfl | rfl | rfl | rfl | rfl | rfl
    all_goals
      simp only at low high
      omega
  · exact absurd blank (by decide)

theorem Name.isWord (n : Name) : ∀ c ∈ n.text, Text.isWord c = true := fun c mem => isWord_of_isNameChar (n.named c mem)

theorem dotted_chars (names : List Name) : ∀ c ∈ dotted names, isNameChar c = true ∨ c = '.' := by
  refine Text.forall_mem_joinWith (Or.inr rfl) fun text mem c mem' => ?_
  obtain ⟨name, -, rfl⟩ := List.mem_map.mp mem
  exact Or.inl (name.named c mem')

/-- Names with dots between them start with a word character. -/
theorem dotted_starts {names : List Name} (some : names ≠ []) : ∃ c rest, dotted names = c :: rest ∧ Text.isWord c = true := by
  obtain ⟨name, names, rfl⟩ := List.exists_cons_of_ne_nil some
  obtain ⟨c, rest, text⟩ := List.exists_cons_of_ne_nil name.some
  have isWord : Text.isWord c = true := name.isWord c (by rw [text]; exact List.mem_cons_self)
  have start : dotted (name :: names) = name.text ++ Text.joinWith '.' ([] :: names.map (·.text)) := by
    rw [dotted, List.map_cons, ← Text.joinWith_append_cons, List.append_nil]
  exact ⟨c, _, by rw [start, text]; rfl, isWord⟩

/-- A text that may be imported: it has characters, all of them those of names and dots. -/
def IsItem (text : List Char) : Prop := text ≠ [] ∧ ∀ c ∈ text, isNameChar c = true ∨ c = '.'

theorem IsItem.isWord {text : List Char} (h : IsItem text) : ∀ c ∈ text, Text.isWord c = true ∨ c = '.' :=
  fun c mem => (h.2 c mem).imp_left isWord_of_isNameChar

theorem IsItem.isBlank {text : List Char} (h : IsItem text) : ∀ c ∈ text, Text.isBlank c = false := by
  intro c mem
  rcases h.2 c mem with named | rfl
  · exact isBlank_of_isNameChar named
  · decide

theorem Name.isItem (n : Name) : IsItem n.text := ⟨n.some, fun c mem => Or.inl (n.named c mem)⟩

theorem Module.isItem (m : Module) : IsItem m.text := by
  obtain ⟨c, rest, text, -⟩ := dotted_starts m.some
  exact ⟨fun none => List.cons_ne_nil c rest (text.symm.trans none), dotted_chars m.names⟩

theorem Source.isItem (s : Source) : IsItem s.text := by
  have dots : ∀ c ∈ List.replicate s.dots '.', isNameChar c = true ∨ c = '.' :=
    fun c mem => Or.inr (List.eq_of_mem_replicate mem)
  refine ⟨fun none => ?_, List.forall_mem_append.mpr ⟨dots, dotted_chars s.names⟩⟩
  obtain ⟨dots, names⟩ := List.append_eq_nil_iff.mp none
  rcases s.some with some | some
  · exact some (by simpa using dots)
  · obtain ⟨c, rest, text, -⟩ := dotted_starts some
    rw [text] at names
    cases names

section Characters

variable {holds : Char → Prop}

theorem Import.forall_mem_text {α : Type} {written : α → List Char} (i : Import α) (item : ∀ c ∈ written i.item, holds c)
    (word : ∀ c, Text.isWord c = true → holds c) (space : holds ' ') : ∀ c ∈ i.text written, holds c := by
  refine List.forall_mem_append.mpr ⟨item, ?_⟩
  cases i.alias? with
  | none => exact nofun
  | some other =>
    have as : ∀ c ∈ " as ".toList, c = ' ' ∨ Text.isWord c = true := by decide
    refine List.forall_mem_append.mpr ⟨fun c mem => ?_, fun c mem => word c (other.isWord c mem)⟩
    rcases as c mem with rfl | isWord
    · exact space
    · exact word c isWord

/-- A list is the first item, and the others with a space before each, with commas between them. -/
theorem listText_cons (item : List Char) (items : List (List Char)) :
    listText (item :: items) = Text.joinWith ',' (item :: items.map (' ' :: ·)) := by
  induction items generalizing item with
  | nil => simp [listText, Text.joinWith]
  | cons next items ih =>
    have separator : ", ".toList = [',', ' '] := rfl
    have more : listText (item :: next :: items) = item ++ ',' :: ' ' :: listText (next :: items) := by
      rw [listText, List.intercalate_cons_cons, separator]
      simp [listText, separator]
    rw [more, ih, List.map_cons, Text.joinWith]
    exact congrArg (fun text => item ++ ',' :: text) (Text.joinWith_append_cons [' '] next _).symm

theorem forall_mem_listText {items : List (List Char)} (comma : holds ',') (space : holds ' ')
    (each : ∀ item ∈ items, ∀ c ∈ item, holds c) : ∀ c ∈ listText items, holds c := by
  cases items with
  | nil => exact nofun
  | cons item items =>
    obtain ⟨here, others⟩ := List.forall_mem_cons.mp each
    rw [listText_cons]
    refine Text.forall_mem_joinWith comma (List.forall_mem_cons.mpr ⟨here, fun piece mem => ?_⟩)
    obtain ⟨next, mem', rfl⟩ := List.mem_map.mp mem
    exact List.forall_mem_cons.mpr ⟨space, others next mem'⟩

theorem forall_mem_nameLines {comma : Bool} (gap : ∀ c, c = ' ' ∨ c = '\t' → holds c) (isComma : holds ',')
    (word : ∀ c, Text.isWord c = true → holds c) : ∀ lines : List (Indent × Import Name),
      ∀ line ∈ nameLines comma lines, ∀ c ∈ line, holds c := by
  have line : ∀ l : Indent × Import Name, ∀ c ∈ l.1.text ++ l.2.text Name.text, holds c := fun l =>
    List.forall_mem_append.mpr ⟨fun c mem => gap c (l.1.blank c mem),
      l.2.forall_mem_text (fun c mem => word c (l.2.item.isWord c mem)) word (gap ' ' (Or.inl rfl))⟩
  intro lines
  induction lines with
  | nil => exact nofun
  | cons l lines ih =>
    cases lines with
    | nil =>
      refine List.forall_mem_singleton.mpr (List.forall_mem_append.mpr ⟨line l, ?_⟩)
      cases comma
      · exact nofun
      · exact List.forall_mem_singleton.mpr isComma
    | cons next lines =>
      refine List.forall_mem_cons.mpr ⟨List.forall_mem_append.mpr ⟨line l, ?_⟩, ih⟩
      exact List.forall_mem_singleton.mpr isComma

theorem forall_mem_imports {α : Type} {written : α → List Char} (item : ∀ a, ∀ c ∈ written a, holds c)
    (word : ∀ c, Text.isWord c = true → holds c) (comma : holds ',') (space : holds ' ') (items : List (Import α)) :
    ∀ c ∈ listText (items.map (Import.text written)), holds c := by
  refine forall_mem_listText comma space fun text mem => ?_
  obtain ⟨i, -, rfl⟩ := List.mem_map.mp mem
  exact i.forall_mem_text (item i.item) word space

/-- The lines that start statements hold words and spaces in front of what is imported. -/
theorem forall_mem_keyword (word : ∀ c, Text.isWord c = true → holds c) (space : holds ' ') :
    ∀ text ∈ ["from ".toList, " import ".toList, "import ".toList], ∀ c ∈ text, holds c := by
  have chars : ∀ text ∈ ["from ".toList, " import ".toList, "import ".toList], ∀ c ∈ text,
      c = ' ' ∨ Text.isWord c = true := by decide
  intro text known c mem
  rcases chars text known c mem with rfl | isWord
  · exact space
  · exact word c isWord

theorem Statement.forall_mem_lines (gap : ∀ c, c = ' ' ∨ c = '\t' → holds c) (word : ∀ c, Text.isWord c = true → holds c)
    (marks : ∀ c ∈ ".,()".toList, holds c) (st : Statement) : ∀ line ∈ st.lines, ∀ c ∈ line, holds c := by
  have space : holds ' ' := gap ' ' (Or.inl rfl)
  have comma : holds ',' := marks ',' (by decide)
  have item : ∀ {text}, IsItem text → ∀ c ∈ text, holds c := by
    intro text isItem c mem
    rcases isItem.isWord c mem with isWord | rfl
    · exact word c isWord
    · exact marks '.' (by decide)
  have keyword := forall_mem_keyword word space
  have indent : ∀ i : Indent, ∀ c ∈ i.text, holds c := fun i c mem => gap c (i.blank c mem)
  obtain ⟨front, form⟩ := st
  cases form with
  | modules first others =>
    simp only [lines, List.forall_mem_singleton, List.forall_mem_append]
    exact ⟨⟨indent front, keyword _ (by decide)⟩,
      forall_mem_imports (fun m => item m.isItem) word comma space (first :: others)⟩
  | names source names =>
    have start : ∀ c ∈ front.text ++ "from ".toList ++ source.text ++ " import ".toList, holds c := by
      simp only [List.forall_mem_append]
      exact ⟨⟨⟨indent front, keyword _ (by decide)⟩, item source.isItem⟩, keyword _ (by decide)⟩
    cases names with
    | inline first others =>
      refine List.forall_mem_singleton.mpr (List.forall_mem_append.mpr ⟨start, ?_⟩)
      exact forall_mem_imports (fun n => item n.isItem) word comma space (first :: others)
    | lines first others comma? closing =>
      refine List.forall_mem_cons.mpr ⟨List.forall_mem_append.mpr ⟨start, ?_⟩, List.forall_mem_append.mpr ⟨?_, ?_⟩⟩
      · exact List.forall_mem_singleton.mpr (marks '(' (by decide))
      · exact forall_mem_nameLines gap comma word (first :: others)
      · refine List.forall_mem_singleton.mpr (List.forall_mem_append.mpr ⟨indent closing, ?_⟩)
        exact List.forall_mem_singleton.mpr (marks ')' (by decide))

end Characters

end CodeAtlas.Dotted
