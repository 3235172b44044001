import CodeAtlas.Proofs.Language.DottedLists
import CodeAtlas.Proofs.Language.Keyword

/-!
# Patterns of imports with dotted names

What the patterns of import statements with dotted names read behind the keyword: the module that names are imported from
(`prefers_sourceExpr`) and the names, in one line or in parentheses (`prefers_importedNames`), or a list of modules
(`prefers_modules`). Every part is read to its end, because the character that follows is none that the part may hold.
-/

namespace CodeAtlas.Bundled

open Regex

/-! ## The parts of the patterns -/

/-- A module with the dots in front of it. -/
def sourceExpr : Regex := .alt (all [plus (.ofChars "."), star dottedSet]) (plus dottedSet)

/-- The characters of names in parentheses. -/
def innerSet : CharSet := ⟨false, [.word, .blank, .range ',' ',']⟩

/-- The characters of names in one line. -/
def inlineSet : CharSet := CharSet.word.withChars " \t,*"

/-- Names in parentheses. -/
def innerNames : Regex := all [literal "(", .group 2 (star innerSet), literal ")"]

/-- Names in one line. -/
def inlineNames : Regex := .group 3 (star inlineSet)

/-- A comma and another module. -/
def nextModule : Regex := all ([gap, literal ",", gap] ++ moduleItem)

/-- What stands behind the module that names are imported from. -/
def importedNames : List Regex := [gap1, literal "import", .place .wordEdge, gap, .alt innerNames inlineNames]

theorem fromStatement_eq : fromStatement = stating "from" (.group 1 sourceExpr :: importedNames) 3 := rfl

theorem modulesStatement_eq :
    modulesStatement = stating "import" [.group 1 (all (moduleItem ++ [.many true 0 none nextModule]))] 1 := rfl

theorem isWord_of_mem : ∀ keyword ∈ ["from", "import"], IsWord keyword := by
  unfold IsWord
  decide

theorem has_dottedSet {c : Char} : dottedSet.has c = true ↔ Text.isWord c = true ∨ c = '.' := by
  rw [dottedSet, CharSet.has_withChars rfl, CharSet.has_word]
  simp

variable {bound : Nat} {s : Cursor} {rest : List Char}

/-- What is imported starts with no space. -/
theorem leaves_item {item : List Char} (isItem : Dotted.IsItem item) (rest : List Char) : Leaves gapSet (item ++ rest) := by
  obtain ⟨c, more, rfl⟩ := List.exists_cons_of_ne_nil isItem.1
  refine leaves_cons ?_ _
  rcases isItem.isWord c List.mem_cons_self with isWord | rfl
  · exact noGap_of_isWord isWord
  · decide

/-! ## What the patterns read -/

/-- Behind dots no other dot follows: there are names, or nothing that is imported from. -/
theorem leaves_dots (names : List Dotted.Name) (leaves : Leaves dottedSet rest) :
    Leaves (.ofChars ".") (Dotted.dotted names ++ rest) := by
  have noDot : ∀ c : Char, c ≠ '.' → (CharSet.ofChars ".").has c = false := fun c other =>
    Bool.eq_false_iff.mpr fun isDot => other (by simpa [CharSet.has_ofChars] using isDot)
  by_cases more : names = []
  · rw [more]
    refine fun c first => noDot c ?_
    rintro rfl
    exact absurd (leaves '.' first) (by decide)
  · obtain ⟨c, others, starts, isWord⟩ := Dotted.dotted_starts more
    rw [starts]
    refine leaves_cons (noDot c ?_) _
    rintro rfl
    exact absurd isWord (by decide)

theorem prefers_sourceExpr {source : Dotted.Source} (text : s.rest = source.text ++ rest) (leaves : Leaves dottedSet rest)
    (length : s.rest.length ≤ bound) : Prefers bound sourceExpr s (s.after source.text rest) := by
  have lengths : source.dots ≤ bound ∧ (Dotted.dotted source.names).length ≤ bound := by
    simp only [text, Dotted.Source.text, List.length_append, List.length_replicate] at length
    omega
  have noDot := leaves_dots source.names leaves
  by_cases none : source.dots = 0
  · have whole : source.text = Dotted.dotted source.names := by simp [Dotted.Source.text, none]
    rw [whole] at text ⊢
    have names := source.isItem
    rw [whole] at names
    refine prefers_right (rejects_cons (rejects_plus (text ▸ noDot))) ?_
    exact prefers_plus text (fun c mem => has_dottedSet.mpr (names.isWord c mem)) names.1 leaves lengths.2
  · have split : s.rest = List.replicate source.dots '.' ++ (Dotted.dotted source.names ++ rest) := by
      rw [text, Dotted.Source.text, List.append_assoc]
    have dots : ∀ c ∈ List.replicate source.dots '.', (CharSet.ofChars ".").has c = true := by
      intro c mem
      rw [List.eq_of_mem_replicate mem]
      decide
    have names : ∀ c ∈ Dotted.dotted source.names, dottedSet.has c = true := fun c mem =>
      has_dottedSet.mpr ((Dotted.dotted_chars source.names c mem).imp_left Dotted.isWord_of_isNameChar)
    have toNames := prefers_plus split dots (by simpa using none) noDot (by simpa using lengths.1)
    have toEnd : Prefers bound (star dottedSet) (s.after (List.replicate source.dots '.') _) _ :=
      prefers_star rfl names leaves lengths.2
    rw [Cursor.after_after] at toEnd
    exact prefers_left (prefers_cons toNames (prefers_cons toEnd prefers_nil))

/-- The list goes on with a comma, or its line ends. -/
def EndsItem (rest : List Char) : Prop := ∀ c ∈ rest.head?, c = ',' ∨ c = '\n'

theorem EndsItem.leaves {set : CharSet} (h : EndsItem rest) (comma : set.has ',' = false) (newline : set.has '\n' = false) :
    Leaves set rest := by
  intro c first
  rcases h c first with rfl | rfl
  · exact comma
  · exact newline

/-- The other name of a module is read to its end. -/
theorem prefers_alias {other : Dotted.Name} (text : s.rest = " as ".toList ++ (other.text ++ rest)) (ends : Leaves .word rest)
    (length : s.rest.length ≤ bound) :
    Prefers bound (all [gap1, literal "as", gap1, plus .word]) s (s.after (" as ".toList ++ other.text) rest) := by
  have lengths : 1 ≤ bound ∧ other.text.length ≤ bound := by
    rw [text, List.length_append, List.length_append] at length
    change 4 + (other.text.length + rest.length) ≤ bound at length
    omega
  obtain ⟨one, lengthOther⟩ := lengths
  have isWord : ∀ c ∈ other.text, CharSet.word.has c = true := fun c mem => CharSet.has_word ▸ other.isWord c mem
  let s₁ := s.after [' '] ("as".toList ++ ([' '] ++ (other.text ++ rest)))
  let s₂ := s₁.after "as".toList ([' '] ++ (other.text ++ rest))
  let s₃ := s₂.after [' '] (other.text ++ rest)
  have toAs : Prefers bound gap1 s s₁ :=
    prefers_plus text (by decide) (List.cons_ne_nil _ _) (leaves_cons (c := 'a') (by decide) _) one
  have toGap : Prefers bound (literal "as") s₁ s₂ := prefers_literal rfl
  have toOther : Prefers bound gap1 s₂ s₃ :=
    prefers_plus rfl (by decide) (List.cons_ne_nil _ _) (leaves_item other.isItem rest) one
  have toEnd : Prefers bound (plus .word) s₃ (s₃.after other.text rest) := prefers_plus rfl isWord other.some ends lengthOther
  have whole : s₃.after other.text rest = s.after (" as ".toList ++ other.text) rest := by
    simp only [s₃, s₂, s₁, Cursor.after_after]
    rfl
  rw [whole] at toEnd
  exact prefers_cons toAs (prefers_cons toGap (prefers_cons toOther (prefers_cons toEnd prefers_nil)))

theorem prefers_moduleItem {item : Dotted.Import Dotted.Module} (text : s.rest = item.text Dotted.Module.text ++ rest)
    (ends : EndsItem rest) (length : s.rest.length ≤ bound) :
    Prefers bound (all moduleItem) s (s.after (item.text Dotted.Module.text) rest) := by
  obtain ⟨module, alias?⟩ := item
  let other := alias?.elim [] fun other => " as ".toList ++ other.text
  have text' : s.rest = module.text ++ (other ++ rest) := by
    rw [text]
    exact List.append_assoc _ _ _
  have lengths : module.text.length ≤ bound ∧ (other ++ rest).length ≤ bound := by
    rw [text', List.length_append] at length
    omega
  have chars : ∀ c ∈ module.text, dottedSet.has c = true := fun c mem => has_dottedSet.mpr (module.isItem.isWord c mem)
  have leaves : Leaves dottedSet (other ++ rest) := by
    cases alias? with
    | none => exact ends.leaves (by decide) (by decide)
    | some other => exact leaves_cons (c := ' ') (by decide) _
  have toModule := prefers_plus text' chars module.isItem.1 leaves lengths.1
  let s₁ := s.after module.text (other ++ rest)
  have toEnd : Prefers bound (opt (all [gap1, literal "as", gap1, plus .word])) s₁ (s₁.after other rest) := by
    cases alias? with
    | none => exact prefers_opt_of_rejects (rejects_cons (rejects_plus (ends.leaves (by decide) (by decide))))
    | some other =>
      exact prefers_opt (prefers_alias (List.append_assoc _ _ _) (ends.leaves (by decide) (by decide)) lengths.2)
  rw [Cursor.after_after] at toEnd
  exact prefers_cons toModule (prefers_cons toEnd prefers_nil)

/-- The items of a list behind the first one, each behind a comma and a space. -/
def moreItems (items : List (List Char)) : List Char := items.flatMap fun item => ',' :: ' ' :: item

theorem listText_eq_append (item : List Char) (items : List (List Char)) :
    Dotted.listText (item :: items) = item ++ moreItems items := by
  rw [Dotted.listText_cons]
  induction items generalizing item with
  | nil => simp [moreItems, Text.joinWith]
  | cons next items ih =>
    rw [List.map_cons, Text.joinWith, ih]
    rfl

theorem prefers_nextModule {item : Dotted.Import Dotted.Module}
    (text : s.rest = ',' :: ' ' :: item.text Dotted.Module.text ++ rest) (ends : EndsItem rest)
    (length : s.rest.length ≤ bound) :
    Prefers bound nextModule s (s.after (',' :: ' ' :: item.text Dotted.Module.text) rest) := by
  have lengths : 1 ≤ bound ∧ (item.text Dotted.Module.text ++ rest).length ≤ bound := by
    simp only [text, List.cons_append, List.length_cons] at length
    omega
  let s₁ := s.after [] (',' :: ' ' :: item.text Dotted.Module.text ++ rest)
  let s₂ := s₁.after ",".toList (' ' :: item.text Dotted.Module.text ++ rest)
  let s₃ := s₂.after [' '] (item.text Dotted.Module.text ++ rest)
  have noGap : Leaves gapSet (item.text Dotted.Module.text ++ rest) := by
    rw [Dotted.Import.text, List.append_assoc]
    exact leaves_item item.item.isItem _
  have toComma : Prefers bound gap s s₁ :=
    prefers_star (w := []) text (List.forall_mem_nil _) (leaves_cons (by decide) _) (Nat.zero_le _)
  have toSpace : Prefers bound (literal ",") s₁ s₂ := prefers_literal rfl
  have toItem : Prefers bound gap s₂ s₃ := prefers_star rfl (by decide) noGap lengths.1
  have toEnd := prefers_moduleItem (s := s₃) rfl ends lengths.2
  have whole : s₃.after (item.text Dotted.Module.text) rest =
      s.after (',' :: ' ' :: item.text Dotted.Module.text) rest := by
    simp only [s₃, s₂, s₁, Cursor.after_after]
    rfl
  rw [whole] at toEnd
  exact prefers_append (prefers_cons toComma (prefers_cons toSpace (prefers_cons toItem prefers_nil))) toEnd

theorem endsItem_moreItems (items : List (List Char)) (ends : ImportStyle.EndsLine rest) :
    EndsItem (moreItems items ++ rest) := by
  cases items with
  | nil =>
    exact fun c first => Or.inr (ends.eq_newline first)
  | cons item items =>
    rintro _ ⟨⟩
    exact Or.inl rfl

/-- At the end of a line there is no other module. -/
theorem rejects_nextModule (text : s.rest = rest) (ends : ImportStyle.EndsLine rest) : Rejects bound nextModule s := by
  change Rejects bound (all ([gap, literal ","] ++ (gap :: moduleItem))) s
  refine rejects_append (rejects_of_plain ?_ fun w reads starts => ?_)
  · simp [all, isSimple, isSimple_literal, gap, Regex.star]
  · simp only [spells_all_cons, spells_literal, gap, Regex.star, Spells] at reads
    obtain ⟨blanks, _, ⟨blank, -⟩, ⟨_, _, rfl, rfl, rfl⟩, rfl⟩ := reads
    obtain ⟨after, text'⟩ := starts
    have whole : rest = blanks ++ ',' :: after := text.symm.trans (text'.symm.trans (by simp))
    cases blanks with
    | nil => exact absurd (ends.eq_newline (by rw [whole]; rfl)) (by decide : ',' ≠ '\n')
    | cons c blanks =>
      obtain rfl : c = '\n' := ends.eq_newline (by rw [whole]; rfl)
      exact absurd (blank '\n' List.mem_cons_self) (by decide)

/-- The other modules of a list are read one after another. -/
theorem repeats_nextModule (ends : ImportStyle.EndsLine rest) : ∀ (items : List (Dotted.Import Dotted.Module)) {s : Cursor},
    s.rest = moreItems (items.map (Dotted.Import.text Dotted.Module.text)) ++ rest → s.rest.length ≤ bound →
      Repeats bound nextModule items.length s
        (s.after (moreItems (items.map (Dotted.Import.text Dotted.Module.text))) rest) := by
  intro items
  -- on the modules that are left: the line ends behind the last one, and a comma follows every other
  induction items with
  | nil =>
    intro s text length
    have here : s.after [] rest = s := Cursor.after_nil text
    change Repeats bound nextModule 0 s (s.after [] rest)
    rw [here]
    exact Repeats.done (rejects_nextModule text ends)
  | cons item items ih =>
    intro s text length
    let piece := ',' :: ' ' :: item.text Dotted.Module.text
    let more := moreItems (items.map (Dotted.Import.text Dotted.Module.text))
    have text' : s.rest = piece ++ (more ++ rest) := by
      rw [text]
      exact List.append_assoc piece more rest
    have length' : (more ++ rest).length ≤ bound := by
      rw [text', List.length_append] at length
      omega
    have first := prefers_nextModule text' (endsItem_moreItems _ ends) length
    have others := ih (s := s.after piece (more ++ rest)) rfl length'
    rw [Cursor.after_after] at others
    refine Repeats.more first ?_ others
    exact Nat.lt_add_of_pos_right (Nat.succ_pos _)

theorem length_le_moreItems : ∀ items : List (List Char), items.length ≤ (moreItems items).length
  | [] => Nat.le_refl 0
  | item :: items => by
    have others := length_le_moreItems items
    simp only [moreItems, List.flatMap_cons, List.length_append, List.length_cons] at others ⊢
    omega

/-- A list of modules is read to the end of its line. -/
theorem prefers_modules {first : Dotted.Import Dotted.Module} {others : List (Dotted.Import Dotted.Module)}
    (text : s.rest = Dotted.listText ((first :: others).map (Dotted.Import.text Dotted.Module.text)) ++ rest)
    (ends : ImportStyle.EndsLine rest) (length : s.rest.length ≤ bound) :
    Prefers bound (all (moduleItem ++ [.many true 0 none nextModule])) s
      (s.after (Dotted.listText ((first :: others).map (Dotted.Import.text Dotted.Module.text))) rest) := by
  let item := first.text Dotted.Module.text
  let more := moreItems (others.map (Dotted.Import.text Dotted.Module.text))
  have whole : Dotted.listText ((first :: others).map (Dotted.Import.text Dotted.Module.text)) = item ++ more :=
    listText_eq_append _ _
  rw [whole] at text ⊢
  have text' : s.rest = item ++ (more ++ rest) := text.trans (List.append_assoc _ _ _)
  have lengths : (more ++ rest).length ≤ bound ∧ more.length ≤ bound := by
    simp only [text', List.length_append] at length ⊢
    omega
  have count : others.length ≤ bound := by
    have items := length_le_moreItems (others.map (Dotted.Import.text Dotted.Module.text))
    rw [List.length_map] at items
    exact Nat.le_trans items lengths.2
  have others := prefers_many (repeats_nextModule ends others (s := s.after item (more ++ rest)) rfl lengths.1) count
  rw [Cursor.after_after] at others
  exact prefers_append (prefers_moduleItem text' (endsItem_moreItems _ ends) length) (prefers_cons others prefers_nil)

theorem has_inlineSet {c : Char} : inlineSet.has c = true ↔ Text.isWord c = true ∨ c ∈ [' ', '\t', ',', '*'] := by
  rw [inlineSet, CharSet.has_withChars rfl, CharSet.has_word]
  rfl

theorem has_innerSet {c : Char} :
    innerSet.has c = true ↔ Text.isWord c = true ∨ Text.isBlank c = true ∨ c = ',' := by
  have comma : CharItem.has (.range ',' ',') c = true ↔ c = ',' := by
    simp only [CharItem.has, Bool.and_eq_true, decide_eq_true_eq]
    constructor
    · rintro ⟨low, high⟩
      exact Char.le_antisymm high low
    · rintro rfl
      exact ⟨Char.le_refl _, Char.le_refl _⟩
  simp only [innerSet, CharSet.has, Bool.bne_false, List.any_cons, List.any_nil, Bool.or_false, Bool.or_eq_true, comma]
  rfl

theorem innerText_chars (lines : List (Dotted.Indent × Dotted.Import Dotted.Name)) (comma : Bool) (closing : Dotted.Indent) :
    ∀ c ∈ Dotted.innerText lines comma closing, innerSet.has c = true := by
  have gap : ∀ c, c = ' ' ∨ c = '\t' → innerSet.has c = true := by
    rintro c (rfl | rfl) <;> decide
  have word : ∀ c, Text.isWord c = true → innerSet.has c = true := fun c isWord => has_innerSet.mpr (Or.inl isWord)
  refine List.forall_mem_cons.mpr ⟨by decide, Text.forall_mem_joinWith (by decide) ?_⟩
  refine List.forall_mem_append.mpr ⟨Dotted.forall_mem_nameLines gap (by decide) word lines, ?_⟩
  exact List.forall_mem_singleton.mpr fun c mem => gap c (closing.blank c mem)

theorem listText_names_chars (items : List (Dotted.Import Dotted.Name)) :
    ∀ c ∈ Dotted.listText (items.map (Dotted.Import.text Dotted.Name.text)), inlineSet.has c = true := by
  have word : ∀ c, Text.isWord c = true → inlineSet.has c = true :=
    fun c isWord => has_inlineSet.mpr (Or.inl isWord)
  exact Dotted.forall_mem_imports (fun n c mem => word c (n.isWord c mem)) word (by decide) (by decide) items

/-- A list in one line starts with a word. -/
theorem starts_inline (first : Dotted.Import Dotted.Name) (others : List (Dotted.Import Dotted.Name)) :
    ∃ d more, (Dotted.NameList.inline first others).text = d :: more ∧ Text.isWord d = true := by
  obtain ⟨d, more, name⟩ := List.exists_cons_of_ne_nil first.item.some
  have isWord : Text.isWord d = true := first.item.isWord d (by rw [name]; exact List.mem_cons_self)
  have start : (Dotted.NameList.inline first others).text.head? = some d := by
    rw [Dotted.NameList.text_inline, List.map_cons, listText_eq_append, Dotted.Import.text, name]
    rfl
  obtain ⟨more, text⟩ := List.head?_eq_some_iff.mp start
  exact ⟨d, more, text, isWord⟩

theorem rejects_parenthesis (noParenthesis : s.rest.head? ≠ some '(') : Rejects bound (literal "(") s := by
  refine rejects_of_plain (isSimple_literal _) fun w reads starts => noParenthesis ?_
  obtain ⟨after, text⟩ := starts
  rw [← text, spells_literal.mp reads]
  rfl

/-- The names of a list are captured by a group between two cursors, the second one at the end of the list. -/
def Lists (list : Dotted.NameList) (s t : Cursor) : Prop :=
  t.position = s.position + list.text.length ∧ ∃ i listed, t.captures = (i, listed) :: s.captures ∧ (i = 2 ∨ i = 3) ∧
    Imports.listedNames listed.text = list.names

theorem text_of_capture (position : Nat) (text rest : List Char) :
    (Capture.mk position (position + text.length) (text ++ rest)).text = text := by
  rw [Capture.text, Nat.add_sub_cancel_left, List.take_left]

/-- A list in one line is read to the end of its line. -/
theorem prefers_inline {first : Dotted.Import Dotted.Name} {others : List (Dotted.Import Dotted.Name)} {c : Capture}
    (captured : s.captures = [(1, c)]) (text : s.rest = (Dotted.NameList.inline first others).text ++ rest)
    (ends : ImportStyle.EndsLine rest) (length : s.rest.length ≤ bound) :
    ∃ t, Prefers bound (.alt innerNames inlineNames) s t ∧ Lists (.inline first others) s t := by
  obtain ⟨before, following, position, captures⟩ := s
  obtain rfl : captures = [(1, c)] := captured
  obtain rfl : following = _ ++ rest := text
  let text := Dotted.listText ((first :: others).map (Dotted.Import.text Dotted.Name.text))
  let s : Cursor := ⟨before, text ++ rest, position, [(1, c)]⟩
  have length' : text.length ≤ bound := by
    simp only [List.length_append] at length
    exact Nat.le_trans (Nat.le_add_right _ _) length
  have noParenthesis : Rejects bound innerNames s := by
    obtain ⟨d, more, starts, isWord⟩ := starts_inline first others
    refine rejects_cons (rejects_parenthesis fun isParenthesis => ?_)
    have same : ((d :: more) ++ rest).head? = some '(' := starts ▸ isParenthesis
    rw [Option.some.inj same] at isWord
    exact absurd isWord (by decide)
  have leaves : Leaves inlineSet rest := leaves_of_endsLine ends (by decide)
  have reads : Prefers bound inlineNames s (((s.enter 3).after text rest).capture 3 s) :=
    prefers_group (prefers_star rfl (listText_names_chars (first :: others)) leaves length')
  refine ⟨_, prefers_right noParenthesis reads, rfl, 3, ⟨position, position + text.length, text ++ rest⟩, rfl, Or.inr rfl, ?_⟩
  rw [text_of_capture]
  exact Dotted.listedNames_listText Dotted.Name.isItem first others

/-- A list in parentheses is read to its closing parenthesis. -/
theorem prefers_inner {first : Dotted.Indent × Dotted.Import Dotted.Name}
    {others : List (Dotted.Indent × Dotted.Import Dotted.Name)} {comma : Bool} {closing : Dotted.Indent} {c : Capture}
    (captured : s.captures = [(1, c)]) (text : s.rest = (Dotted.NameList.lines first others comma closing).text ++ rest)
    (length : s.rest.length ≤ bound) :
    ∃ t, Prefers bound (.alt innerNames inlineNames) s t ∧ Lists (.lines first others comma closing) s t := by
  obtain ⟨before, following, position, captures⟩ := s
  obtain rfl : captures = [(1, c)] := captured
  rw [Dotted.NameList.text_lines] at text
  obtain rfl : following = _ ++ rest := text
  let text := Dotted.innerText (first :: others) comma closing
  let s : Cursor := ⟨before, '(' :: (text ++ [')']) ++ rest, position, [(1, c)]⟩
  let s₁ := s.after "(".toList (text ++ ')' :: rest)
  let s₂ := ((s₁.enter 2).after text (')' :: rest)).capture 2 s₁
  have length' : text.length ≤ bound := by
    simp only [List.length_append, List.length_cons] at length
    change text.length + 1 + 1 + rest.length ≤ bound at length
    omega
  have toText : Prefers bound (literal "(") s s₁ := prefers_literal (by simp [s])
  have toEnd : Prefers bound (.group 2 (star innerSet)) s₁ s₂ :=
    prefers_group (prefers_star rfl (innerText_chars _ comma closing) (leaves_cons (by decide) rest) length')
  have reads : Prefers bound innerNames s (s₂.after ")".toList rest) :=
    prefers_cons toText (prefers_cons toEnd (prefers_cons (prefers_literal rfl) prefers_nil))
  refine ⟨_, prefers_left reads, ?_, 2, ⟨s₁.position, s₁.position + text.length, text ++ ')' :: rest⟩, rfl, Or.inl rfl, ?_⟩
  · have lengths : (Dotted.NameList.lines first others comma closing).text.length = text.length + 1 + 1 := by
      rw [Dotted.NameList.text_lines, List.length_cons, List.length_append]
      rfl
    rw [lengths]
    change position + 1 + text.length + 1 = position + (text.length + 1 + 1)
    omega
  · rw [text_of_capture]
    exact Dotted.listedNames_innerText comma closing first others

/-- A list of names is read to its end. -/
theorem prefers_nameList {list : Dotted.NameList} {c : Capture} (captured : s.captures = [(1, c)])
    (text : s.rest = list.text ++ rest) (ends : ImportStyle.EndsLine rest) (length : s.rest.length ≤ bound) :
    ∃ t, Prefers bound (.alt innerNames inlineNames) s t ∧ Lists list s t := by
  cases list with
  | inline first others => exact prefers_inline captured text ends length
  | lines first others comma closing => exact prefers_inner captured text length

/-- A list of names starts with no space. -/
theorem leaves_nameList (list : Dotted.NameList) : Leaves gapSet (list.text ++ rest) := by
  cases list with
  | inline first others =>
    obtain ⟨c, more, starts, isWord⟩ := starts_inline first others
    rw [starts]
    exact leaves_cons (noGap_of_isWord isWord) _
  | lines first others comma closing =>
    rw [Dotted.NameList.text_lines]
    exact leaves_cons (by decide) _

/-- What stands behind the module is read to the end of the list. -/
theorem prefers_importedNames {list : Dotted.NameList} {c : Capture} (captured : s.captures = [(1, c)])
    (text : s.rest = " import ".toList ++ (list.text ++ rest)) (ends : ImportStyle.EndsLine rest)
    (length : s.rest.length ≤ bound) :
    ∃ t, Prefers bound (all importedNames) s t ∧ Lists list (s.after " import ".toList (list.text ++ rest)) t := by
  let s₁ := s.after [' '] ("import".toList ++ ([' '] ++ (list.text ++ rest)))
  let s₂ := s₁.after "import".toList ([' '] ++ (list.text ++ rest))
  let s₃ := s₂.after [' '] (list.text ++ rest)
  have lengths : 1 ≤ bound ∧ (list.text ++ rest).length ≤ bound := by
    rw [text, List.length_append] at length
    change 8 + _ ≤ bound at length
    omega
  have toImport : Prefers bound gap1 s s₁ :=
    prefers_plus text (by decide) (List.cons_ne_nil _ _) (leaves_cons (c := 'i') (by decide) _) lengths.1
  have toGap : Prefers bound (literal "import") s₁ s₂ := prefers_literal rfl
  have edge : Prefers bound (.place .wordEdge) s₂ s₂ := prefers_place rfl
  have toList : Prefers bound gap s₂ s₃ := prefers_star rfl (by decide) (leaves_nameList list) lengths.1
  have here : s₃ = s.after " import ".toList (list.text ++ rest) := by
    simp only [s₃, s₂, s₁, Cursor.after_after]
    rfl
  obtain ⟨t, toEnd, lists⟩ := prefers_nameList (s := s₃) captured rfl ends lengths.2
  refine ⟨t, ?_, here ▸ lists⟩
  exact prefers_cons toImport (prefers_cons toGap (prefers_cons edge (prefers_cons toList (prefers_cons toEnd prefers_nil))))

end CodeAtlas.Bundled
