import CodeAtlas.Proofs.Language.DottedStatements

/-!
# Lists of names

A list of names is cut at its commas, and the first word of each part is the name. Where parts are written with an item
(`Dotted.Holds`), the items are found again (`Dotted.listedNames_joinWith`), in lists in one line
(`Dotted.listedNames_listText`) and in lists in parentheses (`Dotted.listedNames_innerText`).
-/

namespace CodeAtlas.Dotted

/-- The part of a list holds the item: blanks may stand before it, and a blank ends it. -/
def Holds (part item : List Char) : Prop :=
  ',' ∉ part ∧ ∃ front back, part = front ++ (item ++ back) ∧ (∀ c ∈ front, Text.isBlank c = true) ∧ IsItem item ∧
    ∀ c ∈ back.head?, Text.isBlank c = true

variable {part item : List Char}

theorem Holds.hasInk (h : Holds part item) : Text.hasInk part = true := by
  obtain ⟨-, front, back, rfl, -, isItem, -⟩ := h
  obtain ⟨c, more, rfl⟩ := List.exists_cons_of_ne_nil isItem.1
  have ink : Text.isBlank c = false := isItem.isBlank c List.mem_cons_self
  simp [Text.hasInk, ink]

theorem Holds.firstWord (h : Holds part item) : Text.firstWord part = item := by
  obtain ⟨-, front, back, rfl, blank, isItem, leaves⟩ := h
  refine Text.takeWhile_dropWhile blank (fun c mem => ?_) isItem.1 fun c first => by simp [leaves c first]
  have ink := isItem.isBlank c mem
  exact ⟨by simp [ink], ink⟩

/-- The items of a list are found in its parts, and nothing is found in parts behind them that are blank. -/
theorem listedNames_joinWith {parts items blanks : List (List Char)} (hold : List.Forall₂ Holds parts items)
    (blank : ∀ part ∈ blanks, ∀ c ∈ part, Text.isBlank c = true) (some : parts ≠ []) :
    Imports.listedNames (Text.joinWith ',' (parts ++ blanks)) = items.map String.ofList := by
  obtain ⟨free, found⟩ : (∀ part ∈ parts, ',' ∉ part) ∧
      (parts.filter Text.hasInk).map (fun part => String.ofList (Text.firstWord part)) = items.map String.ofList := by
    clear some
    induction hold with
    | nil => exact ⟨nofun, rfl⟩
    | cons holds _ ih =>
      refine ⟨List.forall_mem_cons.mpr ⟨holds.1, ih.1⟩, ?_⟩
      rw [List.filter_cons_of_pos holds.hasInk, List.map_cons, ih.2, holds.firstWord, List.map_cons]
  have free' : ∀ part ∈ parts ++ blanks, ',' ∉ part :=
    List.forall_mem_append.mpr ⟨free, fun part mem isComma => absurd (blank part mem ',' isComma) (by decide)⟩
  have noInk : blanks.filter Text.hasInk = [] := by
    refine List.filter_eq_nil_iff.mpr fun part mem => ?_
    simpa [Text.hasInk] using blank part mem
  rw [Imports.listedNames, Text.splitOn_joinWith free' (by simp [some]), List.filter_append, noInk, List.append_nil, found]

/-! ## Lists in one line -/

/-- What is imported holds its name. -/
theorem Import.holds {α : Type} {written : α → List Char} (i : Import α) (isItem : IsItem (written i.item))
    (front back : List Char) (blank : ∀ c ∈ front, Text.isBlank c = true) (blank' : ∀ c ∈ back, Text.isBlank c = true) :
    Holds (front ++ (i.text written ++ back)) (written i.item) := by
  have noComma : ∀ c, Text.isBlank c = true → ',' ≠ c := by
    rintro _ isBlank rfl
    exact absurd isBlank (by decide)
  have text : ∀ c ∈ i.text written, ',' ≠ c := by
    refine i.forall_mem_text (fun c mem => ?_) ?_ (by decide)
    · rintro rfl
      rcases isItem.2 ',' mem with named | dot
      · exact absurd named (by decide)
      · exact absurd dot (by decide)
    · rintro _ isWord rfl
      exact absurd isWord (by decide)
  refine ⟨?_, front, (i.alias?.elim [] fun other => " as ".toList ++ other.text) ++ back, ?_, blank, isItem, ?_⟩
  · simp only [List.mem_append, not_or]
    exact ⟨fun mem => noComma _ (blank _ mem) rfl, fun mem => text _ mem rfl, fun mem => noComma _ (blank' _ mem) rfl⟩
  · rw [Import.text, List.append_assoc]
  · cases i.alias? with
    | none => exact fun c first => blank' c (List.mem_of_mem_head? first)
    | some other =>
      rintro _ ⟨⟩
      decide

/-- The items of a list in one line are found. -/
theorem listedNames_listText {α : Type} {written : α → List Char} (isItem : ∀ a, IsItem (written a)) (first : Import α)
    (others : List (Import α)) : Imports.listedNames (listText ((first :: others).map (Import.text written))) =
      (first :: others).map fun i => String.ofList (written i.item) := by
  have hold : List.Forall₂ Holds
      (first.text written :: (others.map (Import.text written)).map (' ' :: ·)) ((first :: others).map (written ·.item)) := by
    refine List.Forall₂.cons ?_ ?_
    · simpa using first.holds (isItem first.item) [] [] nofun nofun
    · rw [List.map_map, List.forall₂_map_left_iff, List.forall₂_map_right_iff]
      refine List.forall₂_same.mpr fun i _ => ?_
      simpa using i.holds (isItem i.item) [' '] [] (by decide) nofun
  have noBlanks : ∀ part ∈ ([] : List (List Char)), ∀ c ∈ part, Text.isBlank c = true := nofun
  have found := listedNames_joinWith hold noBlanks (List.cons_ne_nil _ _)
  rw [List.append_nil] at found
  rw [List.map_cons, listText_cons, found, List.map_map]
  rfl

/-! ## Lists in parentheses -/

/-- What stands between the parentheses of a list with a line for each name. -/
def innerText (lines : List (Indent × Import Name)) (comma : Bool) (closing : Indent) : List Char :=
  '\n' :: Text.joinWith '\n' (nameLines comma lines ++ [closing.text])

theorem NameList.text_inline (first : Import Name) (others : List (Import Name)) :
    (NameList.inline first others).text = listText ((first :: others).map (Import.text Name.text)) := rfl

theorem NameList.text_lines (first : Indent × Import Name) (others : List (Indent × Import Name)) (comma : Bool)
    (closing : Indent) :
    (NameList.lines first others comma closing).text = '(' :: (innerText (first :: others) comma closing ++ [')']) := by
  rw [text, written, Text.joinWith_cons _ (by simp), Text.joinWith_concat_append]
  rfl

/-- The parts of such a list, each with the line break before its name. The closing parenthesis stands in the last part if no
comma ends that. -/
def innerParts (comma : Bool) (closing : Indent) : List (Indent × Import Name) → List (List Char)
  | [] => []
  | [line] => ['\n' :: line.1.text ++ (line.2.text Name.text ++ if comma then [] else '\n' :: closing.text)]
  | line :: next :: lines =>
    ('\n' :: line.1.text ++ (line.2.text Name.text ++ [])) :: innerParts comma closing (next :: lines)

/-- The part behind the last comma. -/
def lastParts (comma : Bool) (closing : Indent) : List (List Char) := if comma then ['\n' :: closing.text] else []

theorem innerParts_ne_nil (comma : Bool) (closing : Indent) (line : Indent × Import Name)
    (lines : List (Indent × Import Name)) : innerParts comma closing (line :: lines) ≠ [] := by
  cases lines <;> exact List.cons_ne_nil _ _

/-- A comma behind a name stands before the break of the next line. -/
theorem innerText_eq_joinWith (comma : Bool) (closing : Indent) (line : Indent × Import Name)
    (lines : List (Indent × Import Name)) : innerText (line :: lines) comma closing =
      Text.joinWith ',' (innerParts comma closing (line :: lines) ++ lastParts comma closing) := by
  induction lines generalizing line with
  | nil => cases comma <;> simp [innerText, nameLines, innerParts, lastParts, Text.joinWith]
  | cons next lines ih =>
    have below : innerText (line :: next :: lines) comma closing =
        ('\n' :: line.1.text ++ line.2.text Name.text) ++ ',' :: innerText (next :: lines) comma closing := by
      rw [innerText, nameLines, List.cons_append, Text.joinWith_cons _ (by simp)]
      simp [innerText]
    have parts : innerParts comma closing (line :: next :: lines) ++ lastParts comma closing =
        ('\n' :: line.1.text ++ line.2.text Name.text) ::
          (innerParts comma closing (next :: lines) ++ lastParts comma closing) := by
      rw [innerParts, List.append_nil]
      rfl
    have more := innerParts_ne_nil comma closing next lines
    rw [below, ih, parts, Text.joinWith_cons _ (by simp [more])]

/-- The names of a list in parentheses are found. -/
theorem listedNames_innerText (comma : Bool) (closing : Indent) (line : Indent × Import Name)
    (lines : List (Indent × Import Name)) : Imports.listedNames (innerText (line :: lines) comma closing) =
      (line :: lines).map fun line => String.ofList line.2.item.text := by
  have gap : ∀ i : Indent, ∀ c ∈ '\n' :: i.text, Text.isBlank c = true := by
    intro i
    refine List.forall_mem_cons.mpr ⟨by decide, fun c mem => ?_⟩
    rcases i.blank c mem with rfl | rfl <;> decide
  have hold : ∀ lines : List (Indent × Import Name),
      List.Forall₂ Holds (innerParts comma closing lines) (lines.map (·.2.item.text)) := by
    intro lines
    induction lines with
    | nil => exact .nil
    | cons line lines ih =>
      cases lines with
      | nil =>
        refine .cons (line.2.holds line.2.item.isItem _ _ (gap line.1) ?_) .nil
        cases comma
        · exact gap closing
        · exact nofun
      | cons next lines => exact .cons (line.2.holds line.2.item.isItem _ _ (gap line.1) nofun) ih
  have blank : ∀ part ∈ lastParts comma closing, ∀ c ∈ part, Text.isBlank c = true := by
    cases comma
    · exact nofun
    · exact List.forall_mem_singleton.mpr (gap closing)
  rw [innerText_eq_joinWith, listedNames_joinWith (hold _) blank (innerParts_ne_nil _ _ _ _), List.map_map]
  rfl

end CodeAtlas.Dotted
