import CodeAtlas.Proofs.Language.Masking
import CodeAtlas.Proofs.Visit.Locations

/-!
# Places in templates

The parser of a template reads its mask. A mask has as many characters as the template and the same newlines, so rows are
those of the template. Columns count bytes, and a character that is blanked out leaves one byte: a column of the mask is that
of the template exactly if every character in front of it on its line takes one byte or is part of a script body
(`place_mask`). So an element of a script that shares a line with letters beyond ASCII outside of it is reported too far to
the left, and every other element is reported where it stands in the template (`visit_masked_places`).
-/

namespace CodeAtlas

namespace Text

/-! ## Places of characters -/

/-- The number of bytes in front of a character. -/
def offsetOf (text : List Char) (i : Nat) : Nat := (encode (text.take i)).length

/-- The row and the column of a character in the bytes of its text. -/
def placeOf (text : List Char) (i : Nat) : Position := .ofOffset (encode text) (offsetOf text i)

variable {text : List Char} {i : Nat} {c : Char}

theorem placeOf_eq (text : List Char) (i : Nat) : placeOf text i = .after (encode (text.take i)) := by
  have parts : encode text = encode (text.take i) ++ encode (text.drop i) := by
    rw [encode, encode, encode, ← List.flatMap_append, List.take_append_drop]
  rw [placeOf, Position.ofOffset, offsetOf, parts, List.take_left]

theorem encode_take_succ (here : text[i]? = some c) :
    encode (text.take (i + 1)) = encode (text.take i) ++ String.utf8EncodeChar c := by
  rw [List.take_add_one, here, Option.toList_some, encode, List.flatMap_append, List.flatMap_singleton]
  rfl

/-- No byte of another character is that of a newline. -/
theorem newline_notMem_utf8EncodeChar (other : c ≠ '\n') : newlineByte ∉ String.utf8EncodeChar c := by
  have number : c.val.toNat ≠ 10 := fun same => other (Char.toNat_inj.mp same)
  have byte : ∀ n : Nat, n % 256 ≠ 10 → newlineByte ≠ UInt8.ofNat n := by
    intro n ne same
    have numbers := congrArg UInt8.toNat same
    rw [UInt8.toNat_ofNat'] at numbers
    exact ne numbers.symm
  unfold String.utf8EncodeChar
  dsimp only
  split
  · exact fun mem => byte _ (by omega) (List.mem_singleton.mp mem)
  · split
    · simp only [List.mem_cons, List.not_mem_nil, or_false, not_or]
      exact ⟨byte _ (by omega), byte _ (by omega)⟩
    · split
      · simp only [List.mem_cons, List.not_mem_nil, or_false, not_or]
        exact ⟨byte _ (by omega), byte _ (by omega), byte _ (by omega)⟩
      · simp only [List.mem_cons, List.not_mem_nil, or_false, not_or]
        exact ⟨byte _ (by omega), byte _ (by omega), byte _ (by omega), byte _ (by omega)⟩

/-- After a newline comes the start of the next row. -/
theorem placeOf_succ_newline (here : text[i]? = some '\n') : placeOf text (i + 1) = ⟨(placeOf text i).row + 1, 0⟩ := by
  have newline : String.utf8EncodeChar '\n' = [newlineByte] := by decide
  rw [placeOf_eq, placeOf_eq, encode_take_succ here, newline, Position.after, Position.after, List.count_append,
    List.reverse_append]
  simp

/-- After another character comes the place as many columns on as the character has bytes. -/
theorem placeOf_succ (here : text[i]? = some c) (other : c ≠ '\n') :
    placeOf text (i + 1) = ⟨(placeOf text i).row, c.utf8Size + (placeOf text i).column⟩ := by
  have plain := newline_notMem_utf8EncodeChar other
  have column : (Position.after (encode (text.take i) ++ String.utf8EncodeChar c)).column =
      (String.utf8EncodeChar c).length + (Position.after (encode (text.take i))).column := Position.column_append plain
  have row : (encode (text.take i) ++ String.utf8EncodeChar c).count newlineByte = (encode (text.take i)).count newlineByte := by
    rw [List.count_append, List.count_eq_zero.mpr plain, Nat.add_zero]
  rw [placeOf_eq, placeOf_eq, encode_take_succ here, ← String.length_utf8EncodeChar, ← column]
  simp only [Position.after, row]

theorem placeOf_succ_of_none (ended : text[i]? = none) : placeOf text (i + 1) = placeOf text i := by
  rw [placeOf_eq, placeOf_eq, List.take_add_one, ended, Option.toList_none, List.append_nil]

theorem utf8Size_eq_one_iff : c.utf8Size = 1 ↔ c.toNat < 0x80 := by
  rw [Char.utf8Size_eq_one_iff, UInt32.le_iff_toNat_le]
  exact Nat.lt_succ_iff.symm

end Text

namespace Template

open Text

variable {text : List Char} {i : Nat} {c : Char}

/-! ## Columns of masks -/

/-- Every character in front of an index on its line is part of a script body or takes one byte. -/
def IsPlainBefore (text : List Char) (i : Nat) : Prop :=
  ∀ k < i, (∀ j, k ≤ j → j < i → text[j]? ≠ some '\n') → ∀ c, text[k]? = some c → InBody text k ∨ c.toNat < 0x80

theorem isPlainBefore_succ_newline (here : text[i]? = some '\n') : IsPlainBefore text (i + 1) :=
  fun _ before line => absurd here (line i (Nat.le_of_lt_succ before) (Nat.lt_succ_self i))

theorem isPlainBefore_succ (other : text[i]? ≠ some '\n') : IsPlainBefore text (i + 1) ↔
    IsPlainBefore text i ∧ ∀ c, text[i]? = some c → InBody text i ∨ c.toNat < 0x80 := by
  constructor
  · intro plain
    refine ⟨fun k before line => plain k (Nat.lt_succ_of_lt before) fun j after lt => ?_, ?_⟩
    · rcases Nat.lt_succ_iff_lt_or_eq.mp lt with lt | rfl
      · exact line j after lt
      · exact other
    · refine plain i (Nat.lt_succ_self i) fun j after lt => ?_
      rw [Nat.le_antisymm (Nat.le_of_lt_succ lt) after]
      exact other
  · rintro ⟨plain, last⟩ k before line
    rcases Nat.lt_succ_iff_lt_or_eq.mp before with before | rfl
    · exact plain k before fun j after lt => line j after (Nat.lt_succ_of_lt lt)
    · exact last

/-- What stands in place of a character takes no more bytes, and as many exactly if the character is kept or takes one. -/
theorem utf8Size_veil (other : c ≠ '\n') (kept : Bool) : (veil kept c).utf8Size ≤ c.utf8Size ∧
    ((veil kept c).utf8Size = c.utf8Size ↔ kept ∨ c.toNat < 0x80) := by
  have one : ' '.utf8Size = 1 := by decide
  have pos : 0 < c.utf8Size := c.utf8Size_pos
  cases kept with
  | true => simp [veil]
  | false =>
    have blank : veil false c = ' ' := by simp [veil, other]
    rw [blank, one, ← utf8Size_eq_one_iff]
    exact ⟨pos, by simp [eq_comm]⟩

/-- Rows of a mask are those of the template, and columns are not larger. They are equal exactly behind characters that are
kept or take one byte. -/
theorem place_mask (text : List Char) (i : Nat) : (placeOf (mask text) i).row = (placeOf text i).row ∧
    (placeOf (mask text) i).column ≤ (placeOf text i).column ∧
      ((placeOf (mask text) i).column = (placeOf text i).column ↔ IsPlainBefore text i) := by
  induction i with
  | zero => exact ⟨rfl, Nat.le_refl _, iff_of_true rfl nofun⟩
  | succ i ih =>
    obtain ⟨rows, le, same⟩ := ih
    have veiled := getElem?_mask text i
    cases here : text[i]? with
    | none =>
      rw [here] at veiled
      rw [placeOf_succ_of_none here, placeOf_succ_of_none veiled, isPlainBefore_succ (by simp [here])]
      exact ⟨rows, le, same.trans (by simp [here])⟩
    | some c =>
      rw [here, Option.map_some] at veiled
      by_cases newline : c = '\n'
      · subst newline
        have kept : veil (InBody text i) '\n' = '\n' := by simp [veil]
        rw [kept] at veiled
        rw [placeOf_succ_newline here, placeOf_succ_newline veiled, rows]
        exact ⟨rfl, Nat.le_refl _, iff_of_true rfl (isPlainBefore_succ_newline here)⟩
      · have other : veil (InBody text i) c ≠ '\n' := fun same => newline (newline_of_veil same)
        obtain ⟨size, sameSize⟩ := utf8Size_veil newline (InBody text i)
        rw [placeOf_succ here newline, placeOf_succ veiled other, isPlainBefore_succ (by simp [here, newline]), ← same]
        refine ⟨rows, Nat.add_le_add size le, ?_⟩
        have sum : (veil (InBody text i) c).utf8Size + (placeOf (mask text) i).column =
            c.utf8Size + (placeOf text i).column ↔ (placeOf (mask text) i).column = (placeOf text i).column ∧
              (veil (InBody text i) c).utf8Size = c.utf8Size := by omega
        dsimp only
        rw [sum, sameSize]
        simp [here]

theorem placeOf_mask_iff (text : List Char) (i : Nat) :
    placeOf (mask text) i = placeOf text i ↔ IsPlainBefore text i := by
  obtain ⟨rows, -, same⟩ := place_mask text i
  rw [← same, Position.mk.injEq, and_iff_right rows]

end Template

/-! ## Elements of templates -/

/-- The lines and columns from one place to another. -/
def Location.between (start stop : Text.Position) : Location := ⟨start.row + 1, start.column, stop.row + 1, stop.column⟩

theorem Location.between_inj {start stop start' stop' : Text.Position} :
    between start stop = between start' stop' ↔ start = start' ∧ stop = stop' := by
  constructor
  · intro same
    obtain ⟨startRow, startColumn, stopRow, stopColumn⟩ := Location.mk.inj same
    cases start
    cases stop
    cases start'
    cases stop'
    simp only [Text.Position.mk.injEq] at *
    omega
  · rintro ⟨rfl, rfl⟩
    rfl

/-- The parser of a template that is visited reads its mask. -/
theorem Setup.parsedBytes_of_template {s : Setup} {file : String} {src : SourceFile} {l : Language} {p : Visit.Prepared}
    (named : s.registry.languageOf file = some l) (template : l.isTemplate = true)
    (prepared : Visit.prepare s.registry file src.text = .ok (.ok p)) :
    s.parsedBytes file src = Text.encode (Template.mask src.text.toList) := by
  rw [parsedBytes, prepared]
  obtain ⟨parsed, parses, dialect⟩ := Except.map_eq_ok_iff.mp prepared
  obtain ⟨q, rfl, ready⟩ := Except.bind_eq_ok_iff.mp dialect
  have text : p.text = q.text := by
    unfold Visit.withDialect at ready
    dsimp only at ready
    split at ready
    · cases ready
    · split at ready
      · cases ready
      · exact (Except.ok.inj ready) ▸ rfl
  have masked : q.text = Template.mask src.text.toList := by
    simp only [Visit.parsedAs, named, template, if_true] at parses
    obtain ⟨⟨script, masked⟩, unwrapped, rest⟩ := Except.bind_eq_ok_iff.mp parses
    obtain ⟨script', -, same⟩ := Except.map_eq_ok_iff.mp unwrapped
    obtain ⟨known, -, done⟩ := Except.bind_eq_ok_iff.mp rest
    cases known with
    | none => cases Except.ok.inj done
    | some language =>
      obtain rfl := Except.ok.inj (Except.ok.inj done)
      exact (Prod.mk.inj same).2.symm
  rw [← masked, ← text]

/-- For every text and every character: the row of the character in the mask is its row in the text, and its place is the same
exactly if every character in front of it on its line is part of a script body or takes one byte. For every template that is
visited: each element that is found stands at a node of the tree of the mask. If the node goes from one character to another,
the lines of the element are theirs in the template, and its location is theirs exactly if no other characters stand in front
of them on their lines. -/
theorem Setup.visit_masked_places (s : Setup) (file : String) (src : SourceFile) :
    let text := src.text.toList
    (∀ i, (Text.placeOf (Template.mask text) i).row = (Text.placeOf text i).row ∧
      (Text.placeOf (Template.mask text) i = Text.placeOf text i ↔ Template.IsPlainBefore text i)) ∧
    ∀ {l : Language} {r : Resolver} {runId : String} {ordinal : Nat} {result : FileResult} {found : Findings},
      s.registry.languageOf file = some l → l.isTemplate = true → s.visit r runId ordinal file src = .ok result →
      result.outcome = .ok found → ∀ e ∈ found.elements, ∃ n ∈ src.nodes,
        e.StandsAt (Text.encode (Template.mask text)) n ∧
        ∀ i j, n.start = Text.offsetOf (Template.mask text) i → n.stop = Text.offsetOf (Template.mask text) j →
          e.location.startLine = (Text.placeOf text i).row + 1 ∧ e.location.endLine = (Text.placeOf text j).row + 1 ∧
          (e.location = .between (Text.placeOf text i) (Text.placeOf text j) ↔
            Template.IsPlainBefore text i ∧ Template.IsPlainBefore text j) := by
  intro text
  refine ⟨fun i => ⟨(Template.place_mask text i).1, Template.placeOf_mask_iff text i⟩, ?_⟩
  intro l r runId ordinal result found named template visited ok e mem
  obtain ⟨p, -, prepared, -, -⟩ := visit_walks visited ok
  obtain ⟨n, node, stands⟩ := visit_standAt visited ok e mem
  rw [parsedBytes_of_template named template prepared] at stands
  refine ⟨n, node, stands, fun i j start stop => ?_⟩
  have location : e.location =
      .between (Text.placeOf (Template.mask text) i) (Text.placeOf (Template.mask text) j) := by
    rw [stands.location, Text.placeOf, Text.placeOf, ← start, ← stop]
    rfl
  refine ⟨?_, ?_, ?_⟩
  · rw [location, ← (Template.place_mask text i).1]
    rfl
  · rw [location, ← (Template.place_mask text j).1]
    rfl
  · rw [location, Location.between_inj, Template.placeOf_mask_iff, Template.placeOf_mask_iff]

namespace Sample

/-- A template with a script of one statement behind some text, and the tree of its mask. -/
def scriptAfter (front : String) : SourceFile where
  text := front ++ "<script>const x = f();</script>\n"
  tree :=
    let start := (front ++ "<script>").length
    some ⟨.mk "program" true start (start + 24) none [
      .mk "lexical_declaration" true start (start + 14) none [
        .mk "const" false start (start + 5) (some "kind") [],
        .mk "variable_declarator" true (start + 6) (start + 13) none [
          .mk "identifier" true (start + 6) (start + 7) (some "name") [],
          .mk "=" false (start + 8) (start + 9) none [],
          .mk "call_expression" true (start + 10) (start + 13) (some "value") [
            .mk "identifier" true (start + 10) (start + 11) (some "function") [],
            .mk "arguments" true (start + 11) (start + 13) (some "arguments") [
              .mk "(" false (start + 11) (start + 12) none [],
              .mk ")" false (start + 12) (start + 13) none []]]],
        .mk ";" false (start + 13) (start + 14) none []]], false⟩

end Sample

/-- Behind a line with a letter beyond ASCII, the variable of a script is reported where it stands. -/
theorem sample_masked_places :
    let src := Sample.scriptAfter "<template>é</template>\n"
    let text := src.text.toList
    ∃ l result found, Sample.setup.registry.languageOf "src/Hello.vue" = some l ∧ l.isTemplate = true ∧
      Sample.setup.visit (Sample.setup.resolver none) "run" 0 "src/Hello.vue" src = .ok result ∧
      result.outcome = .ok found ∧
      found.elements.map (fun e => (e.name, e.location)) =
        [("x", .between (Text.placeOf text 37) (Text.placeOf text 44))] ∧
      ∀ e ∈ found.elements, ∃ n ∈ src.nodes, e.StandsAt (Text.encode (Template.mask text)) n ∧
        ∀ i j, n.start = Text.offsetOf (Template.mask text) i → n.stop = Text.offsetOf (Template.mask text) j →
          e.location.startLine = (Text.placeOf text i).row + 1 ∧ e.location.endLine = (Text.placeOf text j).row + 1 ∧
          (e.location = .between (Text.placeOf text i) (Text.placeOf text j) ↔
            Template.IsPlainBefore text i ∧ Template.IsPlainBefore text j) := by
  intro src text
  have language : (Sample.setup.registry.languageOf "src/Hello.vue").map (·.isTemplate) = some true := by decide +kernel
  have visit : (Sample.setup.visit (Sample.setup.resolver none) "run" 0 "src/Hello.vue" src).map (fun result =>
      result.outcome.map fun found => found.elements.map fun e => (e.name, e.location)) =
        .ok (.ok [("x", .between (Text.placeOf text 37) (Text.placeOf text 44))]) := by decide +kernel
  obtain ⟨l, named, template⟩ := Option.map_eq_some_iff.mp language
  obtain ⟨result, visited, outcome⟩ := Except.map_eq_ok_iff.mp visit
  obtain ⟨found, ok, elements⟩ := Except.map_eq_ok_iff.mp outcome
  exact ⟨l, result, found, named, template, visited, ok, elements,
    (Setup.visit_masked_places Sample.setup "src/Hello.vue" src).2 named template visited ok⟩

/-- Behind letters beyond ASCII on the same line, the variable of a script is reported too far to the left: a column of the
mask is not that of the template, although the character is part of a script body. -/
theorem sample_displaced :
    let src := Sample.scriptAfter "<template>日本語 😀</template>"
    let text := src.text.toList
    Template.InBody text 40 ∧ Text.placeOf text 40 = ⟨0, 49⟩ ∧ Text.placeOf (Template.mask text) 40 = ⟨0, 40⟩ ∧
      (Sample.setup.visit (Sample.setup.resolver none) "run" 0 "src/Hello.vue" src).map (fun result =>
        result.outcome.map fun found => found.elements.map fun e => (e.name, e.location)) =
          .ok (.ok [("x", ⟨1, 40, 1, 47⟩)]) ∧
      Location.between (Text.placeOf text 40) (Text.placeOf text 47) = ⟨1, 49, 1, 56⟩ := by
  decide +kernel

end CodeAtlas
