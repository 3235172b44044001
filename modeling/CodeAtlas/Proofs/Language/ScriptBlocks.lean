import CodeAtlas.Language.Template
import CodeAtlas.Pattern.Reader
import CodeAtlas.Proofs.Outcome
import CodeAtlas.Proofs.Pattern.Preference
import CodeAtlas.Proofs.Text.Letters

/-!
# Script blocks are the matches of a pattern

A script block is what a pattern matches: a tag in any mixture of cases with its attributes as the first group, the body as
the second group, as short as it can be, and a closing tag (`scriptBlock`, `read_scriptBlock`). `Template.blocks` goes through
a text by hand. It finds the same blocks (`blocks_findAll`): every part of the pattern ends at one place only, at the next
closing angle or the next closing tag, so backtracking never has a choice. The search by hand stops where a tag is not
closed, since no later tag is closed then either (`matchAt_of_unclosed`).
-/

namespace CodeAtlas

/-- A group that has captured nothing before is entered as it is. -/
theorem Cursor.enter_of_notMem (s : Cursor) {i : Nat} (new : ∀ e ∈ s.captures, e.1 ≠ i) : s.enter i = s := by
  have kept : s.captures.filter (fun e => e.1 ≠ i || s.position ≤ e.2.stop) = s.captures :=
    List.filter_eq_self.mpr fun e mem => by simp [new e mem]
  rw [enter, kept]

namespace Regex

variable {bound : Nat} {set : CharSet} {s : Cursor} {next : Cursor → Option Cursor}

theorem optionalChars_of_stops {stop : Char} (outside : set.has stop = false)
    (stops : ∀ t, t.rest.head? ≠ some stop → next t = none) {text : List Char} :
    ∀ {s : Cursor} {n : Nat}, s.rest = text → text.length ≤ n →
      optionalChars set true n s next = next (s.after (text.takeWhile set.has) (text.dropWhile set.has)) := by
  induction text with
  | nil =>
    intro s n ended _
    have here : s.after [] [] = s := Cursor.after_nil ended
    cases n <;> simp [optionalChars, ended, here]
  | cons c text ih =>
    intro s n follows length
    obtain ⟨n, rfl⟩ : ∃ k, n = k + 1 := Nat.exists_eq_add_of_le' (Nat.lt_of_lt_of_le (Nat.succ_pos _) length)
    have here : s.after [] (c :: text) = s := Cursor.after_nil follows
    rw [optionalChars, follows]
    cases holds : set.has c with
    | false => simp [holds, here]
    | true =>
      -- fewer characters leave one of the set, and what follows does not start with one
      have other : s.rest.head? ≠ some stop := by
        rw [follows, List.head?_cons, ne_eq, Option.some.injEq]
        rintro rfl
        rw [outside] at holds
        cases holds
      have more := ih (s := s.skip c text) rfl (Nat.le_of_succ_le_succ length)
      simp [holds, more, stops s other, Cursor.skip_after]

/-- If what follows has to start with a character outside of the set, then all characters of the set are taken. -/
theorem run_star_of_stops (stop : Char) (outside : set.has stop = false)
    (stops : ∀ t, t.rest.head? ≠ some stop → next t = none) (length : s.rest.length ≤ bound) :
    run bound (star set) s next = next (s.after (s.rest.takeWhile set.has) (s.rest.dropWhile set.has)) :=
  optionalChars_of_stops outside stops rfl length

end Regex

namespace Template

open Regex

/-! ## The pattern -/

/-- The letters that are the same as a letter up to case. -/
def letter (c : Char) : CharSet := ⟨false, [.anyCase c c]⟩

/-- The letters of a word, each in either case. -/
def letters (word : List Char) : List Regex := word.map fun c => .one (letter c)

/-- What stands in a tag. -/
def inTag : CharSet := ⟨true, [.anyCase '>' '>']⟩

/-- Every character, as blank or not. -/
def anything : CharSet := ⟨false, [.blank, .notBlank]⟩

/-- The tag of a script block. -/
def openingExprs : List Regex :=
  letters ('<' :: element) ++ .place .wordEdge :: .group 1 (star inTag) :: letters ['>']

/-- The body of a script block and its closing tag. -/
def closingExprs : List Regex := letters ('<' :: '/' :: element) ++ .star .blank :: letters ['>']

/-- A script block: the attributes of its tag are the first group, and its body is the second one. -/
def scriptBlock : Pattern where
  regex := .all (openingExprs ++ .group 2 (.chars false 0 none anything) :: closingExprs)
  groups := 2

/-- The pattern as it is written. -/
theorem read_scriptBlock :
    Pattern.read { anyCase := true } "<script\\b([^>]*)>([\\s\\S]*?)</script\\s*>".toList = .ok scriptBlock := by
  decide +kernel

variable {bound : Nat} {s : Cursor} {c d : Char} {word text rest : List Char} {next : Cursor → Option Cursor}

/-! ## Letters of tags -/

theorem has_anyCaseOf : (anyCaseOf c).has d = true ↔ d = c ∨ d = c.toUpper ∨ d ∈ Text.foreignForms c := by
  simp only [anyCaseOf, CharSet.has, Bool.bne_false, CharSet.any_ranges, Text.foreignForms]
  by_cases i : c = 'i'
  · subst i
    simp
  · by_cases s : c = 's'
    · subst s
      simp
    · simp [i, s]

/-- A sign stands for itself only. -/
theorem has_anyCaseOf_of_sign (sign : c.toUpper = c) : (anyCaseOf c).has d = true ↔ d = c := by
  have foreign : Text.foreignForms c = [] := by
    unfold Text.foreignForms
    split
    · rename_i same
      exact absurd (same ▸ sign) (by decide)
    · split
      · rename_i same
        exact absurd (same ▸ sign) (by decide)
      · rfl
  simp [has_anyCaseOf, foreign, sign]

/-- The pattern and the search by hand agree on the letters that are the same up to case. -/
theorem has_letter (mark : Text.isMarkChar c = true) : (letter c).has d = (anyCaseOf c).has d := by
  have written : (letter c).has d = true ↔ c ∈ Text.casesOf d := by
    simp only [letter, CharSet.has, Bool.bne_false, List.any_cons, List.any_nil, Bool.or_false, CharItem.has,
      List.any_eq_true, Bool.and_eq_true, decide_eq_true_eq]
    constructor
    · rintro ⟨e, mem, low, high⟩
      exact Char.le_antisymm low high ▸ mem
    · exact fun mem => ⟨c, mem, Char.le_refl c, Char.le_refl c⟩
  rw [Bool.eq_iff_iff, written, Text.mem_casesOf_iff mark, has_anyCaseOf]

theorem afterWord?_cons_sign (sign : c.toUpper = c) (word text : List Char) :
    afterWord? (c :: word) (c :: text) = afterWord? word text := by
  rw [afterWord?, if_pos ((has_anyCaseOf_of_sign sign).mpr rfl)]

theorem afterWord?_of_ne (sign : c.toUpper = c) (other : d ≠ c) (word text : List Char) :
    afterWord? (c :: word) (d :: text) = none := by
  rw [afterWord?, if_neg (mt (has_anyCaseOf_of_sign sign).mp other)]

/-- What is read of a word has a letter for each of its letters. -/
theorem eq_of_afterWord? (h : afterWord? word text = some rest) :
    ∃ read, text = read ++ rest ∧ List.Forall₂ (fun c d => (anyCaseOf c).has d = true) word read := by
  induction word generalizing text with
  | nil =>
    obtain rfl := Option.some.inj h
    exact ⟨[], rfl, .nil⟩
  | cons c word ih =>
    cases text with
    | nil => cases h
    | cons d text =>
      rw [afterWord?] at h
      split at h
      · rename_i holds
        obtain ⟨read, rfl, each⟩ := ih h
        exact ⟨d :: read, rfl, .cons holds each⟩
      · cases h

/-- The letters of a word are read if they stand there, and then in one way. -/
theorem run_letters (marks : ∀ c ∈ word, Text.isMarkChar c = true) : run bound (all (letters word)) s next =
    (afterWord? word s.rest).bind fun rest => next (s.after (s.rest.take word.length) rest) := by
  induction word generalizing s with
  | nil => rfl
  | cons c word ih =>
    obtain ⟨mark, others⟩ := List.forall_mem_cons.mp marks
    rw [letters, List.map_cons, run_all_cons, run]
    split
    · rename_i none
      rw [none]
      rfl
    · rename_i d rest text
      rw [text, afterWord?, has_letter mark]
      split
      · exact (ih others).trans (by simp only [Cursor.skip_after]; rfl)
      · rfl

/-- A closing angle is read if it comes next. -/
theorem run_angle : run bound (all (letters ['>'])) s next =
    if s.rest.head? = some '>' then next (s.after ['>'] s.rest.tail) else none := by
  rw [run_letters (by decide)]
  cases text : s.rest with
  | nil => rfl
  | cons c rest =>
    by_cases angle : c = '>'
    · subst angle
      rw [afterWord?_cons_sign (by decide)]
      rfl
    · rw [afterWord?_of_ne (by decide) angle, if_neg (by simpa using angle)]
      rfl

theorem run_angle_of_ne (other : s.rest.head? ≠ some '>') : run bound (all (letters ['>'])) s next = none := by
  rw [run_angle, if_neg other]

/-! ## Tags -/

theorem has_inTag : inTag.has c = decide (c ≠ '>') := by
  have angle : (⟨false, inTag.items⟩ : CharSet).has c = (anyCaseOf '>').has c := has_letter (by decide)
  have same : inTag.has c = !(anyCaseOf '>').has c := by
    rw [← angle]
    simp [CharSet.has, inTag]
  rw [same, Bool.eq_iff_iff, Bool.not_eq_true', ← Bool.not_eq_true, has_anyCaseOf_of_sign (by decide), decide_eq_true_eq]

/-- What is left of a text without what stands before a character starts with the character. -/
theorem eq_of_dropWhile (h : text.dropWhile (· ≠ c) = d :: rest) : d = c := by
  have head := List.head?_dropWhile_not (· ≠ c) text
  rw [h] at head
  simpa using head

/-- The attributes of a tag go up to the next closing angle. -/
def attributes? (text : List Char) : Option OpeningTag :=
  match text.dropWhile (· ≠ '>') with
  | [] => none
  | _ :: following => some ⟨text.takeWhile (· ≠ '>'), following⟩

theorem eq_of_attributes? {tag : OpeningTag} (h : attributes? text = some tag) :
    text = tag.attributes ++ '>' :: tag.following ∧ '>' ∉ tag.attributes := by
  unfold attributes? at h
  split at h
  · cases h
  · rename_i c following ends
    obtain rfl := Option.some.inj h
    refine ⟨?_, fun mem => by simpa using List.all_eq_true.mp List.all_takeWhile _ mem⟩
    calc text
      _ = text.takeWhile (· ≠ '>') ++ text.dropWhile (· ≠ '>') := List.takeWhile_append_dropWhile.symm
      _ = text.takeWhile (· ≠ '>') ++ '>' :: following := by rw [ends, eq_of_dropWhile ends]

theorem openingTag?_eq (text : List Char) : openingTag? text = (afterWord? ('<' :: element) text).bind fun rest =>
    if rest.head?.any Text.isWord then none else attributes? rest := by
  cases text with
  | nil => rfl
  | cons c text =>
    by_cases angle : c = '<'
    · subst angle
      rw [afterWord?_cons_sign (by decide)]
      rfl
    · rw [afterWord?_of_ne (by decide) angle, openingTag?]
      · rfl
      · rintro _ ⟨⟩
        exact angle rfl

/-- A tag is its name, its attributes and a closing angle, the first one. -/
theorem eq_of_openingTag? {tag : OpeningTag} (h : openingTag? text = some tag) : ∃ name,
    List.Forall₂ (fun c d => (anyCaseOf c).has d = true) ('<' :: element) name ∧ '>' ∉ tag.attributes ∧
      text = name ++ tag.attributes ++ '>' :: tag.following := by
  rw [openingTag?_eq] at h
  obtain ⟨rest, named, found⟩ := Option.bind_eq_some_iff.mp h
  obtain ⟨name, same, each⟩ := eq_of_afterWord? named
  split at found
  · cases found
  · obtain ⟨parts, first⟩ := eq_of_attributes? found
    exact ⟨name, each, first, by rw [same, parts, List.append_assoc]⟩

/-- The last letter of the name of the element is a word character, however it is written. -/
theorem isWord_before {name before : List Char}
    (each : List.Forall₂ (fun c d => (anyCaseOf c).has d = true) ('<' :: element) name) :
    (name.reverse ++ before).head?.any Text.isWord = true := by
  have backwards := List.forall₂_reverse_iff.mpr each
  have turned : ('<' :: element).reverse = 't' :: "pircs<".toList := by decide
  rw [turned] at backwards
  obtain ⟨d, others, last, -, same⟩ := List.forall₂_cons_left_iff.mp backwards
  have either : d = 't' ∨ d = 'T' := by
    have forms := has_anyCaseOf.mp last
    have foreign : Text.foreignForms 't' = [] := by decide
    simpa [foreign] using forms
  rw [same, List.cons_append, List.head?_cons, Option.any_some]
  rcases either with rfl | rfl <;> decide +kernel

/-- The cursor after a tag. -/
def OpeningTag.passed (tag : OpeningTag) (s : Cursor) : Cursor :=
  let named := s.after (s.rest.take (element.length + 1)) (s.rest.drop (element.length + 1))
  ((named.after tag.attributes ('>' :: tag.following)).capture 1 named).after ['>'] tag.following

section Passed

variable {tag : OpeningTag}

theorem drop_name (opens : openingTag? text = some tag) :
    text.drop (element.length + 1) = tag.attributes ++ '>' :: tag.following := by
  obtain ⟨name, each, -, rfl⟩ := eq_of_openingTag? opens
  have length : name.length = element.length + 1 := each.length_eq.symm
  rw [List.append_assoc, List.drop_left' length]

theorem drop_opening (opens : openingTag? text = some tag) : text.drop tag.length = tag.following := by
  have parts : tag.length = element.length + 1 + (tag.attributes.length + 1) := by
    rw [OpeningTag.length]
    omega
  rw [parts, ← List.drop_drop, drop_name opens, List.drop_length_add_append]
  rfl

theorem position_passed (opens : openingTag? s.rest = some tag) : (tag.passed s).position = s.position + tag.length := by
  obtain ⟨name, each, -, text⟩ := eq_of_openingTag? opens
  have length : name.length = element.length + 1 := each.length_eq.symm
  have named : s.rest.take (element.length + 1) = name := by rw [text, List.append_assoc, List.take_left' length]
  simp only [OpeningTag.passed, Cursor.after, Cursor.capture, named, length, OpeningTag.length, List.length_singleton]
  omega

/-- Only the attributes are captured. -/
theorem captures_passed (fresh : s.captures = []) (opens : openingTag? s.rest = some tag) : ∃ place,
    (tag.passed s).captures = [(1, ⟨place, place + tag.attributes.length, tag.attributes ++ '>' :: tag.following⟩)] := by
  refine ⟨(s.after (s.rest.take (element.length + 1)) (s.rest.drop (element.length + 1))).position, ?_⟩
  simp [OpeningTag.passed, Cursor.after, Cursor.capture, fresh, drop_name opens]

end Passed

/-- The attributes are read up to the next closing angle, since none can be read over it. -/
theorem run_attributes (fresh : s.captures = []) (short : s.rest.length ≤ bound) :
    run bound (all (.group 1 (star inTag) :: letters ['>'])) s next = (attributes? s.rest).bind fun tag =>
      next (((s.after tag.attributes ('>' :: tag.following)).capture 1 s).after ['>'] tag.following) := by
  have entered : s.enter 1 = s := s.enter_of_notMem (by simp [fresh])
  have inside : inTag.has = fun c => decide (c ≠ '>') := funext fun _ => has_inTag
  rw [run_all_cons, run, entered, run_star_of_stops '>' (by decide +kernel) _ short, inside, run_angle,
    attributes?]
  · cases ends : s.rest.dropWhile (· ≠ '>') with
    | nil => rfl
    | cons c following =>
      obtain rfl := eq_of_dropWhile ends
      rfl
  · exact fun t other => run_angle_of_ne other

theorem run_opening (fresh : s.captures = []) (short : s.rest.length ≤ bound) :
    run bound (all openingExprs) s next = (openingTag? s.rest).bind fun tag => next (tag.passed s) := by
  rw [openingExprs, run_all_append, run_letters (by decide), openingTag?_eq]
  cases named : afterWord? ('<' :: element) s.rest with
  | none => rfl
  | some rest =>
    obtain ⟨name, text, each⟩ := eq_of_afterWord? named
    have length : name.length = element.length + 1 := each.length_eq.symm
    have taken : s.rest.take (element.length + 1) = name := by rw [text, List.take_left' length]
    have dropped : s.rest.drop (element.length + 1) = rest := by rw [text, List.drop_left' length]
    have edge : (s.after name rest).isAt .wordEdge = !rest.head?.any Text.isWord := by
      have word : CharSet.word.has = Text.isWord := funext fun _ => CharSet.has_word
      simp only [Place.wordEdge, Cursor.isAt, Cursor.isAtEdge, Cursor.after, word, isWord_before each, Bool.true_bne]
    have shorter : rest.length ≤ bound := by
      rw [text, List.length_append] at short
      omega
    simp only [Option.bind_some, List.length_cons, taken]
    rw [run_all_cons, run, edge]
    cases word : rest.head?.any Text.isWord with
    | true => rfl
    | false =>
      simp only [Bool.not_false, if_true]
      have fresh' : (s.after name rest).captures = [] := fresh
      rw [run_attributes (s := s.after name rest) fresh' shorter]
      simp only [OpeningTag.passed, taken, dropped]
      rfl

/-! ## Bodies and closing tags -/

theorem closingLength?_eq (text : List Char) :
    closingLength? text = (afterWord? ('<' :: '/' :: element) text).bind fun rest =>
      if (rest.dropWhile Text.isBlank).head? = some '>' then
        some (element.length + (rest.takeWhile Text.isBlank).length + 3)
      else none := by
  cases text with
  | nil => rfl
  | cons c text =>
    by_cases angle : c = '<'
    · subst angle
      rw [afterWord?_cons_sign (by decide)]
      cases text with
      | nil => rfl
      | cons d text =>
        by_cases slash : d = '/'
        · subst slash
          rw [afterWord?_cons_sign (by decide)]
          rfl
        · rw [afterWord?_of_ne (by decide) slash, closingLength?]
          · rfl
          · rintro _ ⟨⟩
            exact slash rfl
    · rw [afterWord?_of_ne (by decide) angle, closingLength?]
      · rfl
      · rintro _ ⟨⟩
        exact angle rfl

/-- Blanks are read up to a closing angle, if it comes next. -/
theorem run_end (short : s.rest.length ≤ bound) : run bound (all (.star .blank :: letters ['>'])) s next =
    if (s.rest.dropWhile Text.isBlank).head? = some '>' then
      next (s.after (s.rest.takeWhile Text.isBlank ++ ['>']) (s.rest.dropWhile Text.isBlank).tail)
    else none := by
  have blank : CharSet.blank.has = Text.isBlank := funext fun _ => CharSet.has_blank
  rw [run_all_cons, run_star_of_stops '>' (by decide +kernel) _ short, blank, run_angle, Cursor.after_after]
  · rfl
  · exact fun t other => run_angle_of_ne other

theorem run_closing (short : s.rest.length ≤ bound) : run bound (all closingExprs) s next =
    (closingLength? s.rest).bind fun n => next (s.after (s.rest.take n) (s.rest.drop n)) := by
  rw [closingExprs, run_all_append, run_letters (by decide), closingLength?_eq]
  cases named : afterWord? ('<' :: '/' :: element) s.rest with
  | none => rfl
  | some rest =>
    obtain ⟨name, text, each⟩ := eq_of_afterWord? named
    have length : name.length = element.length + 2 := each.length_eq.symm
    have taken : s.rest.take (element.length + 2) = name := by rw [text, List.take_left' length]
    have shorter : rest.length ≤ bound := by
      rw [text, List.length_append] at short
      omega
    simp only [Option.bind_some, List.length_cons, taken]
    refine (run_end (s := s.after name rest) shorter).trans ?_
    by_cases angle : (rest.dropWhile Text.isBlank).head? = some '>'
    · obtain ⟨following, ends⟩ := List.head?_eq_some_iff.mp angle
      have parts : s.rest = (name ++ (rest.takeWhile Text.isBlank ++ ['>'])) ++ following := by
        rw [text, List.append_assoc, List.append_assoc, List.singleton_append, ← ends, List.takeWhile_append_dropWhile]
      have whole : (name ++ (rest.takeWhile Text.isBlank ++ ['>'])).length =
          element.length + (rest.takeWhile Text.isBlank).length + 3 := by
        simp only [List.length_append, length, List.length_singleton]
        omega
      rw [if_pos angle, if_pos (by exact angle), Option.bind_some, parts, List.take_left' whole, List.drop_left' whole,
        Cursor.after_after]
      exact congrArg (fun following => next (s.after _ following)) (congrArg List.tail ends)
    · rw [if_neg angle, if_neg (by exact angle)]
      rfl

/-- The body goes up to the next closing tag. -/
theorem optionalChars_anything (ending : Cursor → Nat → Cursor)
    (ends : ∀ t : Cursor, t.rest.length ≤ bound → next t = (closingLength? t.rest).map (ending t)) :
    ∀ {s : Cursor} {n : Nat}, s.rest = text → text.length ≤ bound → text.length ≤ n → optionalChars anything false n s next =
      (upToClosing? text).map fun r => ending (s.after (text.take r.1) (text.drop r.1)) r.2 := by
  induction text with
  | nil =>
    intro s n ended short _
    have none : next s = none := by rw [ends s (by rw [ended]; exact short), ended]; rfl
    cases n with
    | zero => exact none
    | succ n =>
      rw [optionalChars, ended]
      exact none
  | cons c text ih =>
    intro s n follows short length
    obtain ⟨n, rfl⟩ : ∃ k, n = k + 1 := Nat.exists_eq_add_of_le' (Nat.lt_of_lt_of_le (Nat.succ_pos _) length)
    have here : s.after [] (c :: text) = s := Cursor.after_nil follows
    have holds : anything.has c = true := by simp [anything, CharSet.has, CharItem.has]
    have more := ih (s := s.skip c text) rfl (Nat.le_of_succ_le short) (Nat.le_of_succ_le_succ length)
    have closes := ends s (by rw [follows]; exact short)
    rw [follows] at closes
    rw [optionalChars, follows, upToClosing?]
    simp only [holds, closes, more]
    cases closing : closingLength? (c :: text) with
    | some k => simp [here]
    | none => simp [Function.comp_def, Cursor.skip_after]

/-- The cursor after a body of `n` characters and a closing tag of `k` characters. -/
def closed (s : Cursor) (n k : Nat) : Cursor :=
  let rest := s.rest.drop n
  ((s.after (s.rest.take n) rest).capture 2 s).after (rest.take k) (rest.drop k)

theorem captures_closed (new : ∀ e ∈ s.captures, e.1 ≠ 2) (n k : Nat) : (closed s n k).captures =
    (2, ⟨s.position, s.position + (s.rest.take n).length, s.rest⟩) :: s.captures := by
  have kept : s.captures.filter (·.1 ≠ 2) = s.captures := List.filter_eq_self.mpr fun e mem => by simpa using new e mem
  calc (closed s n k).captures
    _ = (2, ⟨s.position, s.position + (s.rest.take n).length, s.rest⟩) :: s.captures.filter (·.1 ≠ 2) := rfl
    _ = _ := by rw [kept]

theorem position_closed {n k : Nat} (le : n + k ≤ s.rest.length) : (closed s n k).position = s.position + n + k := by
  have body : (s.rest.take n).length = n := List.length_take_of_le (by omega)
  have closing : ((s.rest.drop n).take k).length = k := List.length_take_of_le (by rw [List.length_drop]; omega)
  calc (closed s n k).position
    _ = s.position + (s.rest.take n).length + ((s.rest.drop n).take k).length := rfl
    _ = s.position + n + k := by rw [body, closing]

theorem run_body (new : ∀ e ∈ s.captures, e.1 ≠ 2) (short : s.rest.length ≤ bound) :
    run bound (all (.group 2 (.chars false 0 none anything) :: closingExprs)) s some =
      (upToClosing? s.rest).map fun r => closed s r.1 r.2 := by
  rw [run_all_cons, run, s.enter_of_notMem new]
  refine (optionalChars_anything (fun t k => (t.capture 2 s).after (t.rest.take k) (t.rest.drop k)) ?_ rfl short
    short).trans ?_
  · intro t shorter
    exact (run_closing (s := t.capture 2 s) shorter).trans Option.map_eq_bind.symm
  · rfl

/-! ## Matches -/

/-- A script block matches at a cursor if a tag stands there that is closed somewhere. -/
theorem matchAt_scriptBlock (fresh : s.captures = []) (short : s.rest.length ≤ bound) :
    scriptBlock.matchAt bound s true = (openingTag? s.rest).bind fun tag =>
      (upToClosing? tag.following).map fun r => Pattern.matchBetween s (closed (tag.passed s) r.1 r.2) := by
  have way : scriptBlock.matchAt bound s true = (scriptBlock.regex.run bound s some).map (Pattern.matchBetween s) := by
    simp [Pattern.matchAt]
  rw [way, scriptBlock, run_all_append, run_opening fresh short]
  cases opens : openingTag? s.rest with
  | none => rfl
  | some tag =>
    obtain ⟨name, -, -, text⟩ := eq_of_openingTag? opens
    have shorter : tag.following.length ≤ bound := by
      rw [text, List.length_append, List.length_cons] at short
      omega
    obtain ⟨place, attributes⟩ := captures_passed fresh opens
    have new : ∀ e ∈ (tag.passed s).captures, e.1 ≠ 2 := by simp [attributes]
    rw [Option.bind_some, Option.bind_some, run_body new shorter, Option.map_map]
    rfl

theorem closingLength?_le {n : Nat} (h : closingLength? text = some n) : n ≤ text.length := by
  rw [closingLength?_eq] at h
  obtain ⟨rest, named, found⟩ := Option.bind_eq_some_iff.mp h
  obtain ⟨name, same, each⟩ := eq_of_afterWord? named
  obtain ⟨angle, whole⟩ := Option.ite_none_right_eq_some.mp found
  have name_length : name.length = element.length + 2 := each.length_eq.symm
  have rest_length : (rest.takeWhile Text.isBlank).length + (rest.dropWhile Text.isBlank).length = rest.length := by
    rw [← List.length_append, List.takeWhile_append_dropWhile]
  have some : 0 < (rest.dropWhile Text.isBlank).length := by
    obtain ⟨following, ends⟩ := List.head?_eq_some_iff.mp angle
    simp [ends]
  have text_length : text.length = name.length + rest.length := by rw [same, List.length_append]
  have := Option.some.inj whole
  omega

theorem upToClosing?_le {n k : Nat} (h : upToClosing? text = some (n, k)) : n + k ≤ text.length := by
  induction text generalizing n with
  | nil => cases h
  | cons c rest ih =>
    rw [upToClosing?] at h
    split at h
    · rename_i closes
      obtain ⟨rfl, rfl⟩ := Prod.mk.inj (Option.some.inj h)
      exact Nat.zero_add _ ▸ closingLength?_le closes
    · obtain ⟨⟨n', k'⟩, found, same⟩ := Option.map_eq_some_iff.mp h
      obtain ⟨rfl, rfl⟩ := Prod.mk.inj same
      have le := ih found
      rw [List.length_cons]
      omega

/-- The match reads the block: its first group holds the attributes of the block, and its second one the body. -/
structure ScriptBlock.IsReadBy (text : List Char) (b : ScriptBlock) (m : Match) : Prop where
  attributes : (m.group? 1).map (·.text) = some b.attributes
  body : m.group? 2 = some ⟨b.body.start, b.body.stop, text.drop b.body.start⟩

/-- Where a tag stands that is closed, a match reads the block. -/
theorem matchAt_of_closed (fresh : s.captures = []) (short : s.rest.length ≤ bound) (place : s.position = s.before.length)
    {tag : OpeningTag} (opens : openingTag? s.rest = some tag) {n k : Nat} (closes : upToClosing? tag.following = some (n, k)) :
    ∃ m, scriptBlock.matchAt bound s true = some m ∧ m.start = s.position ∧ m.stop = s.position + tag.length + n + k ∧
      ScriptBlock.IsReadBy (s.before.reverse ++ s.rest)
        ⟨tag.attributes, s.position + tag.length, s.position + tag.length + n⟩ m := by
  have le : n + k ≤ (tag.passed s).rest.length := upToClosing?_le closes
  have body : (tag.following.take n).length = n := List.length_take_of_le (Nat.le_trans (Nat.le_add_right n k) le)
  have following : (s.before.reverse ++ s.rest).drop (s.position + tag.length) = tag.following := by
    rw [place, ← List.length_reverse, List.drop_length_add_append, drop_opening opens]
  obtain ⟨first, attributes⟩ := captures_passed fresh opens
  have captures : (closed (tag.passed s) n k).captures = [
      (2, ⟨s.position + tag.length, s.position + tag.length + n, tag.following⟩),
      (1, ⟨first, first + tag.attributes.length, tag.attributes ++ '>' :: tag.following⟩)] := by
    have new : ∀ e ∈ (tag.passed s).captures, e.1 ≠ 2 := by simp [attributes]
    rw [captures_closed new, attributes, position_passed opens]
    exact congrArg (fun length => [(2, Capture.mk _ (s.position + tag.length + length) _), _]) body
  refine ⟨_, by rw [matchAt_scriptBlock fresh short, opens, Option.bind_some, closes, Option.map_some], rfl, ?_, ?_, ?_⟩
  · exact (position_closed le).trans (by rw [position_passed opens])
  · have group : (Pattern.matchBetween s (closed (tag.passed s) n k)).group? 1 =
        some ⟨first, first + tag.attributes.length, tag.attributes ++ '>' :: tag.following⟩ := by
      rw [Match.group?, Pattern.matchBetween, captures]
      rfl
    rw [group, Option.map_some, Capture.text, Nat.add_sub_cancel_left, List.take_left]
  · rw [Match.group?, Pattern.matchBetween, captures, List.lookup_cons_self, following]

/-! ## Tags that are not closed -/

/-- What follows the next closing angle. -/
def afterAngle (text : List Char) : List Char := (text.dropWhile (· ≠ '>')).tail

theorem following_eq {tag : OpeningTag} (h : openingTag? text = some tag) : tag.following = afterAngle text := by
  obtain ⟨name, each, first, rfl⟩ := eq_of_openingTag? h
  have inName : '>' ∉ name := by
    intro mem
    obtain ⟨c, letter, has⟩ := each.exists_of_mem_right mem
    revert c
    decide +kernel
  have all : ∀ c ∈ name ++ tag.attributes, decide (c ≠ '>') = true := by
    intro c mem
    refine decide_eq_true fun angle => ?_
    exact (List.mem_append.mp mem).elim (angle ▸ inName) (angle ▸ first)
  rw [afterAngle, List.dropWhile_append_of_pos all]
  simp

theorem afterAngle_suffix {later : List Char} (part : later <:+ text) : afterAngle later <:+ afterAngle text := by
  induction text with
  | nil => exact List.suffix_nil.mp part ▸ List.suffix_refl _
  | cons c rest ih =>
    rcases List.suffix_cons_iff.mp part with rfl | part
    · exact List.suffix_refl _
    · by_cases angle : c = '>'
      · have here : afterAngle (c :: rest) = rest := by simp [afterAngle, angle]
        rw [here]
        exact ((List.tail_suffix _).trans (List.dropWhile_suffix _)).trans part
      · have more : afterAngle (c :: rest) = afterAngle rest := by simp [afterAngle, angle]
        rw [more]
        exact ih part

theorem upToClosing?_suffix {later : List Char} (part : later <:+ text) (none : upToClosing? text = none) :
    upToClosing? later = Option.none := by
  induction text with
  | nil => exact List.suffix_nil.mp part ▸ none
  | cons c rest ih =>
    rcases List.suffix_cons_iff.mp part with rfl | part
    · exact none
    · rw [upToClosing?] at none
      split at none
      · cases none
      · exact ih part (Option.map_eq_none_iff.mp none)

/-- If no closing tag follows a tag, then none follows a later one. -/
theorem matchAt_of_unclosed {tag : OpeningTag} (opens : openingTag? text = some tag)
    (unclosed : upToClosing? tag.following = none) (fresh : s.captures = []) (short : s.rest.length ≤ bound)
    (part : s.rest <:+ text) : scriptBlock.matchAt bound s true = none := by
  rw [matchAt_scriptBlock fresh short]
  cases later : openingTag? s.rest with
  | none => rfl
  | some tag' =>
    have follows : tag'.following <:+ tag.following := by
      rw [following_eq opens, following_eq later]
      exact afterAngle_suffix part
    rw [Option.bind_some, upToClosing?_suffix follows unclosed]
    rfl

/-! ## The search -/

theorem blocksFrom_findFrom {text : List Char} : ∀ (before : List Char) (resume : Nat), text.length ≤ bound →
    List.Forall₂ (ScriptBlock.IsReadBy (before.reverse ++ text)) (blocksFrom before.length resume text)
      (scriptBlock.findFrom bound before before.length resume text) := by
  induction text with
  | nil =>
    intro before resume _
    have none : scriptBlock.matchAt bound ⟨before, [], before.length, []⟩ true = none :=
      (matchAt_scriptBlock rfl (Nat.zero_le bound)).trans rfl
    rw [blocksFrom, Pattern.findFrom, Pattern.matchesAt_of_none none, ite_self]
    exact .nil
  | cons c rest ih =>
    intro before resume short
    have more : ∀ resume, List.Forall₂ (ScriptBlock.IsReadBy (before.reverse ++ c :: rest))
        (blocksFrom (before.length + 1) resume rest)
        (scriptBlock.findFrom bound (c :: before) (before.length + 1) resume rest) := by
      intro resume
      have each := ih (c :: before) resume (Nat.le_of_succ_le short)
      rwa [List.reverse_cons, List.append_assoc] at each
    rw [blocksFrom, Pattern.findFrom]
    split
    · exact more resume
    · cases opens : openingTag? (c :: rest) with
      | none =>
        have none : scriptBlock.matchAt bound ⟨before, c :: rest, before.length, []⟩ true = none := by
          rw [matchAt_scriptBlock rfl short, opens]
          rfl
        rw [Pattern.matchesAt_of_none none]
        exact more resume
      | some tag =>
        dsimp only
        split
        · rename_i unclosed
          have none : ∀ before position later, later <:+ c :: rest →
              scriptBlock.matchAt bound ⟨before, later, position, []⟩ true = none := fun before position later part =>
            matchAt_of_unclosed (s := ⟨before, later, position, []⟩) opens unclosed rfl (Nat.le_trans part.length_le short) part
          have quiet : scriptBlock.findFrom bound (c :: before) (before.length + 1) resume rest = [] :=
            Pattern.findFrom_of_none resume fun before position later part =>
              none before position later (part.trans (List.suffix_cons c rest))
          rw [Pattern.matchesAt_of_none (none before before.length (c :: rest) (List.suffix_refl _)), List.isEmpty_nil,
            if_pos rfl, quiet]
          exact .nil
        · rename_i n k closes
          obtain ⟨m, found, start, stop, reads⟩ :=
            matchAt_of_closed (s := ⟨before, c :: rest, before.length, []⟩) rfl short rfl opens closes
          have start : m.start = before.length := start
          have stop : m.stop = before.length + tag.length + n + k := stop
          have moves : m.stop ≠ m.start := by
            rw [start, stop, OpeningTag.length]
            omega
          have resumes : Pattern.endOf before.length [m] = before.length + tag.length + n + k := stop
          rw [Pattern.matchesAt_of_some found moves, resumes]
          exact .cons reads (more _)

/-- The search by hand finds the blocks that the matches of the pattern read. -/
theorem blocks_findAll (text : List Char) :
    List.Forall₂ (ScriptBlock.IsReadBy text) (blocks text) (scriptBlock.findAll text) :=
  blocksFrom_findFrom [] 0 (Nat.le_succ _)

end Template

end CodeAtlas
