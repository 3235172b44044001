import CodeAtlas.Proofs.Pattern.Captures

/-!
# The texts of an expression

An expression that only reads characters spells a set of texts, whatever the order in which backtracking tries them
(`Spells`). Matching it succeeds only through a cursor that stands after one of these texts (`run_spells`), and it does
succeed if what follows succeeds after any of them (`run_isSome_of_spells`). So what such an expression matches can be found
without following the search.
-/

namespace CodeAtlas

/-- What holds of all characters of a text is decided one character after another. -/
instance Text.decidableForallMem (text : List Char) (holds : Char → Prop) [DecidablePred holds] :
    Decidable (∀ c ∈ text, holds c) := List.decidableBAll holds text

theorem Text.toNat_of_isAlphanum {c : Char} (h : c.isAlphanum = true) :
    48 ≤ c.toNat ∧ c.toNat ≤ 57 ∨ 65 ≤ c.toNat ∧ c.toNat ≤ 90 ∨ 97 ≤ c.toNat ∧ c.toNat ≤ 122 := by
  have bounds : ∀ {low high : UInt32}, c.val ≥ low ∧ c.val ≤ high → low.toNat ≤ c.toNat ∧ c.toNat ≤ high.toNat :=
    fun within => ⟨UInt32.le_iff_toNat_le.mp within.1, UInt32.le_iff_toNat_le.mp within.2⟩
  have both : ∀ {low high : UInt32}, (decide (c.val ≥ low) && decide (c.val ≤ high)) = true → c.val ≥ low ∧ c.val ≤ high := by
    intro low high within
    simpa using within
  have kinds : (c.isUpper || c.isLower || c.isDigit) = true := h
  rw [Bool.or_eq_true, Bool.or_eq_true] at kinds
  rcases kinds with (upper | lower) | digit
  · exact Or.inr (Or.inl (bounds (of_decide_eq_true upper)))
  · exact Or.inr (Or.inr (bounds (both lower)))
  · exact Or.inl (bounds (both digit))

theorem Text.isWord_of_isAlphanum {c : Char} (h : c.isAlphanum = true) : isWord c = true := by
  have ascii : c.toNat < 0x80 := by
    have bounds := toNat_of_isAlphanum h
    omega
  rw [isWord, if_pos ascii, h, Bool.true_or]

namespace CharSet

theorem any_ranges {chars : List Char} {c : Char} :
    ((chars.map fun d => CharItem.range d d).any (·.has c)) = true ↔ c ∈ chars := by
  simp only [List.any_map, List.any_eq_true, Function.comp_apply, CharItem.has, Bool.and_eq_true, decide_eq_true_eq]
  constructor
  · rintro ⟨d, mem, low, high⟩
    exact Char.le_antisymm low high ▸ mem
  · exact fun mem => ⟨c, mem, Char.le_refl c, Char.le_refl c⟩

theorem has_ofChars {text : String} {c : Char} : (ofChars text).has c = true ↔ c ∈ text.toList := by
  simp only [ofChars, has, Bool.bne_false, any_ranges]

theorem has_notChars {text : String} {c : Char} : (notChars text).has c = true ↔ c ∉ text.toList := by
  simp only [notChars, has, Bool.bne_true, Bool.not_eq_true', ← Bool.not_eq_true, any_ranges]

theorem has_word {c : Char} : word.has c = Text.isWord c := by
  simp [word, has, CharItem.has]

theorem has_blank {c : Char} : blank.has c = Text.isBlank c := by
  simp [blank, has, CharItem.has]

theorem has_withChars {s : CharSet} {text : String} {c : Char} (plain : s.negated = false) :
    (s.withChars text).has c = true ↔ s.has c = true ∨ c ∈ text.toList := by
  have chars : (ofChars text).items.any (·.has c) = true ↔ c ∈ text.toList := any_ranges
  simp only [withChars, has, plain, Bool.bne_false, List.any_append, Bool.or_eq_true, chars]

end CharSet

namespace Cursor

/-- The cursor after a text, with what follows the text. -/
def after (s : Cursor) (text rest : List Char) : Cursor :=
  ⟨text.reverse ++ s.before, rest, s.position + text.length, s.captures⟩

/-- The second cursor stands after a text that the first one stands before. -/
def Passes (s : Cursor) (text : List Char) (t : Cursor) : Prop := s.rest = text ++ t.rest ∧ t = s.after text t.rest

variable {s t u : Cursor} {x y : List Char} {c : Char} {rest : List Char}

theorem after_after (s : Cursor) (x y rest rest' : List Char) : (s.after x rest).after y rest' = s.after (x ++ y) rest' := by
  simp [after, Nat.add_assoc]

theorem skip_after (s : Cursor) (c : Char) (x following rest : List Char) :
    (s.skip c following).after x rest = s.after (c :: x) rest := after_after s [c] x following rest

theorem passes_nil (s : Cursor) : s.Passes [] s := ⟨rfl, rfl⟩

theorem passes_skip (h : s.rest = c :: rest) : s.Passes [c] (s.skip c rest) := ⟨h, rfl⟩

theorem passes_after (h : s.rest = x ++ rest) : s.Passes x (s.after x rest) := ⟨h, rfl⟩

theorem Passes.trans (first : s.Passes x t) (second : t.Passes y u) : s.Passes (x ++ y) u := by
  obtain ⟨text, place⟩ := first
  obtain ⟨text', place'⟩ := second
  refine ⟨by rw [text, text', List.append_assoc], ?_⟩
  rw [place', place]
  exact after_after s x y _ _

/-- After a text comes one cursor only. -/
theorem Passes.unique (first : s.Passes x t) (second : s.Passes x u) : t = u := by
  have rests : t.rest = u.rest := List.append_cancel_left (first.1.symm.trans second.1)
  rw [first.2, second.2, rests]

/-- After no text the cursor is still where it was. -/
theorem after_nil (h : s.rest = rest) : s.after [] rest = s := (s.passes_nil.unique (passes_after h)).symm

/-- A text that falls in two is passed in two steps. -/
theorem Passes.split (h : s.Passes (x ++ y) t) : s.Passes x (s.after x (y ++ t.rest)) ∧
    (s.after x (y ++ t.rest)).Passes y t := by
  obtain ⟨text, place⟩ := h
  refine ⟨⟨by rw [text, List.append_assoc]; rfl, rfl⟩, rfl, ?_⟩
  rw [place]
  exact (after_after s x y _ _).symm

end Cursor

namespace Regex

/-- The expression only reads characters: it has no groups, looks and places, and repeats parts at most once. -/
def isSimple : Regex → Bool
  | .empty | .one _ | .chars .. => true
  | .seq a b | .alt a b => a.isSimple && b.isSimple
  | .many _ least extra body => decide (least = 0 ∧ extra = some 1) && body.isSimple
  | _ => false

/-- The texts that an expression that only reads characters may read. -/
def Spells : Regex → List Char → Prop
  | .empty, w => w = []
  | .one set, w => ∃ c, set.has c = true ∧ w = [c]
  | .chars _ least extra set, w =>
    (∀ c ∈ w, set.has c = true) ∧ least ≤ w.length ∧ ∀ n, extra = some n → w.length ≤ least + n
  | .seq a b, w => ∃ x y, a.Spells x ∧ b.Spells y ∧ w = x ++ y
  | .alt a b, w => a.Spells w ∨ b.Spells w
  | .many _ _ _ body, w => w = [] ∨ body.Spells w
  | _, _ => False

/-! ## Sequences of expressions -/

theorem run_all_cons (bound : Nat) (r : Regex) (rs : List Regex) (s : Cursor) (next : Cursor → Option Cursor) :
    run bound (all (r :: rs)) s next = run bound r s fun t => run bound (all rs) t next := by
  cases rs <;> rfl

theorem run_all_append (bound : Nat) (rs rs' : List Regex) (s : Cursor) (next : Cursor → Option Cursor) :
    run bound (all (rs ++ rs')) s next = run bound (all rs) s fun t => run bound (all rs') t next := by
  induction rs generalizing s with
  | nil => rfl
  | cons r rs ih => simp only [List.cons_append, run_all_cons, ih]

theorem spells_all_cons {r : Regex} {rs : List Regex} {w : List Char} :
    (all (r :: rs)).Spells w ↔ ∃ x y, r.Spells x ∧ (all rs).Spells y ∧ w = x ++ y := by
  cases rs with
  | nil => simp [all, Spells]
  | cons r' rs => rfl

theorem spells_all_append {rs rs' : List Regex} {w : List Char} :
    (all (rs ++ rs')).Spells w ↔ ∃ x y, (all rs).Spells x ∧ (all rs').Spells y ∧ w = x ++ y := by
  induction rs generalizing w with
  | nil => simp [all, Spells]
  | cons r rs ih =>
    simp only [List.cons_append, spells_all_cons, ih]
    constructor
    · rintro ⟨x, _, first, ⟨y, z, second, third, rfl⟩, rfl⟩
      exact ⟨x ++ y, z, ⟨x, y, first, second, rfl⟩, third, (List.append_assoc x y z).symm⟩
    · rintro ⟨_, z, ⟨x, y, first, second, rfl⟩, third, rfl⟩
      exact ⟨x, y ++ z, first, ⟨y, z, second, third, rfl⟩, List.append_assoc x y z⟩

theorem isSimple_all_cons {r : Regex} {rs : List Regex} : (all (r :: rs)).isSimple = (r.isSimple && (all rs).isSimple) := by
  cases rs with
  | nil => simp [all, isSimple]
  | cons r' rs => rfl

theorem isSimple_all_append {rs rs' : List Regex} :
    (all (rs ++ rs')).isSimple = ((all rs).isSimple && (all rs').isSimple) := by
  induction rs with
  | nil => rfl
  | cons r rs ih => rw [List.cons_append, isSimple_all_cons, isSimple_all_cons, ih, Bool.and_assoc]

theorem isSimple_literal (text : String) : (literal text).isSimple = true := by
  unfold literal
  induction text.toList with
  | nil => rfl
  | cons c rest ih =>
    rw [List.map_cons, isSimple_all_cons, ih]
    rfl

theorem spells_literal {text : String} {w : List Char} : (literal text).Spells w ↔ w = text.toList := by
  unfold literal
  induction text.toList generalizing w with
  | nil => rfl
  | cons c rest ih => simp [spells_all_cons, Spells, CharSet.has_ofChars, ih]

/-! ## Every match reads a text of the expression -/

/-- Where the step ends, a text with the property was read. -/
abbrev Reads (step : Step) (P : List Char → Prop) : Prop := Leads step fun s t => ∃ w, P w ∧ s.Passes w t

variable {bound : Nat}

theorem requiredChars_reads (set : CharSet) :
    ∀ n, Reads (requiredChars set n) fun w => (∀ c ∈ w, set.has c = true) ∧ w.length = n
  | 0, s, _, _, h => ⟨s, h, [], ⟨nofun, rfl⟩, s.passes_nil⟩
  | n + 1, s, _, _, h => by
    rw [requiredChars] at h
    split at h
    · cases h
    · rename_i c rest text
      split at h
      · rename_i holds
        obtain ⟨t, h, w, ⟨all, length⟩, passes⟩ := requiredChars_reads set n h
        refine ⟨t, h, c :: w, ⟨List.forall_mem_cons.mpr ⟨holds, all⟩, by simp [length]⟩, ?_⟩
        exact (Cursor.passes_skip text).trans passes
      · cases h

theorem optionalChars_reads (set : CharSet) (greedy : Bool) :
    ∀ n, Reads (optionalChars set greedy n) fun w => (∀ c ∈ w, set.has c = true) ∧ w.length ≤ n
  | 0, s, _, _, h => ⟨s, h, [], ⟨nofun, Nat.le_refl 0⟩, s.passes_nil⟩
  | n + 1, s, next, u, h => by
    have stop : next s = some u → ∃ t, next t = some u ∧ ∃ w, ((∀ c ∈ w, set.has c = true) ∧ w.length ≤ n + 1) ∧
        s.Passes w t := fun h => ⟨s, h, [], ⟨nofun, Nat.zero_le _⟩, s.passes_nil⟩
    rw [optionalChars] at h
    split at h
    · exact stop h
    · rename_i c rest text
      split at h
      · exact stop h
      · rename_i holds
        have more : optionalChars set greedy n (s.skip c rest) next = some u →
            ∃ t, next t = some u ∧ ∃ w, ((∀ c ∈ w, set.has c = true) ∧ w.length ≤ n + 1) ∧ s.Passes w t := by
          intro h
          obtain ⟨t, h, w, ⟨all, length⟩, passes⟩ := optionalChars_reads set greedy n h
          refine ⟨t, h, c :: w, ⟨List.forall_mem_cons.mpr ⟨by simpa using holds, all⟩, Nat.succ_le_succ length⟩, ?_⟩
          exact (Cursor.passes_skip text).trans passes
        split at h
        · rcases Option.or_eq_some_iff.mp h with h | ⟨-, h⟩
          · exact more h
          · exact stop h
        · rcases Option.or_eq_some_iff.mp h with h | ⟨-, h⟩
          · exact stop h
          · exact more h

/-- Matching an expression that only reads characters reads one of its texts. -/
theorem run_spells {r : Regex} (plain : r.isSimple = true) : Reads (run bound r) r.Spells := by
  induction r with
  | empty => exact fun {s _ _} h => ⟨s, h, [], rfl, s.passes_nil⟩
  | one set =>
    intro s next u h
    rw [run] at h
    split at h
    · cases h
    · rename_i c rest text
      split at h
      · rename_i holds
        exact ⟨_, h, [c], ⟨c, holds, rfl⟩, Cursor.passes_skip text⟩
      · cases h
  | chars greedy least extra set =>
    intro s next u h
    obtain ⟨m, h, x, ⟨all, length⟩, passes⟩ := requiredChars_reads set least h
    obtain ⟨t, h, y, ⟨all', length'⟩, passes'⟩ := optionalChars_reads set greedy _ h
    refine ⟨t, h, x ++ y, ⟨List.forall_mem_append.mpr ⟨all, all'⟩, by simp [length], ?_⟩, passes.trans passes'⟩
    rintro n rfl
    simp only [List.length_append, length]
    exact Nat.add_le_add_left length' _
  | seq a b iha ihb =>
    intro s next u h
    obtain ⟨first, second⟩ := Bool.and_eq_true_iff.mp plain
    obtain ⟨m, h, x, spells, passes⟩ := iha first h
    obtain ⟨t, h, y, spells', passes'⟩ := ihb second h
    exact ⟨t, h, x ++ y, ⟨x, y, spells, spells', rfl⟩, passes.trans passes'⟩
  | alt a b iha ihb =>
    intro s next u h
    obtain ⟨first, second⟩ := Bool.and_eq_true_iff.mp plain
    rcases Option.or_eq_some_iff.mp h with h | ⟨-, h⟩
    · obtain ⟨t, h, w, spells, passes⟩ := iha first h
      exact ⟨t, h, w, Or.inl spells, passes⟩
    · obtain ⟨t, h, w, spells, passes⟩ := ihb second h
      exact ⟨t, h, w, Or.inr spells, passes⟩
  | many greedy least extra body ih =>
    intro s next u h
    obtain ⟨once, plain⟩ := Bool.and_eq_true_iff.mp plain
    obtain ⟨rfl, rfl⟩ := of_decide_eq_true once
    have read : (run bound body s fun t => if s.position < t.position then next t else next t) = some u →
        ∃ t, next t = some u ∧ ∃ w, (many greedy 0 (some 1) body).Spells w ∧ s.Passes w t := by
      intro h
      obtain ⟨t, h, w, spells, passes⟩ := ih plain h
      exact ⟨t, by simpa using h, w, Or.inr spells, passes⟩
    have stop : next s = some u → ∃ t, next t = some u ∧ ∃ w, (many greedy 0 (some 1) body).Spells w ∧ s.Passes w t :=
      fun h => ⟨s, h, [], Or.inl rfl, s.passes_nil⟩
    simp only [run, required, Option.getD_some, optional] at h
    split at h
    · rcases Option.or_eq_some_iff.mp h with h | ⟨-, h⟩
      · exact read h
      · exact stop h
    · rcases Option.or_eq_some_iff.mp h with h | ⟨-, h⟩
      · exact stop h
      · exact read h
  | group | again | whether | once | place | ahead | behind => cases plain

/-! ## Every text of the expression can be read -/

variable {set : CharSet} {s t : Cursor} {next : Cursor → Option Cursor}

theorem requiredChars_of_passes {w : List Char} (all : ∀ c ∈ w, set.has c = true) (passes : s.Passes w t) :
    requiredChars set w.length s next = next t := by
  induction w generalizing s with
  | nil => rw [List.length_nil, requiredChars, s.passes_nil.unique passes]
  | cons c w ih =>
    obtain ⟨holds, others⟩ := List.forall_mem_cons.mp all
    rw [List.length_cons, requiredChars]
    split
    · rename_i text
      exact absurd (passes.1.symm.trans text) (List.cons_ne_nil _ _)
    · rename_i d rest text
      obtain ⟨rfl, rfl⟩ : d = c ∧ rest = w ++ t.rest := List.cons.inj (text.symm.trans passes.1)
      rw [if_pos holds]
      exact ih others (Cursor.Passes.split (x := [d]) passes).2

theorem optionalChars_of_passes {w : List Char} {n : Nat} (greedy : Bool) (all : ∀ c ∈ w, set.has c = true)
    (length : w.length ≤ n) (passes : s.Passes w t) (ends : (next t).isSome = true) :
    (optionalChars set greedy n s next).isSome = true := by
  induction w generalizing s n with
  | nil =>
    rw [← s.passes_nil.unique passes] at ends
    cases n with
    | zero => exact ends
    | succ n =>
      rw [optionalChars]
      split
      · exact ends
      · split
        · exact ends
        · split <;> simp [ends]
  | cons c w ih =>
    obtain ⟨holds, others⟩ := List.forall_mem_cons.mp all
    obtain ⟨n, rfl⟩ : ∃ k, n = k + 1 := Nat.exists_eq_add_of_le' (Nat.lt_of_lt_of_le (Nat.succ_pos _) length)
    rw [optionalChars]
    split
    · rename_i text
      exact absurd (passes.1.symm.trans text) (List.cons_ne_nil _ _)
    · rename_i d rest text
      obtain ⟨rfl, rfl⟩ : d = c ∧ rest = w ++ t.rest := List.cons.inj (text.symm.trans passes.1)
      have more := ih (n := n) others (Nat.le_of_succ_le_succ length) (Cursor.Passes.split (x := [d]) passes).2
      rw [if_neg (by simp [holds])]
      split <;> simp only [Option.isSome_or, Bool.or_eq_true]
      · exact Or.inl more
      · exact Or.inr more

/-- An expression that only reads characters matches each of its texts, if what follows succeeds after it. -/
theorem run_isSome_of_spells {r : Regex} (plain : r.isSimple = true) {w : List Char} (spells : r.Spells w)
    (length : w.length ≤ bound) (passes : s.Passes w t) (ends : (next t).isSome = true) :
    (run bound r s next).isSome = true := by
  induction r generalizing s t w next with
  | empty =>
    obtain rfl := spells
    rw [run, s.passes_nil.unique passes]
    exact ends
  | one set =>
    obtain ⟨c, holds, rfl⟩ := spells
    have text : s.rest = c :: t.rest := passes.1
    rw [run]
    split
    · rename_i none
      rw [none] at text
      cases text
    · rename_i d rest text'
      obtain ⟨rfl, rfl⟩ : d = c ∧ rest = t.rest := List.cons.inj (text'.symm.trans text)
      rw [if_pos holds, (Cursor.passes_skip text).unique passes]
      exact ends
  | chars greedy least extra set =>
    obtain ⟨all, atLeast, atMost⟩ := spells
    have halves : w.take least ++ w.drop least = w := List.take_append_drop least w
    rw [← halves] at passes
    obtain ⟨first, second⟩ := passes.split
    have count : (w.take least).length = least := List.length_take_of_le atLeast
    rw [run]
    -- the required characters come first, whatever the repetition prefers
    conv in requiredChars set least => rw [← count]
    rw [requiredChars_of_passes (fun c mem => all c (List.mem_of_mem_take mem)) first]
    refine optionalChars_of_passes greedy (fun c mem => all c (List.mem_of_mem_drop mem)) ?_ second ends
    rw [List.length_drop]
    cases extra with
    | none => exact Nat.le_trans (Nat.sub_le _ _) length
    | some n => exact Nat.sub_le_of_le_add (Nat.add_comm least n ▸ atMost n rfl)
  | seq a b iha ihb =>
    obtain ⟨first, second⟩ := Bool.and_eq_true_iff.mp plain
    obtain ⟨x, y, spells, spells', rfl⟩ := spells
    obtain ⟨passes, passes'⟩ := passes.split
    rw [List.length_append] at length
    exact iha first spells (Nat.le_trans (Nat.le_add_right _ _) length) passes
      (ihb second spells' (Nat.le_trans (Nat.le_add_left _ _) length) passes' ends)
  | alt a b iha ihb =>
    obtain ⟨first, second⟩ := Bool.and_eq_true_iff.mp plain
    rw [run, Option.isSome_or, Bool.or_eq_true]
    rcases spells with spells | spells
    · exact Or.inl (iha first spells length passes ends)
    · exact Or.inr (ihb second spells length passes ends)
  | many greedy least extra body ih =>
    obtain ⟨once, plain⟩ := Bool.and_eq_true_iff.mp plain
    obtain ⟨rfl, rfl⟩ := of_decide_eq_true once
    simp only [run, required, Option.getD_some, optional, ite_self]
    rcases spells with rfl | spells
    · rw [← s.passes_nil.unique passes] at ends
      split <;> simp [ends]
    · have more := ih plain spells length passes ends
      split <;> simp [more]
  | group | again | whether | once | place | ahead | behind => cases plain

end Regex

end CodeAtlas
