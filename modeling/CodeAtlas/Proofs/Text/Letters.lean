import CodeAtlas.Proofs.Pattern.Spelling

/-!
# Letters of marks up to case

A mark such as a tag is written in small letters and ASCII signs, but may stand in a text in any mixture of cases. A sign
stands for itself only, and a small letter for itself and its capital; two letters have forms beyond ASCII, `i` with and
without its dot and the long `s` (`mem_casesOf_iff`).
-/

namespace CodeAtlas.Text

/-- A sign or a small letter of ASCII. The letter `k` is left out, since a sign beyond ASCII is the same up to case. -/
def isMarkChar (c : Char) : Bool := c.toNat < 0x80 && 0 < c.toNat && !c.isUpper && c ≠ 'k'

/-- The forms beyond ASCII of a small letter. -/
def foreignForms (c : Char) : List Char :=
  if c = 'i' then [Char.ofNat 0x130, Char.ofNat 0x131] else if c = 's' then [Char.ofNat 0x17F] else []

variable {c d e : Char}

/-- What holds of all numbers below 128 holds of all characters of ASCII. -/
theorem forall_ascii {P : Char → Prop} (each : ∀ n < 0x80, P (Char.ofNat n)) (h : c.toNat < 0x80) : P c := by
  have here := each c.toNat h
  rwa [Char.ofNat_toNat] at here

theorem ascii_of_mark (mark : isMarkChar c = true) : c.toNat < 0x80 := by
  simp only [isMarkChar, Bool.and_eq_true, decide_eq_true_eq] at mark
  exact mark.1.1.1

theorem pos_of_mark (mark : isMarkChar c = true) : 0 < c.toNat := by
  simp only [isMarkChar, Bool.and_eq_true, decide_eq_true_eq] at mark
  exact mark.1.1.2

theorem not_covers_ascii (h : c.toNat < 0x80) : ∀ run ∈ lowerRuns, run.covers c = false := by
  have start : ∀ run ∈ lowerRuns, 0x80 ≤ run.first := by decide +kernel
  intro run mem
  have first := start run mem
  have before : ¬ run.first ≤ c.toNat := by omega
  simp [CaseRun.covers, before]

/-! ## Small letters -/

/-- No run of capital letters leads to the number. -/
def isNoTarget (n : Nat) : Bool := lowerRuns.all fun run => !(run.first + run.shift ≤ n && n ≤ run.last + run.shift)

/-- The character of a number has that number, unless there is no such character. -/
theorem toNat_ofNat (n : Nat) : (Char.ofNat n).toNat = n ∨ (Char.ofNat n).toNat = 0 := by
  by_cases valid : n.isValidChar
  · rw [Char.ofNat, dif_pos valid]
    exact Or.inl rfl
  · rw [Char.ofNat, dif_neg valid]
    exact Or.inr rfl

theorem eq_of_shiftCase (free : isNoTarget c.toNat = true) (some : 0 < c.toNat) (h : shiftCase lowerRuns d = c) : d = c := by
  unfold shiftCase at h
  split at h
  · rename_i run found
    have covers := List.find?_some found
    have none := List.all_eq_true.mp free run (List.mem_of_find?_eq_some found)
    simp only [CaseRun.covers, Bool.and_eq_true, decide_eq_true_eq] at covers
    simp only [Bool.not_eq_true', Bool.and_eq_false_iff, decide_eq_false_iff_not] at none
    have number : (Char.ofNat ((d.toNat : Int) + run.shift).toNat).toNat = c.toNat := congrArg Char.toNat h
    rcases toNat_ofNat ((d.toNat : Int) + run.shift).toNat with shifted | zero
    · rw [shifted] at number
      omega
    · rw [zero] at number
      omega
  · exact h

theorem isNoTarget_of_mark (mark : isMarkChar c = true) : isNoTarget c.toNat = true := by
  have ascii := ascii_of_mark mark
  exact forall_ascii (P := fun c => isMarkChar c = true → isNoTarget c.toNat = true) (by decide +kernel) ascii mark

/-- The letters of ASCII whose small letter is the character of a mark. -/
theorem toLower_eq_iff (mark : isMarkChar c = true) (ascii : d.toNat < 0x80) : d.toLower = c ↔ d = c ∨ d = c.toUpper := by
  have back : d.toLower = d ∨ d.toLower.toUpper = d :=
    forall_ascii (P := fun d => d.toLower = d ∨ d.toLower.toUpper = d) (by decide) ascii
  have same : isMarkChar c = true → c.toLower = c ∧ c.toUpper.toLower = c :=
    forall_ascii (P := fun c => isMarkChar c = true → c.toLower = c ∧ c.toUpper.toLower = c) (by decide) (ascii_of_mark mark)
  constructor
  · rintro rfl
    exact back.imp Eq.symm Eq.symm
  · rintro (rfl | rfl)
    · exact (same mark).1
    · exact (same mark).2

/-- The letters whose small letter is the character of a mark. -/
theorem small_eq_iff (mark : isMarkChar c = true) :
    small d = c ↔ d = c ∨ d = c.toUpper ∨ c = 'i' ∧ d = Char.ofNat 0x130 := by
  have dotted : (Char.ofNat 0x130).toNat = 0x130 := rfl
  have capital : isMarkChar c = true → c.toUpper.toNat < 0x80 :=
    forall_ascii (P := fun c => isMarkChar c = true → c.toUpper.toNat < 0x80) (by decide) (ascii_of_mark mark)
  by_cases ascii : d.toNat < 0x80
  · have other : ¬ (c = 'i' ∧ d = Char.ofNat 0x130) := fun h => by
      rw [h.2, dotted] at ascii
      omega
    rw [small, if_pos ascii, toLower_eq_iff mark ascii]
    simp [other]
  · have foreign : d ≠ c ∧ d ≠ c.toUpper :=
      ⟨fun same => ascii (same ▸ ascii_of_mark mark), fun same => ascii (same ▸ capital mark)⟩
    rw [small, if_neg ascii]
    by_cases dot : d.toNat = 0x130
    · obtain rfl : d = Char.ofNat 0x130 := by rw [← Char.ofNat_toNat d, dot]
      rw [if_pos dot]
      simp [foreign, eq_comm]
    · have other : d ≠ Char.ofNat 0x130 := fun same => dot (same ▸ dotted)
      have moved : shiftCase lowerRuns d ≠ c := fun h =>
        foreign.1 (eq_of_shiftCase (isNoTarget_of_mark mark) (pos_of_mark mark) h)
      rw [if_neg dot]
      simp [foreign, other, moved]

/-- A letter that no run leads to is the small letter of itself only. -/
theorem eq_of_small (free : isNoTarget c.toNat = true) (foreign : ¬ c.toNat < 0x80) (h : small d = c) : d = c := by
  unfold small at h
  split at h
  · rename_i ascii
    have small : d.toLower.toNat < 0x80 := forall_ascii (P := fun d => d.toLower.toNat < 0x80) (by decide) ascii
    exact absurd (h ▸ small) foreign
  · split at h
    · exact absurd (h ▸ (by decide : 'i'.toNat < 0x80)) foreign
    · exact eq_of_shiftCase free (by omega) h

/-! ## Capital letters -/

/-- A mark's character is no capital letter. -/
theorem notMem_capitalsOf (mark : isMarkChar c = true) (e : Char) : c ∉ capitalsOf e := by
  have ascii : c.toNat < 0x80 := ascii_of_mark mark
  simp only [capitalsOf, List.mem_append, List.mem_filterMap, not_or]
  refine ⟨⟨?_, ?_⟩, ?_⟩
  · split
    · rename_i lower
      rw [List.mem_singleton]
      rintro rfl
      have small : e.toNat < 0x80 := by
        have letter : (e.isUpper || e.isLower || e.isDigit) = true := by rw [lower, Bool.or_true, Bool.true_or]
        have bounds := toNat_of_isAlphanum letter
        omega
      have capital : e.isLower = true → e.toUpper.isUpper = true :=
        forall_ascii (P := fun e => e.isLower = true → e.toUpper.isUpper = true) (by decide) small
      simp [isMarkChar, capital lower] at mark
    · exact List.not_mem_nil
  · split
    · rw [List.mem_singleton]
      rintro rfl
      exact absurd ascii (by decide)
    · exact List.not_mem_nil
  · rintro ⟨run, mem, capital⟩
    simp only [CaseRun.capital?, Option.ite_none_right_eq_some, Option.some.injEq, Bool.and_eq_true] at capital
    obtain ⟨⟨covers, -⟩, rfl⟩ := capital
    rw [not_covers_ascii ascii run mem] at covers
    cases covers

/-! ## All forms -/

/-- The small letters that are forms of one letter with the character of a mark. -/
theorem mem_formsOf_iff (mark : isMarkChar c = true) :
    c ∈ formsOf d ↔ d = c ∨ c = 'i' ∧ d = Char.ofNat 0x131 ∨ c = 's' ∧ d = Char.ofNat 0x17F := by
  have ascii := ascii_of_mark mark
  have dotless : (Char.ofNat 0x131).toNat = 0x131 := rfl
  have long : (Char.ofNat 0x17F).toNat = 0x17F := rfl
  unfold formsOf
  split
  · rename_i forms found
    have listed := List.mem_of_find?_eq_some found
    have here : d.toNat ∈ forms := by simpa using List.find?_some found
    rw [List.mem_map]
    constructor
    · rintro ⟨n, mem, rfl⟩
      have inside : ∀ forms ∈ smallForms, ∀ n ∈ forms, (Char.ofNat n).toNat < 0x80 →
          forms = [0x69, 0x131] ∧ n = 0x69 ∨ forms = [0x73, 0x17F] ∧ n = 0x73 := by decide +kernel
      rw [← Char.ofNat_toNat d]
      rcases inside forms listed n mem ascii with ⟨rfl, rfl⟩ | ⟨rfl, rfl⟩
      · have either : d.toNat = 0x69 ∨ d.toNat = 0x131 := by simpa using here
        rcases either with plain | other
        · exact Or.inl (congrArg Char.ofNat plain)
        · exact Or.inr (Or.inl ⟨rfl, congrArg Char.ofNat other⟩)
      · have either : d.toNat = 0x73 ∨ d.toNat = 0x17F := by simpa using here
        rcases either with plain | other
        · exact Or.inl (congrArg Char.ofNat plain)
        · exact Or.inr (Or.inr ⟨rfl, congrArg Char.ofNat other⟩)
    · have plain : ∀ forms ∈ smallForms, (0x131 ∈ forms → 0x69 ∈ forms) ∧ (0x17F ∈ forms → 0x73 ∈ forms) := by decide
      rintro (rfl | ⟨rfl, rfl⟩ | ⟨rfl, rfl⟩)
      · exact ⟨d.toNat, here, Char.ofNat_toNat d⟩
      · exact ⟨0x69, (plain forms listed).1 (dotless ▸ here), rfl⟩
      · exact ⟨0x73, (plain forms listed).2 (long ▸ here), rfl⟩
  · rename_i none
    have alone : ∀ n, smallForms.find? (·.contains n) = Option.none → n ≠ 0x131 ∧ n ≠ 0x17F := by
      intro n none
      constructor
      · rintro rfl
        exact absurd none (by decide)
      · rintro rfl
        exact absurd none (by decide)
    have notDotless : d ≠ Char.ofNat 0x131 := fun same => (alone d.toNat none).1 (same ▸ dotless)
    have notLong : d ≠ Char.ofNat 0x17F := fun same => (alone d.toNat none).2 (same ▸ long)
    simp [notDotless, notLong, eq_comm]

/-- The letters that are the same up to case as the character of a mark. -/
theorem mem_casesOf_iff (mark : isMarkChar c = true) : c ∈ casesOf d ↔ d = c ∨ d = c.toUpper ∨ d ∈ foreignForms c := by
  have forms : c ∈ casesOf d ↔ c ∈ formsOf (small d) := by
    simp only [casesOf, List.mem_flatMap, List.mem_cons, notMem_capitalsOf mark, or_false]
    simp
  have dotless : small d = Char.ofNat 0x131 ↔ d = Char.ofNat 0x131 :=
    ⟨eq_of_small (by decide +kernel) (by decide), fun same => by rw [same]; decide +kernel⟩
  have long : small d = Char.ofNat 0x17F ↔ d = Char.ofNat 0x17F :=
    ⟨eq_of_small (by decide +kernel) (by decide), fun same => by rw [same]; decide +kernel⟩
  rw [forms, mem_formsOf_iff mark, small_eq_iff mark, dotless, long]
  unfold foreignForms
  by_cases i : c = 'i'
  · subst i
    simp [or_assoc]
  · by_cases s : c = 's'
    · subst s
      simp [or_assoc]
    · simp [i, s]

end CodeAtlas.Text
