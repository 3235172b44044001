import CodeAtlas.Proofs.Pattern.Search

/-!
# The way that is tried first

Backtracking follows the first way through an expression after which everything that follows succeeds. So a way that is tried
before all others is the one that is taken if what follows succeeds at its end (`Regex.Prefers`), and an expression that has
no way at all fails whatever follows (`Regex.Rejects`). Greedy repetitions prefer to take all that they can, and an
alternative is left where it is rejected. Each kind of expression has one law, and a whole pattern is followed by applying
them one after another.
-/

namespace CodeAtlas

namespace Regex

/-- The match goes from the first cursor to the second one if what follows succeeds there. -/
def Prefers (bound : Nat) (r : Regex) (s t : Cursor) : Prop :=
  ∀ ⦃next : Cursor → Option Cursor⦄ ⦃u : Cursor⦄, next t = some u → run bound r s next = some u

/-- There is no match at the cursor, whatever follows. -/
def Rejects (bound : Nat) (r : Regex) (s : Cursor) : Prop := ∀ next, run bound r s next = none

variable {bound : Nat} {r a b : Regex} {rs : List Regex} {s t u : Cursor} {set : CharSet} {w rest : List Char}

/-! ## What is rejected -/

/-- An expression that only reads characters is rejected where none of its texts stands. -/
theorem rejects_of_plain (plain : r.isSimple = true) (none : ∀ w, r.Spells w → ¬ w <+: s.rest) : Rejects bound r s := by
  refine fun next => Option.eq_none_iff_forall_ne_some.mpr fun u found => ?_
  obtain ⟨t, -, w, reads, passes⟩ := run_spells plain found
  exact none w reads ⟨t.rest, passes.1.symm⟩

theorem rejects_cons (h : Rejects bound r s) : Rejects bound (all (r :: rs)) s := by
  intro next
  rw [run_all_cons]
  exact h _

theorem rejects_append {rs' : List Regex} (h : Rejects bound (all rs) s) : Rejects bound (all (rs ++ rs')) s := by
  intro next
  rw [run_all_append]
  exact h _

theorem rejects_place {kind : Place} (h : s.isAt kind = false) : Rejects bound (.place kind) s := by
  intro next
  simp [run, h]

/-! ## What is preferred -/

theorem prefers_place {kind : Place} (h : s.isAt kind = true) : Prefers bound (.place kind) s s := by
  intro next u ends
  rw [run, if_pos h]
  exact ends

theorem prefers_nil : Prefers bound (all []) s s := fun _ _ ends => ends

theorem prefers_cons (first : Prefers bound r s t) (others : Prefers bound (all rs) t u) :
    Prefers bound (all (r :: rs)) s u := by
  intro next v ends
  rw [run_all_cons]
  exact first (others ends)

theorem prefers_append {rs' : List Regex} (first : Prefers bound (all rs) s t) (others : Prefers bound (all rs') t u) :
    Prefers bound (all (rs ++ rs')) s u := by
  intro next v ends
  rw [run_all_append]
  exact first (others ends)

theorem prefers_literal {text : String} (next : s.rest = text.toList ++ rest) :
    Prefers bound (literal text) s (s.after text.toList rest) := by
  unfold literal
  generalize text.toList = chars at next ⊢
  induction chars generalizing s with
  | nil =>
    have here : s.after [] rest = s := Cursor.after_nil next
    rw [here]
    intro following u ends
    exact ends
  | cons c chars ih =>
    have one : Prefers bound (.one (.ofChars (String.singleton c))) s (s.skip c (chars ++ rest)) := by
      intro following u ends
      rw [run, next]
      simpa [CharSet.has_ofChars] using ends
    have more := ih (s := s.skip c (chars ++ rest)) rfl
    rw [Cursor.skip_after] at more
    exact prefers_cons one more

theorem prefers_left (h : Prefers bound a s t) : Prefers bound (.alt a b) s t := by
  intro next u ends
  rw [run, h ends, Option.some_or]

theorem prefers_right (left : Rejects bound a s) (h : Prefers bound b s t) : Prefers bound (.alt a b) s t := by
  intro next u ends
  rw [run, left, h ends, Option.none_or]

theorem prefers_group {index : Nat} (h : Prefers bound r (s.enter index) t) :
    Prefers bound (.group index r) s (t.capture index s) := by
  intro next u ends
  exact h ends

/-! ### Repetitions -/

/-- The text ends, or goes on with a character that the set does not have. -/
def Leaves (set : CharSet) (rest : List Char) : Prop := ∀ c ∈ rest.head?, set.has c = false

theorem leaves_cons {c : Char} (h : set.has c = false) (rest : List Char) : Leaves set (c :: rest) := by
  rintro _ ⟨⟩
  exact h

theorem rejects_plus (leaves : Leaves set s.rest) : Rejects bound (plus set) s := by
  intro next
  change requiredChars set 1 s _ = none
  rw [requiredChars]
  split
  · rfl
  · rename_i c rest text
    rw [if_neg (by simp [leaves c (by rw [text]; rfl)])]

theorem prefers_optionalChars (all : ∀ c ∈ w, set.has c = true) (leaves : Leaves set rest) : ∀ {s : Cursor} {n : Nat},
    w.length ≤ n → s.rest = w ++ rest → ∀ {next : Cursor → Option Cursor} {u : Cursor}, next (s.after w rest) = some u →
      optionalChars set true n s next = some u := by
  induction w with
  | nil =>
    intro s n _ text next u ends
    have here : s.after [] rest = s := Cursor.after_nil text
    rw [here] at ends
    cases n with
    | zero => exact ends
    | succ n =>
      rw [optionalChars]
      split
      · exact ends
      · rename_i c more text'
        obtain rfl : rest = c :: more := text.symm.trans text'
        rw [if_pos (by simpa using leaves c rfl)]
        exact ends
  | cons c w ih =>
    intro s n length text next u ends
    obtain ⟨holds, others⟩ := List.forall_mem_cons.mp all
    obtain ⟨n, rfl⟩ : ∃ k, n = k + 1 := Nat.exists_eq_add_of_le' (Nat.lt_of_lt_of_le (Nat.succ_pos _) length)
    have text' : s.rest = c :: (w ++ rest) := text
    have more : optionalChars set true n (s.skip c (w ++ rest)) next = some u := by
      refine ih others (Nat.le_of_succ_le_succ length) rfl ?_
      rw [Cursor.skip_after]
      exact ends
    rw [optionalChars, text']
    simp [holds, more]

/-- As many characters as possible are taken. -/
theorem prefers_star (text : s.rest = w ++ rest) (all : ∀ c ∈ w, set.has c = true) (leaves : Leaves set rest)
    (length : w.length ≤ bound) : Prefers bound (star set) s (s.after w rest) :=
  fun _ _ ends => prefers_optionalChars all leaves length text ends

theorem prefers_plus (text : s.rest = w ++ rest) (all : ∀ c ∈ w, set.has c = true) (some : w ≠ [])
    (leaves : Leaves set rest) (length : w.length ≤ bound) : Prefers bound (plus set) s (s.after w rest) := by
  intro next u ends
  obtain ⟨c, w, rfl⟩ := List.exists_cons_of_ne_nil some
  obtain ⟨holds, others⟩ := List.forall_mem_cons.mp all
  have text' : s.rest = c :: (w ++ rest) := text
  have more : optionalChars set true bound (s.skip c (w ++ rest)) next = .some u := by
    refine prefers_optionalChars others leaves (Nat.le_of_succ_le length) rfl ?_
    rw [Cursor.skip_after]
    exact ends
  simp only [plus, run, requiredChars, text', holds, if_true]
  exact more

theorem prefers_opt (h : Prefers bound r s t) : Prefers bound (opt r) s t := by
  intro next u ends
  have taken : run bound r s (fun t => if s.position < t.position then next t else next t) = some u :=
    h (by simpa using ends)
  simp only [opt, run, required, Option.getD_some, optional, if_true]
  rw [taken, Option.some_or]

theorem prefers_opt_of_rejects (h : Rejects bound r s) : Prefers bound (opt r) s s := by
  intro next u ends
  simp only [opt, run, required, Option.getD_some, optional, if_true]
  rw [h, Option.none_or]
  exact ends

/-- The expression is taken a number of times, always moving on, until it is rejected. -/
inductive Repeats (bound : Nat) (r : Regex) : Nat → Cursor → Cursor → Prop where
  | done {s : Cursor} : Rejects bound r s → Repeats bound r 0 s s
  | more {n : Nat} {s t u : Cursor} : Prefers bound r s t → s.position < t.position → Repeats bound r n t u →
      Repeats bound r (n + 1) s u

theorem optional_of_repeats {n : Nat} (h : Repeats bound r n s t) : ∀ {k : Nat}, n ≤ k →
    ∀ {next : Cursor → Option Cursor} {u : Cursor}, next t = some u → optional (run bound r) true k s next = some u := by
  induction h with
  | done rejects =>
    intro k _ next u ends
    cases k with
    | zero => exact ends
    | succ k =>
      simp only [optional, if_true]
      rw [rejects, Option.none_or]
      exact ends
  | @more n s t v prefers moves _ ih =>
    intro k le next u ends
    obtain ⟨k, rfl⟩ : ∃ j, k = j + 1 := Nat.exists_eq_add_of_le' (Nat.lt_of_lt_of_le (Nat.succ_pos _) le)
    have taken : run bound r s (fun t => if s.position < t.position then optional (run bound r) true k t next else next t) =
        some u := by
      refine prefers ?_
      rw [if_pos moves]
      exact ih (Nat.le_of_succ_le_succ le) ends
    simp only [optional, if_true]
    rw [taken, Option.some_or]

theorem prefers_many {n : Nat} (h : Repeats bound r n s t) (le : n ≤ bound) :
    Prefers bound (.many true 0 none r) s t := fun _ _ ends => optional_of_repeats h le ends

end Regex

namespace Pattern

variable {p : Pattern} {bound : Nat} {s t : Cursor}

theorem matchAt_of_rejects (h : p.regex.Rejects bound s) : p.matchAt bound s true = none := by
  rw [matchAt, h]
  rfl

theorem matchAt_of_prefers (h : p.regex.Prefers bound s t) : p.matchAt bound s true = some (matchBetween s t) :=
  matchAt_of_run (h rfl)

end Pattern

end CodeAtlas
