import CodeAtlas.Proofs.Pattern.Spelling

/-!
# How matches are found

The matches of a pattern from a cursor on (`matchesFrom`) are found piece by piece. A piece of the text in which no match
starts is passed (`matchesFrom_quiet`), and a match that reads a piece comes first, before those behind the piece
(`matchesFrom_hit`).
-/

namespace CodeAtlas.Pattern

variable {p : Pattern} {bound : Nat} {s : Cursor} {m : Match} {rest : List Char}

/-- The matches from a cursor on. -/
def matchesFrom (p : Pattern) (bound : Nat) (s : Cursor) : List Match :=
  p.findFrom bound s.before s.position s.position s.rest

/-- All matches in a text are those from its start on. -/
theorem findAll_eq_matchesFrom (p : Pattern) (text : List Char) :
    p.findAll text = p.matchesFrom (text.length + 1) (.start text) := rfl

/-- No match starts in a piece of the text. -/
def IsQuiet (p : Pattern) (bound : Nat) (s : Cursor) (text rest : List Char) : Prop :=
  ∀ x y, text = x ++ y → y ≠ [] → p.matchAt bound (s.after x (y ++ rest)) true = none

/-- A match comes from a way through the expression. -/
theorem matchAt_eq_some (h : p.matchAt bound s true = some m) :
    ∃ t, p.regex.run bound s some = some t ∧ m = matchBetween s t := by
  obtain ⟨t, found, rfl⟩ := Option.map_eq_some_iff.mp h
  refine ⟨t, ?_, rfl⟩
  simpa using found

theorem matchAt_of_run {t : Cursor} (h : p.regex.run bound s some = some t) :
    p.matchAt bound s true = some (matchBetween s t) := by
  simp [matchAt, h]

theorem matchesAt_of_none (h : p.matchAt bound s true = none) : p.matchesAt bound s = [] := by
  rw [matchesAt, h]

/-- A match that reads something is the only one at its place. -/
theorem matchesAt_of_some (h : p.matchAt bound s true = some m) (moves : m.stop ≠ m.start) :
    p.matchesAt bound s = [m] := by
  rw [matchesAt, h]
  exact if_neg moves

/-- Where no match starts anywhere in the rest of a text, none is found. -/
theorem findFrom_of_none {text : List Char} : ∀ {before : List Char} {position : Nat} (resume : Nat),
    (∀ before position later, later <:+ text → p.matchAt bound ⟨before, later, position, []⟩ true = none) →
      p.findFrom bound before position resume text = [] := by
  induction text with
  | nil =>
    intro before position resume none
    rw [findFrom, matchesAt_of_none (none before position [] (List.suffix_refl []))]
    exact ite_self []
  | cons c rest ih =>
    intro before position resume none
    have later : ∀ before position later, later <:+ rest → p.matchAt bound ⟨before, later, position, []⟩ true = Option.none :=
      fun before position later part => none before position later (part.trans (List.suffix_cons c rest))
    rw [findFrom, matchesAt_of_none (none before position (c :: rest) (List.suffix_refl _)), ih resume later]
    exact ite_self []

/-- Where the search has come past the place to resume at, that place does not matter. -/
theorem findFrom_of_le (text : List Char) : ∀ {before : List Char} {position resume : Nat}, resume ≤ position →
    p.findFrom bound before position resume text = p.findFrom bound before position position text := by
  induction text with
  | nil =>
    intro before position resume h
    rw [findFrom, findFrom, if_neg (Nat.not_lt.mpr h), if_neg (Nat.lt_irrefl _)]
  | cons c rest ih =>
    intro before position resume h
    rw [findFrom, findFrom, if_neg (Nat.not_lt.mpr h), if_neg (Nat.lt_irrefl _),
      ih (Nat.le_succ_of_le h), ih (Nat.le_succ position)]

/-- What was read by a match is passed. -/
theorem findFrom_passed (text : List Char) : ∀ {before : List Char} {position : Nat},
    p.findFrom bound before position (position + text.length) (text ++ rest) =
      p.matchesFrom bound ⟨text.reverse ++ before, rest, position + text.length, []⟩ := by
  induction text with
  | nil => exact rfl
  | cons c text ih =>
    intro before position
    have more : position < position + (c :: text).length := Nat.lt_add_of_pos_right (Nat.succ_pos _)
    have length : position + (c :: text).length = position + 1 + text.length := by
      rw [List.length_cons]
      omega
    rw [List.cons_append, findFrom, if_pos more, length, ih, List.reverse_cons, List.append_assoc]
    rfl

theorem matchesFrom_end (fresh : s.captures = []) (ended : s.rest = []) (h : p.matchAt bound s true = none) :
    p.matchesFrom bound s = [] := by
  obtain ⟨before, text, position, captures⟩ := s
  obtain rfl : captures = [] := fresh
  obtain rfl : text = [] := ended
  rw [matchesFrom, findFrom, if_neg (Nat.lt_irrefl _), matchesAt_of_none h]

theorem matchesFrom_skip {c : Char} (fresh : s.captures = []) (text : s.rest = c :: rest)
    (h : p.matchAt bound s true = none) : p.matchesFrom bound s = p.matchesFrom bound (s.skip c rest) := by
  obtain ⟨before, following, position, captures⟩ := s
  obtain rfl : captures = [] := fresh
  obtain rfl : following = c :: rest := text
  rw [matchesFrom, findFrom, if_neg (Nat.lt_irrefl _), matchesAt_of_none h]
  exact findFrom_of_le rest (Nat.le_succ position)

theorem matchesFrom_cons {c : Char} (fresh : s.captures = []) (text : s.rest = c :: rest)
    (found : p.matchAt bound s true = some m) (moves : m.stop ≠ m.start) :
    p.matchesFrom bound s = m :: p.findFrom bound (c :: s.before) (s.position + 1) m.stop rest := by
  obtain ⟨before, following, position, captures⟩ := s
  obtain rfl : captures = [] := fresh
  obtain rfl : following = c :: rest := text
  rw [matchesFrom, findFrom, if_neg (Nat.lt_irrefl _), matchesAt_of_some found moves]
  rfl

/-- A piece in which no match starts is passed. -/
theorem matchesFrom_quiet {text : List Char} (fresh : s.captures = []) (passes : s.rest = text ++ rest)
    (quiet : p.IsQuiet bound s text rest) : p.matchesFrom bound s = p.matchesFrom bound (s.after text rest) := by
  induction text generalizing s with
  | nil => exact congrArg (p.matchesFrom bound) (Cursor.after_nil passes).symm
  | cons c text ih =>
    have start : s.after [] (c :: text ++ rest) = s := Cursor.after_nil passes
    have none : p.matchAt bound s true = none := start ▸ quiet [] (c :: text) rfl (List.cons_ne_nil _ _)
    have quiet' : p.IsQuiet bound (s.skip c (text ++ rest)) text rest := by
      intro x y parts some
      rw [Cursor.skip_after]
      exact quiet (c :: x) y (by rw [parts, List.cons_append]) some
    calc p.matchesFrom bound s
      _ = p.matchesFrom bound (s.skip c (text ++ rest)) := matchesFrom_skip fresh passes none
      _ = p.matchesFrom bound ((s.skip c (text ++ rest)).after text rest) := ih fresh rfl quiet'
      _ = p.matchesFrom bound (s.after (c :: text) rest) := by rw [Cursor.skip_after]

/-- A match that reads a piece comes before those behind the piece. -/
theorem matchesFrom_hit {text : List Char} (fresh : s.captures = []) (passes : s.rest = text ++ rest)
    (found : p.matchAt bound s true = some m) (some : text ≠ []) (stop : m.stop = s.position + text.length) :
    p.matchesFrom bound s = m :: p.matchesFrom bound (s.after text rest) := by
  obtain ⟨c, text, rfl⟩ := List.exists_cons_of_ne_nil some
  have start : m.start = s.position := by
    obtain ⟨t, -, rfl⟩ := matchAt_eq_some found
    rfl
  have moves : m.stop ≠ m.start := by
    rw [stop, start]
    exact Nat.ne_of_gt (Nat.lt_add_of_pos_right (Nat.succ_pos _))
  have length : s.position + (c :: text).length = s.position + 1 + text.length := by
    rw [List.length_cons]
    omega
  rw [matchesFrom_cons fresh passes found moves, stop, length]
  refine congrArg (m :: ·) ((findFrom_passed text).trans ?_)
  simp [Cursor.after, matchesFrom, Nat.add_assoc, Nat.add_comm 1]

end CodeAtlas.Pattern
