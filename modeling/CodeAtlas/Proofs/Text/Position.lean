import CodeAtlas.Text.Position

/-!
# Rows and columns follow offsets

A later offset of a file has a later row, or the same row and a column that is not smaller (`ofOffset_mono`). More bytes in
front of a place move it on (`after_append`): their newlines move it to later rows, and without a newline it stays in its row
and each byte moves it by one column.

Passing rows and then bytes of a row leads back from a place to its offset (`offsetAt?_ofOffset`). The rows of two offsets are
as far apart as there are newlines between them (`row_ofOffset`).
-/

namespace CodeAtlas.Text.Position

/-- The first place is not after the second one: its row is smaller, or it is in the same row and its column is not
larger. -/
def NotAfter (p q : Position) : Prop := p.row < q.row ∨ p.row = q.row ∧ p.column ≤ q.column

theorem ne_newline_of_notMem {line : List UInt8} (plain : newlineByte ∉ line) :
    ∀ b ∈ line, decide (b ≠ newlineByte) = true :=
  fun _ mem => decide_eq_true fun same => plain (same ▸ mem)

/-- Bytes without a newline move a place along its row. -/
theorem column_append {before more : List UInt8} (plain : newlineByte ∉ more) :
    (after (before ++ more)).column = more.length + (after before).column := by
  have kept := ne_newline_of_notMem (mt List.mem_reverse.mp plain)
  simp only [after]
  rw [List.reverse_append, List.takeWhile_append_of_pos kept, List.length_append, List.length_reverse]

/-- More bytes never move a place back. -/
theorem after_append (before more : List UInt8) : (after before).NotAfter (after (before ++ more)) := by
  have rows : (after (before ++ more)).row = (after before).row + more.count newlineByte := List.count_append
  by_cases newline : newlineByte ∈ more
  · have later : 0 < more.count newlineByte := List.count_pos_iff.mpr newline
    exact Or.inl (by omega)
  · have same : more.count newlineByte = 0 := List.count_eq_zero.mpr newline
    refine Or.inr ⟨by omega, ?_⟩
    rw [column_append newline]
    exact Nat.le_add_left _ _

/-- The bytes in front of an offset are those in front of an earlier one and those between the two. -/
theorem take_eq_append_slice (bytes : List UInt8) {start stop : Nat} (le : start ≤ stop) :
    bytes.take stop = bytes.take start ++ slice bytes start stop := by
  rw [slice, ← List.take_add, Nat.add_sub_cancel' le]

/-- Offsets and places are ordered alike. -/
theorem ofOffset_mono (bytes : List UInt8) {a b : Nat} (le : a ≤ b) : (ofOffset bytes a).NotAfter (ofOffset bytes b) := by
  unfold ofOffset
  rw [take_eq_append_slice bytes le]
  exact after_append _ _

/-! ## From places back to offsets -/

/-- The offset of a row and a column: rows with their newlines are passed, and then bytes of the row. Rows and columns that
the bytes do not reach have none. -/
def offsetAt? (bytes : List UInt8) (row column : Nat) : Option Nat :=
  let line := bytes.takeWhile (· ≠ newlineByte)
  match row with
  | 0 => if column ≤ line.length then some column else none
  | row + 1 =>
    match bytes.dropWhile (· ≠ newlineByte) with
    | [] => none
    | _ :: rest => (offsetAt? rest row column).map (line.length + 1 + ·)

/-- The rows of two offsets are as far apart as there are newlines between them. -/
theorem row_ofOffset (bytes : List UInt8) {start stop : Nat} (le : start ≤ stop) :
    (ofOffset bytes stop).row = (ofOffset bytes start).row + (slice bytes start stop).count newlineByte := by
  simp only [ofOffset, after]
  rw [take_eq_append_slice bytes le, List.count_append]

/-- Columns start again after a newline. -/
theorem after_newline {line : List UInt8} (plain : newlineByte ∉ line) (more : List UInt8) :
    after (line ++ newlineByte :: more) = ⟨(after more).row + 1, (after more).column⟩ := by
  have row : (line ++ newlineByte :: more).count newlineByte = more.count newlineByte + 1 := by
    rw [List.count_append, List.count_eq_zero.mpr plain, List.count_cons_self, Nat.zero_add]
  have column : (line ++ newlineByte :: more).reverse.takeWhile (· ≠ newlineByte) =
      more.reverse.takeWhile (· ≠ newlineByte) := by
    rw [List.reverse_append, List.reverse_cons, List.append_assoc, List.singleton_append]
    induction more.reverse with
    | nil => simp
    | cons b back ih => rw [List.cons_append, List.takeWhile_cons, List.takeWhile_cons, ih]
  simp only [after]
  rw [row, column]

/-- Bytes without a newline are the start of the first row. -/
theorem after_of_notMem {line : List UInt8} (plain : newlineByte ∉ line) : after line = ⟨0, line.length⟩ := by
  have column : (after ([] ++ line)).column = line.length + (after []).column := column_append plain
  rw [List.nil_append] at column
  simp only [after] at column ⊢
  rw [column, List.count_eq_zero.mpr plain]
  rfl

/-- The first row of bytes is what stands in front of the first newline. -/
theorem takeWhile_of_notMem {line : List UInt8} (plain : newlineByte ∉ line) (rest : List UInt8) :
    (line ++ newlineByte :: rest).takeWhile (· ≠ newlineByte) = line ∧
      (line ++ newlineByte :: rest).dropWhile (· ≠ newlineByte) = newlineByte :: rest := by
  have kept := ne_newline_of_notMem plain
  rw [List.takeWhile_append_of_pos kept, List.dropWhile_append_of_pos kept]
  simp

/-- The place behind some bytes leads to their end, whatever follows. -/
theorem offsetAt?_after (front back : List UInt8) :
    offsetAt? (front ++ back) (after front).row (after front).column = some front.length := by
  -- row by row: each newline of the front ends a row that is passed
  induction rows : (after front).row generalizing front with
  | zero =>
    have plain : newlineByte ∉ front := List.count_eq_zero.mp rows
    rw [after_of_notMem plain, offsetAt?, List.takeWhile_append_of_pos (ne_newline_of_notMem plain), if_pos]
    rw [List.length_append]
    exact Nat.le_add_right _ _
  | succ row ih =>
    have newline : newlineByte ∈ front := List.count_pos_iff.mp (Nat.lt_of_lt_of_eq (Nat.succ_pos row) rows.symm)
    obtain ⟨line, more, rfl, plain⟩ := List.eq_append_cons_of_mem newline
    obtain ⟨first, others⟩ := takeWhile_of_notMem plain (more ++ back)
    rw [after_newline plain] at rows ⊢
    rw [List.append_assoc, List.cons_append, offsetAt?, first, others]
    simp only [ih more (Nat.succ.inj rows), Option.map_some, List.length_append, List.length_cons]
    congr 1
    omega

/-- Every offset is found again from its place. -/
theorem offsetAt?_ofOffset {bytes : List UInt8} {offset : Nat} (le : offset ≤ bytes.length) :
    offsetAt? bytes (ofOffset bytes offset).row (ofOffset bytes offset).column = some offset := by
  have found := offsetAt?_after (bytes.take offset) (bytes.drop offset)
  rw [List.take_append_drop, List.length_take_of_le le] at found
  exact found

end CodeAtlas.Text.Position
