import CodeAtlas.Proofs.Language.Comments
import CodeAtlas.Proofs.Text.Thinning

/-!
# Stripping keeps lines

Stripping comments deletes characters and moves none: every block comment leaves its newlines where they were
(`dropBlocks_keepsLines`), one kind of block comments after the other, and a comment line leaves an empty line
(`dropLines_keepsLines`). So a line of what is left has the number that it had before (`stripComments_keepsLines`), whatever
the marks of the language are.
-/

namespace CodeAtlas

namespace Comments

variable {opening closing text comment after before mark : List Char}

/-! ## Block comments -/

/-- What is cut is made up of what stands before the mark, the mark, and what follows it. -/
theorem eq_of_cutAfter (h : cutAfter mark text = some (before, after)) : text = before ++ mark ++ after := by
  induction text generalizing before with
  | nil =>
    rw [cutAfter] at h
    split at h
    · rename_i empty
      obtain ⟨rfl, rfl⟩ := Prod.mk.inj (Option.some.inj h)
      simp [List.isEmpty_iff.mp empty]
    · cases h
  | cons c rest ih =>
    rw [cutAfter] at h
    split at h
    · rename_i found
      obtain ⟨rfl, rfl⟩ := Prod.mk.inj (Option.some.inj h)
      obtain ⟨following, whole⟩ := List.isPrefixOf_iff_prefix.mp found
      rw [← whole, List.drop_left, List.nil_append]
    · obtain ⟨cut, found, same⟩ := Option.map_eq_some_iff.mp h
      obtain ⟨rfl, rfl⟩ := Prod.mk.inj same
      rw [List.cons_append, List.cons_append, ← ih found]

/-- A text that starts with a comment is made up of the comment between its marks and what follows. -/
theorem eq_of_commentAt (h : commentAt opening closing text = some (comment, after)) :
    text = opening ++ comment ++ closing ++ after := by
  unfold commentAt at h
  split at h
  · rename_i opens
    obtain ⟨following, whole⟩ := List.isPrefixOf_iff_prefix.mp opens
    rw [← whole, List.drop_left] at h
    rw [← whole, eq_of_cutAfter h]
    simp only [List.append_assoc]
  · cases h

theorem newlinesOf_keepsLines (text : List Char) : Text.KeepsLines text (newlinesOf text) :=
  Text.keepsLines_iff.mpr ⟨List.filter_sublist, List.count_filter (by simp)⟩

/-- Dropping block comments deletes characters, line by line. -/
theorem dropBlocks_keepsLines (opening closing text : List Char) :
    Text.KeepsLines text (dropBlocks opening closing text) := by
  fun_induction dropBlocks opening closing text with
  | case1 => exact .refl []
  | case2 c rest comment after found _ ih =>
    rw [eq_of_commentAt found]
    exact (newlinesOf_keepsLines _).append ih
  | case3 c rest comment after found _ ih => exact (newlinesOf_keepsLines [c]).append ih
  | case4 c rest _ ih => exact (Text.KeepsLines.refl [c]).append ih

/-- Dropping one kind of block comments after another deletes characters, line by line. -/
theorem foldl_dropBlocks_keepsLines (marks : List (String × String)) (text : List Char) :
    Text.KeepsLines text (marks.foldl (fun t m => dropBlocks m.1.toList m.2.toList t) text) := by
  induction marks generalizing text with
  | nil => exact .refl text
  | cons m marks ih => exact (dropBlocks_keepsLines m.1.toList m.2.toList text).trans (ih _)

/-! ## Comment lines -/

section Lines

variable {marks : List Document} {line left : List Char} {error : ScanError}

/-- Only a mark that is no text keeps a line from being told from a comment. -/
theorem isCommentLine_error (h : isCommentLine marks line = .error error) :
    ∃ mark ∈ marks, ¬ mark.IsWritten ∧ error = .badLineMark mark.kindName := by
  fun_induction isCommentLine marks line with
  | case1 => cases h
  | case2 => cases h
  | case3 mark marks _ ih =>
    obtain ⟨other, mem, unwritten, rfl⟩ := ih h
    exact ⟨other, List.mem_cons_of_mem _ mem, unwritten, rfl⟩
  | case4 mark marks unwritten =>
    obtain rfl := Except.error.inj h
    exact ⟨mark, List.mem_cons_self, fun ⟨text, written⟩ => unwritten text written, rfl⟩

theorem dropLine_sublist (h : dropLine marks line = .ok left) : left.Sublist line := by
  obtain ⟨comment, -, rfl⟩ := Except.map_eq_ok_iff.mp h
  cases comment with
  | false => exact .refl line
  | true => exact List.nil_sublist line

/-- Emptying comment lines deletes characters, line by line. -/
theorem dropLines_keepsLines {out : List Char} (h : dropLines marks text = .ok out) : Text.KeepsLines text out := by
  unfold dropLines at h
  split at h
  · obtain rfl := Except.ok.inj h
    exact .refl text
  · obtain ⟨lines, dropped, rfl⟩ := Except.map_eq_ok_iff.mp h
    have each := Except.mapM_eq_ok_iff.mp dropped
    refine .of_lines (fun line mem newline => ?_) (each.imp fun _ _ => dropLine_sublist).flip
    obtain ⟨whole, listed, left⟩ := each.exists_of_mem_right mem
    exact Text.notMem_of_mem_splitOn listed ((dropLine_sublist left).subset newline)

/-- Comment lines cannot be told from others only if a mark is no text. -/
theorem dropLines_error (h : dropLines marks text = .error error) :
    ∃ mark ∈ marks, ¬ mark.IsWritten ∧ error = .badLineMark mark.kindName := by
  unfold dropLines at h
  split at h
  · cases h
  · obtain ⟨line, -, failed⟩ := Except.exists_of_mapM_error (Except.map_eq_error_iff.mp h)
    exact isCommentLine_error (Except.map_eq_error_iff.mp failed)

end Lines

end Comments

/-- For every language and every text: what is left when comments are stripped has as many newlines as the text, and each of
its lines is made up of characters of the line with its number, in their order. Only a language with a mark of line comments
that is no text gives an error in place of a text. -/
theorem Language.stripComments_keepsLines (l : Language) (text : List Char) :
    (l.stripComments text).Gives (Text.KeepsLines text) ∨
      ∃ mark ∈ l.lineMarks, ¬ mark.IsWritten ∧ l.stripComments text = .error (.badLineMark mark.kindName) := by
  have blocks := Comments.foldl_dropBlocks_keepsLines l.blockMarks text
  cases stripped : l.stripComments text with
  | ok left => exact Or.inl (.ok (blocks.trans (Comments.dropLines_keepsLines stripped)))
  | error e =>
    obtain ⟨mark, mem, unwritten, rfl⟩ := Comments.dropLines_error stripped
    exact Or.inr ⟨mark, mem, unwritten, rfl⟩

end CodeAtlas
