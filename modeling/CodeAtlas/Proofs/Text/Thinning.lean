import CodeAtlas.Proofs.Text.Split
import Mathlib.Data.List.Forall2

/-!
# Deleting characters line by line

A text keeps its lines if characters are deleted from it, but none is moved to another line and no line is lost
(`KeepsLines`). That is so exactly if the characters that are left stand in their old order and all newlines are among them
(`keepsLines_iff`), so what is put together from parts that keep their lines keeps its lines too.
-/

namespace CodeAtlas.Text

variable {sep c : Char} {text out left : List Char}

/-- A character that does not separate lengthens the first piece. -/
theorem splitOn_cons_of_ne (other : c ≠ sep) (text : List Char) : ∃ piece pieces,
    splitOn sep text = piece :: pieces ∧ splitOn sep (c :: text) = (c :: piece) :: pieces := by
  cases cut : splitOn sep text with
  | nil => exact absurd cut (splitOn_ne_nil sep text)
  | cons piece pieces => exact ⟨piece, pieces, rfl, by rw [splitOn, if_neg other, cut]⟩

/-- There is one piece more than there are separators. -/
theorem length_splitOn (sep : Char) (text : List Char) : (splitOn sep text).length = text.count sep + 1 := by
  induction text with
  | nil => rfl
  | cons c text ih =>
    by_cases here : c = sep
    · rw [splitOn, if_pos here, List.length_cons, ih, here, List.count_cons_self]
    · obtain ⟨piece, pieces, cut, cut'⟩ := splitOn_cons_of_ne here text
      rw [cut', List.count_cons_of_ne here, ← ih, cut, List.length_cons, List.length_cons]

/-- Pieces that are parts of others, joined, are a part of the others joined. -/
theorem sublist_joinWith {pieces pieces' : List (List Char)} (each : List.Forall₂ List.Sublist pieces pieces') :
    (joinWith sep pieces).Sublist (joinWith sep pieces') := by
  induction each with
  | nil => exact .slnil
  | @cons piece piece' pieces pieces' first others ih =>
    by_cases last : pieces' = []
    · obtain rfl := last
      obtain rfl := List.forall₂_nil_right_iff.mp others
      exact first
    · have last' : pieces ≠ [] := by
        rintro rfl
        exact last (List.forall₂_nil_left_iff.mp others)
      rw [joinWith_cons piece last', joinWith_cons piece' last]
      exact first.append (ih.cons_cons sep)

/-- Characters of a text are deleted line by line: there are as many newlines as before, and each line is made up of
characters of the line that stood in its place, in their order. -/
structure KeepsLines (text out : List Char) : Prop where
  newlines : out.count '\n' = text.count '\n'
  lines : List.Forall₂ List.Sublist (splitOn '\n' out) (splitOn '\n' text)

/-- If no newline is deleted, no character comes to stand in another line. -/
theorem lines_of_sublist (part : out.Sublist text) (newlines : out.count '\n' = text.count '\n') :
    List.Forall₂ List.Sublist (splitOn '\n' out) (splitOn '\n' text) := by
  induction part with
  | slnil => exact .cons .slnil .nil
  | @cons out text c part ih =>
    have other : c ≠ '\n' := by
      rintro rfl
      have fewer := part.count_le '\n'
      rw [List.count_cons_self] at newlines
      omega
    rw [List.count_cons_of_ne other] at newlines
    obtain ⟨line, lines, cut, cut'⟩ := splitOn_cons_of_ne other text
    obtain ⟨line', lines', here, below, same⟩ := List.forall₂_cons_right_iff.mp (cut ▸ ih newlines)
    rw [same, cut']
    exact .cons (here.cons c) below
  | @cons_cons out text c part ih =>
    by_cases newline : c = '\n'
    · subst newline
      rw [List.count_cons_self, List.count_cons_self] at newlines
      rw [splitOn, splitOn, if_pos rfl, if_pos rfl]
      exact .cons .slnil (ih (Nat.succ.inj newlines))
    · rw [List.count_cons_of_ne newline, List.count_cons_of_ne newline] at newlines
      obtain ⟨line, lines, cut, cut'⟩ := splitOn_cons_of_ne newline text
      obtain ⟨line', lines', same, same'⟩ := splitOn_cons_of_ne newline out
      have both := ih newlines
      rw [cut, same] at both
      obtain ⟨here, below⟩ := List.forall₂_cons.mp both
      rw [cut', same']
      exact .cons (here.cons_cons c) below

theorem keepsLines_iff : KeepsLines text out ↔ out.Sublist text ∧ out.count '\n' = text.count '\n' := by
  constructor
  · intro h
    have part : (joinWith '\n' (splitOn '\n' out)).Sublist (joinWith '\n' (splitOn '\n' text)) := sublist_joinWith h.lines
    rw [joinWith_splitOn, joinWith_splitOn] at part
    exact ⟨part, h.newlines⟩
  · rintro ⟨part, newlines⟩
    exact ⟨newlines, lines_of_sublist part newlines⟩

namespace KeepsLines

theorem refl (text : List Char) : KeepsLines text text := keepsLines_iff.mpr ⟨.refl text, rfl⟩

theorem trans (h : KeepsLines text out) (h' : KeepsLines out left) : KeepsLines text left := by
  rw [keepsLines_iff] at h h' ⊢
  exact ⟨h'.1.trans h.1, h'.2.trans h.2⟩

/-- Parts that keep their lines, one after the other, keep their lines. -/
theorem append {text' out' : List Char} (h : KeepsLines text out) (h' : KeepsLines text' out') :
    KeepsLines (text ++ text') (out ++ out') := by
  rw [keepsLines_iff] at h h' ⊢
  rw [List.count_append, List.count_append, h.2, h'.2]
  exact ⟨h.1.append h'.1, rfl⟩

/-- Lines from which characters were deleted, joined again. -/
theorem of_lines {lines : List (List Char)} (free : ∀ line ∈ lines, '\n' ∉ line)
    (each : List.Forall₂ List.Sublist lines (splitOn '\n' text)) : KeepsLines text (joinWith '\n' lines) := by
  have some : lines ≠ [] := by
    rintro rfl
    exact splitOn_ne_nil '\n' text (List.forall₂_nil_left_iff.mp each)
  have cut : splitOn '\n' (joinWith '\n' lines) = lines := splitOn_joinWith free some
  refine ⟨Nat.succ.inj ?_, cut.symm ▸ each⟩
  calc (joinWith '\n' lines).count '\n' + 1
    _ = lines.length := by rw [← length_splitOn, cut]
    _ = text.count '\n' + 1 := by rw [each.length_eq, length_splitOn]

end KeepsLines

end CodeAtlas.Text
