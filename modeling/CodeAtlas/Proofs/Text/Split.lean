import CodeAtlas.Text.Split
import Mathlib.Data.List.Basic

/-!
# Laws of cutting and joining

Cutting a text at a separator is the cutting of lists (`splitOn_eq`), and joining pieces is what lists call intercalation
(`joinWith_eq`). No piece holds the separator (`notMem_of_mem_splitOn`), so pieces without it are found again after joining
(`splitOn_joinWith`). A text cut at a separator that stands in it falls into the pieces of what stands before and after it
(`splitOn_append_separator`).
-/

namespace CodeAtlas.Text

/-- What stands before the first separator, the separator, and what stands after it. -/
theorem append_separator_inj (separates : Char → Prop) {c d : Char} (hc : separates c) (hd : separates d) :
    ∀ {a b x y : List Char}, (∀ e ∈ a, ¬ separates e) → (∀ e ∈ b, ¬ separates e) → a ++ c :: x = b ++ d :: y →
      a = b ∧ c = d ∧ x = y
  | [], [], _, _, _, _, h => ⟨rfl, List.cons.inj h⟩
  | [], _ :: _, _, _, _, hb, h => absurd ((List.cons.inj h).1 ▸ hc) (hb _ List.mem_cons_self)
  | _ :: _, [], _, _, ha, _, h => absurd ((List.cons.inj h).1.symm ▸ hd) (ha _ List.mem_cons_self)
  | _ :: a, _ :: b, _, _, ha, hb, h => by
    obtain ⟨same, rest⟩ := List.cons.inj h
    obtain ⟨before, separator, after⟩ := append_separator_inj separates hc hd (List.forall_mem_cons.mp ha).2
      (List.forall_mem_cons.mp hb).2 rest
    exact ⟨by rw [same, before], separator, after⟩

/-- A word behind what is skipped, up to where it ends. -/
theorem takeWhile_dropWhile {skips within : Char → Bool} {front word back : List Char} (skipped : ∀ c ∈ front, skips c = true)
    (isWord : ∀ c ∈ word, within c = true ∧ skips c = false) (some : word ≠ [])
    (leaves : ∀ c ∈ back.head?, within c = false) :
    ((front ++ (word ++ back)).dropWhile skips).takeWhile within = word := by
  obtain ⟨c, word, rfl⟩ := List.exists_cons_of_ne_nil some
  have start : ¬ skips c = true := by simp [(isWord c List.mem_cons_self).2]
  rw [List.dropWhile_append_of_pos skipped, List.cons_append, List.dropWhile_cons_of_neg start, ← List.cons_append,
    List.takeWhile_append_of_pos fun d mem => (isWord d mem).1]
  cases back with
  | nil => simp
  | cons d back => rw [List.takeWhile_cons_of_neg (by simp [leaves d rfl]), List.append_nil]

/-- Cutting a text at a separator is the cutting of lists. -/
theorem splitOn_eq (sep : Char) (text : List Char) : splitOn sep text = text.splitOn sep := by
  induction text with
  | nil => rfl
  | cons c rest ih =>
    rw [splitOn, ih, List.splitOn, List.splitOn, List.splitOnP_cons_eq_if_modifyHead]
    by_cases here : c = sep
    · simp [here]
    · rw [if_neg here, if_neg (by simpa using here)]
      cases pieces : List.splitOnP (· == sep) rest with
      | nil => exact absurd pieces (List.splitOnP_ne_nil _ _)
      | cons piece pieces => rfl

/-- Joining pieces at a separator is intercalation. -/
theorem joinWith_eq (sep : Char) (pieces : List (List Char)) : joinWith sep pieces = [sep].intercalate pieces := by
  induction pieces with
  | nil => rfl
  | cons piece pieces ih =>
    cases pieces with
    | nil => exact List.intercalate_singleton.symm
    | cons next pieces => rw [joinWith, ih, List.intercalate_cons_cons, List.append_assoc, List.singleton_append]

variable {sep : Char}

theorem joinWith_cons (piece : List Char) {pieces : List (List Char)} (more : pieces ≠ []) :
    joinWith sep (piece :: pieces) = piece ++ sep :: joinWith sep pieces := by
  cases pieces with
  | nil => exact absurd rfl more
  | cons next pieces => rfl

theorem joinWith_append_cons (front piece : List Char) (pieces : List (List Char)) :
    joinWith sep ((front ++ piece) :: pieces) = front ++ joinWith sep (piece :: pieces) := by
  cases pieces with
  | nil => rfl
  | cons next pieces => simp only [joinWith, List.append_assoc]

theorem joinWith_concat_append (piece back : List Char) : ∀ pieces : List (List Char),
    joinWith sep (pieces ++ [piece ++ back]) = joinWith sep (pieces ++ [piece]) ++ back
  | [] => rfl
  | first :: pieces => by
    rw [List.cons_append, List.cons_append, joinWith_cons first (by simp), joinWith_cons first (by simp),
      joinWith_concat_append piece back pieces, List.append_assoc, List.cons_append]

/-- The characters of joined pieces are those of the pieces and the separator. -/
theorem forall_mem_joinWith {holds : Char → Prop} (separator : holds sep) : ∀ {pieces : List (List Char)},
    (∀ piece ∈ pieces, ∀ c ∈ piece, holds c) → ∀ c ∈ joinWith sep pieces, holds c
  | [], _ => nofun
  | [piece], each => each piece List.mem_cons_self
  | piece :: next :: pieces, each => by
    obtain ⟨here, others⟩ := List.forall_mem_cons.mp each
    rw [joinWith, List.forall_mem_append, List.forall_mem_cons]
    exact ⟨here, separator, forall_mem_joinWith separator others⟩

theorem splitOn_append_separator (front back : List Char) :
    splitOn sep (front ++ sep :: back) = splitOn sep front ++ splitOn sep back := by
  simp only [splitOn_eq, List.splitOn_append_cons_self]

theorem splitOn_of_notMem {text : List Char} (free : sep ∉ text) : splitOn sep text = [text] := by
  rw [splitOn_eq, List.splitOn_eq_singleton free]

theorem splitOn_joinWith {pieces : List (List Char)} (free : ∀ piece ∈ pieces, sep ∉ piece) (some : pieces ≠ []) :
    splitOn sep (joinWith sep pieces) = pieces := by
  rw [splitOn_eq, joinWith_eq, List.splitOn_intercalate sep free some]

/-- No piece holds the separator. -/
theorem notMem_of_mem_splitOn {text piece : List Char} (mem : piece ∈ splitOn sep text) : sep ∉ piece := by
  induction text generalizing piece with
  | nil =>
    obtain rfl := List.mem_singleton.mp mem
    exact List.not_mem_nil
  | cons c rest ih =>
    rw [splitOn] at mem
    split at mem
    · rcases List.mem_cons.mp mem with rfl | mem
      · exact List.not_mem_nil
      · exact ih mem
    · rename_i other
      split at mem
      · rename_i none
        exact absurd none (splitOn_ne_nil sep rest)
      · rename_i first pieces cut
        rcases List.mem_cons.mp mem with rfl | mem
        · have free : sep ∉ first := ih (cut ▸ List.mem_cons_self)
          simpa [free] using Ne.symm other
        · exact ih (cut ▸ List.mem_cons_of_mem first mem)

/-- The characters of a piece are those of the text. -/
theorem subset_of_mem_splitOn {text piece : List Char} (mem : piece ∈ splitOn sep text) : piece ⊆ text := by
  induction text generalizing piece with
  | nil =>
    obtain rfl := List.mem_singleton.mp mem
    exact List.Subset.refl _
  | cons c rest ih =>
    rw [splitOn] at mem
    split at mem
    · rcases List.mem_cons.mp mem with rfl | mem
      · exact List.nil_subset _
      · exact List.subset_cons_of_subset c (ih mem)
    · split at mem
      · rename_i none
        exact absurd none (splitOn_ne_nil sep rest)
      · rename_i first pieces cut
        rcases List.mem_cons.mp mem with rfl | mem
        · exact List.cons_subset_cons c (ih (cut ▸ List.mem_cons_self))
        · exact List.subset_cons_of_subset c (ih (cut ▸ List.mem_cons_of_mem first mem))

/-- What is appended without a separator lengthens the last piece. -/
theorem splitOn_append (text : List Char) {suffix : List Char} (free : sep ∉ suffix) :
    ∃ front last, splitOn sep text = front ++ [last] ∧ splitOn sep (text ++ suffix) = front ++ [last ++ suffix] := by
  induction text with
  | nil => exact ⟨[], [], rfl, splitOn_of_notMem free⟩
  | cons c rest ih =>
    obtain ⟨front, last, before, after⟩ := ih
    rw [List.cons_append, splitOn, splitOn, before, after]
    by_cases here : c = sep
    · exact ⟨[] :: front, last, by simp [here], by simp [here]⟩
    · cases front with
      | nil => exact ⟨[], c :: last, by simp [here], by simp [here]⟩
      | cons piece pieces => exact ⟨(c :: piece) :: pieces, last, by simp [here], by simp [here]⟩

/-- Replacing the separator between pieces without it puts the new character between them. -/
theorem replaceChar_intercalate (new : Char) {pieces : List (List Char)} (free : ∀ piece ∈ pieces, sep ∉ piece) :
    replaceChar sep new ([sep].intercalate pieces) = [new].intercalate pieces := by
  have kept : ∀ piece ∈ pieces, replaceChar sep new piece = piece := by
    intro piece mem
    have same : ∀ c ∈ piece, (if c = sep then new else c) = id c := by
      intro c listed
      have other : c ≠ sep := fun here => free piece mem (here ▸ listed)
      exact if_neg other
    rw [replaceChar, List.map_congr_left same, List.map_id]
  induction pieces with
  | nil => rfl
  | cons piece pieces ih =>
    obtain ⟨first, rest⟩ := List.forall_mem_cons.mp kept
    cases pieces with
    | nil => rw [List.intercalate_singleton, List.intercalate_singleton, first]
    | cons next pieces =>
      have separator : replaceChar sep new [sep] = [new] := by simp [replaceChar]
      rw [List.intercalate_cons_cons, List.intercalate_cons_cons, ← ih (List.forall_mem_cons.mp free).2 rest, ← separator]
      simp only [replaceChar, List.map_append] at first ⊢
      rw [first]

end CodeAtlas.Text
