/-!
# Cutting and joining texts

Texts are lists of characters here. `splitOn` cuts a text at a separator and `joinWith` undoes it
(`joinWith_splitOn`).
-/

namespace CodeAtlas.Text

/-- The pieces between the separators; a text without separator is one piece. -/
def splitOn (sep : Char) : List Char → List (List Char)
  | [] => [[]]
  | c :: rest =>
    if c = sep then [] :: splitOn sep rest
    else match splitOn sep rest with
      | [] => [[c]]
      | piece :: pieces => (c :: piece) :: pieces

/-- The pieces with a separator between neighbours. -/
def joinWith (sep : Char) : List (List Char) → List Char
  | [] => []
  | [piece] => piece
  | piece :: next :: pieces => piece ++ sep :: joinWith sep (next :: pieces)

theorem splitOn_ne_nil (sep : Char) (text : List Char) : splitOn sep text ≠ [] := by
  cases text with
  | nil => simp [splitOn]
  | cons c rest =>
    simp only [splitOn]
    split
    · simp
    · split <;> simp

/-- Joining the pieces gives the text back. -/
theorem joinWith_splitOn (sep : Char) (text : List Char) : joinWith sep (splitOn sep text) = text := by
  induction text with
  | nil => rfl
  | cons c rest ih =>
    simp only [splitOn]
    split
    · rename_i h
      cases hs : splitOn sep rest with
      | nil => exact absurd hs (splitOn_ne_nil sep rest)
      | cons p ps => rw [hs] at ih; simp [joinWith, ih, h]
    · cases hs : splitOn sep rest with
      | nil => exact absurd hs (splitOn_ne_nil sep rest)
      | cons p ps =>
        rw [hs] at ih
        cases ps with
        | nil => simpa [joinWith] using ih
        | cons q qs => simpa [joinWith] using ih

/-- The needle stands somewhere in the text. -/
def occursIn (needle : List Char) : List Char → Bool
  | [] => needle.isEmpty
  | c :: rest => needle.isPrefixOf (c :: rest) || occursIn needle rest

/-- Every occurrence of one character replaced by another. -/
def replaceChar (old new : Char) (text : List Char) : List Char := text.map fun c => if c = old then new else c

/-- The text without the given characters at its two ends. -/
def trimChars (chars text : List Char) : List Char :=
  ((text.dropWhile (chars.contains ·)).reverse.dropWhile (chars.contains ·)).reverse

/-- Two strings compared by code points, as an order for sorting. -/
def precedes (a b : String) : Bool := decide (a ≤ b)

end CodeAtlas.Text
