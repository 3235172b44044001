/-!
# Sets in brackets

Where the set of a wildcard ends: at the first closing bracket, except that a bracket right at the start, or right after
an exclamation mark there, belongs to the set.
-/

namespace CodeAtlas.Bracket

/-- How many characters at the start of a set cannot close it. -/
def leadLength : List Char → Nat
  | '!' :: ']' :: _ => 2
  | '!' :: _ => 1
  | ']' :: _ => 1
  | _ => 0

/-- Splits what follows an opening bracket into the set and what follows its closing bracket. -/
def split? (text : List Char) : Option (List Char × List Char) :=
  let rest := text.drop (leadLength text)
  if rest.contains ']' then
    some (text.take (leadLength text) ++ rest.takeWhile (· ≠ ']'), (rest.dropWhile (· ≠ ']')).drop 1)
  else none

/-- What follows a set is not longer than the whole. -/
theorem length_split? {text content after : List Char} (h : split? text = some (content, after)) :
    after.length ≤ text.length := by
  unfold split? at h
  dsimp only at h
  split at h
  · obtain ⟨-, rfl⟩ := Prod.mk.inj (Option.some.inj h)
    have suffix := (List.dropWhile_suffix (l := text.drop (leadLength text)) fun c => decide (c ≠ ']')).length_le
    simp only [List.length_drop] at suffix ⊢
    omega
  · simp at h

end CodeAtlas.Bracket
