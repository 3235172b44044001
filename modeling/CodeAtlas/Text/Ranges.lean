/-!
# Sets of characters given by ranges

A property of characters is written down as a list of closed ranges of code points. `inRanges` reads such a list; the
tables themselves live in the modules named for their property.
-/

namespace CodeAtlas.Text

/-- The character lies in one of the closed ranges of code points. -/
def inRanges (table : List (Nat × Nat)) (c : Char) : Bool :=
  table.any fun r => r.1 ≤ c.toNat && c.toNat ≤ r.2

theorem inRanges_iff {table : List (Nat × Nat)} {c : Char} :
    inRanges table c = true ↔ ∃ r ∈ table, r.1 ≤ c.toNat ∧ c.toNat ≤ r.2 := by
  simp [inRanges]

end CodeAtlas.Text
