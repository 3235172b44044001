import CodeAtlas.Text.Blank
import CodeAtlas.Text.Digit
import CodeAtlas.Text.Fold
import CodeAtlas.Text.Word

/-!
# Sets of characters in patterns

A set lists ranges and named classes, and may be negated.
-/

namespace CodeAtlas

/-- One entry of a character set. -/
inductive CharItem where
  | range (low high : Char)
  /-- The characters of a range, and all that are the same up to case. -/
  | anyCase (low high : Char)
  /-- The characters whose capital letter lies in a range. -/
  | capitalIn (low high : Char)
  | word
  | notWord
  | blank
  | notBlank
  | digit
  | notDigit
deriving Repr, DecidableEq

/-- The entry holds the character. -/
def CharItem.has : CharItem → Char → Bool
  | .range low high, c => low ≤ c && c ≤ high
  | .anyCase low high, c => (Text.casesOf c).any fun d => low ≤ d && d ≤ high
  | .capitalIn low high, c => low ≤ Text.capital c && Text.capital c ≤ high
  | .word, c => Text.isWord c
  | .notWord, c => !Text.isWord c
  | .blank, c => Text.isBlank c
  | .notBlank, c => !Text.isBlank c
  | .digit, c => Text.isDigit c
  | .notDigit, c => !Text.isDigit c

/-- A set of characters: those of its entries, or all others. -/
structure CharSet where
  negated : Bool
  items : List CharItem
deriving Repr, DecidableEq

namespace CharSet

/-- The set holds the character. -/
def has (s : CharSet) (c : Char) : Bool := s.items.any (·.has c) != s.negated

/-- The set of the given characters. -/
def ofChars (text : String) : CharSet := ⟨false, text.toList.map fun c => .range c c⟩

/-- All characters but the given ones. -/
def notChars (text : String) : CharSet := ⟨true, text.toList.map fun c => .range c c⟩

/-- Word characters. -/
def word : CharSet := ⟨false, [.word]⟩

/-- Blank characters. -/
def blank : CharSet := ⟨false, [.blank]⟩

/-- Every character. -/
def any : CharSet := ⟨true, []⟩

/-- The characters of two sets that are not negated. -/
def withChars (s : CharSet) (text : String) : CharSet := { s with items := s.items ++ (ofChars text).items }

end CharSet

end CodeAtlas
