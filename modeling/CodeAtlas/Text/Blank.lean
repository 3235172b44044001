import CodeAtlas.Text.Ranges

/-!
# Blank characters

The characters that separate words: the ASCII controls from tab to carriage return, the information separators, the
space, and the spaces and separators of Unicode. A byte order mark and a zero-width space are not blank.
-/

namespace CodeAtlas.Text

/-- The ranges of blank characters. -/
def blankTable : List (Nat × Nat) := [
  (0x9, 0xD), (0x1C, 0x20), (0x85, 0x85), (0xA0, 0xA0), (0x1680, 0x1680), (0x2000, 0x200A), (0x2028, 0x2029),
  (0x202F, 0x202F), (0x205F, 0x205F), (0x3000, 0x3000)]

/-- The character is blank. -/
def isBlank (c : Char) : Bool := inRanges blankTable c

/-- The text without its leading blanks. -/
def trimStart (text : List Char) : List Char := text.dropWhile isBlank

/-- The text without its trailing blanks. -/
def trimEnd (text : List Char) : List Char := (text.reverse.dropWhile isBlank).reverse

/-- The text without the blanks at its two ends. -/
def trim (text : List Char) : List Char := trimEnd (trimStart text)

/-- The text has a character that is not blank. -/
def hasInk (text : List Char) : Bool := text.any fun c => !isBlank c

/-- The first word of a text: what stands after the leading blanks, up to the next blank. -/
def firstWord (text : List Char) : List Char := (trimStart text).takeWhile fun c => !isBlank c

end CodeAtlas.Text
