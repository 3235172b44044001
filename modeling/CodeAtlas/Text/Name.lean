import CodeAtlas.Text.Digit
import CodeAtlas.Text.Name.Aliases
import CodeAtlas.Text.Name.Alphabets
import CodeAtlas.Text.Name.Asian
import CodeAtlas.Text.Name.Historic
import CodeAtlas.Text.Name.Pictures
import CodeAtlas.Text.Name.Symbols
import CodeAtlas.Text.Split

/-!
# Names of characters

Every character of a script has a name in capital letters. Most names are listed in tables; the names of ideographs hold the
number of the character, and those of Hangul syllables are spelled from their letters. `Name.lookup?` finds the number of the
character with a name.
-/

namespace CodeAtlas.Text.Name

/-! ## Tables -/

/-- The parts of a name, each up to a blank or a hyphen. -/
def parts : List Char → List (List Char)
  | [] => []
  | c :: rest =>
    if c = ' ' || c = '-' then [c] :: parts rest
    else match parts rest with
      | [] => [[c]]
      | p :: ps => (c :: p) :: ps

/-- Adds one to what a name ends in; the characters stand last first. -/
def increased : List Char → List Char
  | '9' :: rest => '0' :: increased rest
  | c :: rest => Char.ofNat (c.toNat + 1) :: rest
  | [] => []

/-- The name after a name that ends in a number or a letter. -/
def next (name : List Char) : List Char := (increased name.reverse).reverse

/-- The `n` names after a name. -/
def following : Nat → List Char → List (List Char)
  | 0, _ => []
  | n + 1, name => next name :: following n (next name)

/-- A name written in terms of the one before: `kept` parts of that, then a text. A tilde at the end of the text stands for
the parts of the name before that are not replaced. -/
def continued (before : List Char) (kept : Nat) (text : List Char) : List Char :=
  let old := parts before
  if text.getLast? = some '~' then
    let new := parts text.dropLast
    (old.take kept ++ new ++ old.drop (kept + new.length)).flatten
  else (old.take kept).flatten ++ text

/-- The characters and names of the entries of a table, from the character with a number on. An entry is a name, after a
digit if it starts like the name before; `+` and a number of names that each add one to the name before; or `@` and the
number of the next character. -/
def decode (code : Nat) (before : List Char) : List (List Char) → List (Nat × List Char)
  | [] => []
  | entry :: rest =>
    match entry with
    | [] => decode code before rest
    | '@' :: digits => decode (ofDigits 16 digits) before rest
    | '+' :: digits =>
      let names := following (ofDigits 10 digits) before
      (names.zipIdx.map fun e => (code + e.2, e.1)) ++ decode (code + names.length) (names.getLastD before) rest
    | c :: text =>
      let name := if c.isDigit then continued before (ofDigits 10 [c]) text else continued before 0 entry
      (code, name) :: decode (code + 1) name rest

/-- The entries of a table. -/
def entries (table : String) : List (List Char) := (splitOn '\n' table.toList).flatMap (splitOn ',')

/-- All tables. -/
def tables : List String := [alphabets, symbols, aliases, pictures, asian, historic]

/-- The number of the character with a name in a table. -/
def find? (name : List Char) (table : String) : Option Nat :=
  ((decode 0 [] (entries table)).find? (·.2 = name)).map (·.1)

/-! ## Numbered names -/

/-- What follows a text at the start of another. -/
def after? (start : String) (name : List Char) : Option (List Char) :=
  if start.toList.isPrefixOf name then some (name.drop start.length) else none

/-- One of the ranges holds the number. -/
def isIn (ranges : List (Nat × Nat)) (code : Nat) : Bool := ranges.any fun r => r.1 ≤ code && code ≤ r.2

/-- The number that hexadecimal digits in capitals stand for. -/
def hexNumber? (digits : List Char) : Option Nat :=
  if digits.all fun c => (hexDigit? c).isSome && !c.isLower then some (ofDigits 16 digits) else none

/-- Names that hold the number of the character, and the numbers there are. -/
def families : List (String × List (Nat × Nat)) := [
  ("CJK COMPATIBILITY IDEOGRAPH-", [(0xF900, 0xFA6D), (0xFA70, 0xFAD9), (0x2F800, 0x2FA1D)]),
  ("KHITAN SMALL SCRIPT CHARACTER-", [(0x18B00, 0x18CD5)]),
  ("NUSHU CHARACTER-", [(0x1B170, 0x1B2FB)])]

/-- The number in a name of a family. -/
def familyNumber? (name : List Char) (family : String × List (Nat × Nat)) : Option Nat := do
  let digits ← after? family.1 name
  let code ← hexNumber? digits
  if isIn family.2 code && digits.head? ≠ some '0' then some code else none

/-- The numbers of the unified ideographs. -/
def ideographs : List (Nat × Nat) := [
  (0x3400, 0x4DBF), (0x4E00, 0x9FFF), (0x20000, 0x2A6DF), (0x2A700, 0x2B738), (0x2B740, 0x2B81D), (0x2B820, 0x2CEA1),
  (0x2CEB0, 0x2EBE0), (0x30000, 0x3134A)]

/-- The number of an ideograph, written with four or five digits. -/
def ideograph? (digits : List Char) : Option Nat := do
  let code ← hexNumber? digits
  if (digits.length = 4 || digits.length = 5) && isIn ideographs code then some code else none

/-! ## Spelled names -/

/-- The consonants that start a Hangul syllable. -/
def initials : List String := ["G", "GG", "N", "D", "DD", "R", "M", "B", "BB", "S", "SS", "", "J", "JJ", "C", "K", "T", "P", "H"]

/-- The vowels of a Hangul syllable. -/
def vowels : List String := [
  "A", "AE", "YA", "YAE", "EO", "E", "YEO", "YE", "O", "WA", "WAE", "OE", "YO", "U", "WEO", "WE", "WI", "YU", "EU", "YI", "I"]

/-- The consonants that end a Hangul syllable. -/
def finals : List String := [
  "", "G", "GG", "GS", "N", "NJ", "NH", "D", "L", "LG", "LM", "LB", "LS", "LT", "LP", "LH", "M", "B", "BS", "S", "SS", "NG", "J",
  "C", "K", "T", "P", "H"]

/-- The longest of some spellings at the start of a text: its place among them, and the rest of the text. -/
def longest? (spellings : List String) (text : List Char) : Option (Nat × List Char) :=
  let fitting := spellings.zipIdx.filterMap fun e => (after? e.1 text).map fun rest => (e.2, rest)
  fitting.foldl (fun best e => if best.all fun b => e.2.length < b.2.length then some e else best) none

/-- The number of the Hangul syllable with a spelling. -/
def syllable? (spelling : List Char) : Option Nat := do
  let (i, rest) ← longest? initials spelling
  let (v, rest) ← longest? vowels rest
  let (f, rest) ← longest? finals rest
  if rest.isEmpty then some (0xAC00 + (i * vowels.length + v) * finals.length + f) else none

/-! ## All names -/

/-- The number of the character with a name. Small letters may be written for capital ones, except in the names of unified
ideographs and of Hangul syllables. -/
def lookup? (name : List Char) : Option Nat :=
  match after? "HANGUL SYLLABLE " name, after? "CJK UNIFIED IDEOGRAPH-" name with
  | some spelling, _ => syllable? spelling
  | none, some digits => ideograph? digits
  | none, none =>
    let name := name.map Char.toUpper
    (families.findSome? (familyNumber? name)).or (tables.findSome? (find? name))

end CodeAtlas.Text.Name
