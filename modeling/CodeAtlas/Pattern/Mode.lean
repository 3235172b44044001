import CodeAtlas.Pattern.Regex

/-!
# Modes of patterns

What the parts of a pattern stand for depends on its mode: whether letters stand for all that are the same up to case, which
alphabet words are made of, and what dots and the marks of ends match. `Mode.set` says which characters a set stands for that
is written down in a pattern.
-/

namespace CodeAtlas.Pattern

/-- An entry of a set as it is written. Characters are given by their numbers, since some numbers can be written that no
character has. -/
inductive SetItem where
  | char (code : Nat)
  | range (low high : Nat)
  | named (item : CharItem)
deriving Repr, DecidableEq

/-- A set as it is written. -/
structure WrittenSet where
  negated : Bool
  items : List SetItem
deriving Repr, DecidableEq

/-- How a pattern is meant. -/
structure Mode where
  /-- A letter stands for every letter that is the same up to case. -/
  anyCase : Bool := false
  /-- A caret and a dollar sign match at the two ends of every line, not only of the text. -/
  lines : Bool := false
  /-- A dot matches newlines too. -/
  dotAll : Bool := false
  /-- Blanks and comments between the parts of the pattern mean nothing. -/
  spaced : Bool := false
  /-- Only ASCII has letters, digits and blanks. -/
  ascii : Bool := false
  /-- Every alphabet is asked for by name. -/
  wide : Bool := false
  /-- Nothing may be repeated. -/
  single : Bool := false
deriving Repr, DecidableEq

/-! ## Characters -/

/-- The characters with numbers from `low` to `high`, as a range of characters; the numbers from D800 to DFFF are left out
at its ends. -/
def rangeOf? (low high : Nat) : Option (Char × Char) :=
  let low := if 0xD800 ≤ low ∧ low ≤ 0xDFFF then 0xE000 else low
  let high := if 0xD800 ≤ high ∧ high ≤ 0xDFFF then 0xD7FF else high
  if low ≤ high then some (Char.ofNat low, Char.ofNat high) else none

/-- The characters with numbers from `low` to `high`. -/
def between (low high : Nat) : List CharItem := (rangeOf? low high).toList.map fun r => .range r.1 r.2

/-- The numbers that two ranges share, moved by a distance. -/
def sharedMoved (low high first last : Nat) (distance : Int) : List CharItem :=
  let start := Nat.max low first
  let stop := Nat.min high last
  if start ≤ stop then between (start + distance).toNat (stop + distance).toNat else []

/-- The characters with numbers from `low` to `high`, and the letters of ASCII that are the same as one of them up to
case. -/
def betweenAscii (low high : Nat) : List CharItem :=
  between low high ++ sharedMoved low high 0x41 0x5A 32 ++ sharedMoved low high 0x61 0x7A (-32)

/-- The characters with numbers from `low` to `high`, and all that are the same as one of them up to case. -/
def betweenAnyCase (low high : Nat) : List CharItem := (rangeOf? low high).toList.map fun r => .anyCase r.1 r.2

/-- The characters whose capital letter has a number from `low` to `high`. -/
def betweenCapitals (low high : Nat) : List CharItem := (rangeOf? low high).toList.map fun r => .capitalIn r.1 r.2

/-! ## Classes of ASCII -/

/-- The numbers outside of ranges that stand in order, from `start` on. -/
def outside (start : Nat) : List (Nat × Nat) → List (Nat × Nat)
  | [] => [(start, 0x10FFFF)]
  | (low, high) :: rest => if start < low then (start, low - 1) :: outside (high + 1) rest else outside (high + 1) rest

/-- The digits, letters and underscore of ASCII. -/
def asciiWord : List (Nat × Nat) := [(0x30, 0x39), (0x41, 0x5A), (0x5F, 0x5F), (0x61, 0x7A)]

/-- The blanks of ASCII. -/
def asciiBlank : List (Nat × Nat) := [(0x09, 0x0D), (0x20, 0x20)]

/-- The digits of ASCII. -/
def asciiDigit : List (Nat × Nat) := [(0x30, 0x39)]

/-- The numbers of a class of characters if only ASCII has letters, digits and blanks. -/
def asciiClass : CharItem → List (Nat × Nat)
  | .word => asciiWord
  | .notWord => outside 0 asciiWord
  | .blank => asciiBlank
  | .notBlank => outside 0 asciiBlank
  | .digit => asciiDigit
  | .notDigit => outside 0 asciiDigit
  | _ => []

namespace Mode

/-- The pattern is about the text as a whole. -/
def wholeText : Mode := {}

/-- The pattern is about every line. -/
def everyLine : Mode := { lines := true }

/-- Which letters count as the same. -/
def caseRule (m : Mode) : Text.CaseRule := if !m.anyCase then .exact else if m.ascii then .ascii else .every

/-- The characters that a class stands for. -/
def charClass (m : Mode) (item : CharItem) : List CharItem :=
  if m.ascii then (asciiClass item).flatMap fun r => between r.1 r.2 else [item]

/-- The characters that one character in a set stands for. If it is not alone there, a capital letter beyond the first plane
stands for none and a small one for both. -/
def char (m : Mode) (alone : Bool) (code : Nat) : List CharItem :=
  match m.caseRule with
  | .exact => between code code
  | .ascii => betweenAscii code code
  | .every =>
    if !alone && 0xFFFF < code && Text.small (Char.ofNat code) ≠ Char.ofNat code then [] else betweenAnyCase code code

/-- The characters that a range stands for. One that goes beyond the first plane holds those whose capital letter it
holds. -/
def range (m : Mode) (low high : Nat) : List CharItem :=
  match m.caseRule with
  | .exact => between low high
  | .ascii => betweenAscii low high ++ if 0xFFFF < high then betweenCapitals low high else []
  | .every => betweenAnyCase low high ++ if 0xFFFF < high then betweenCapitals low high else []

/-- The characters that an entry of a set stands for. -/
def item (m : Mode) (alone : Bool) : SetItem → List CharItem
  | .char code => m.char alone code
  | .range low high => m.range low high
  | .named item => m.charClass item

/-- The characters that a set stands for. -/
def set (m : Mode) (s : WrittenSet) : CharSet := ⟨s.negated, s.items.flatMap (m.item (s.items.length = 1))⟩

/-- The characters of words. -/
def words (m : Mode) : CharSet := ⟨false, m.charClass .word⟩

/-! ## Places and dots -/

/-- What a caret stands for. -/
def caret (m : Mode) : Place := if m.lines then .lineStart else .textStart

/-- What a dollar sign stands for. -/
def dollar (m : Mode) : Place := if m.lines then .lineEnd else .lastLineEnd

/-- What a dot stands for. -/
def dot (m : Mode) : CharSet := if m.dotAll then .any else .notChars "\n"

/-! ## Changes -/

/-- Turns the mode of a letter on. -/
def turnOn? (m : Mode) (letter : Char) : Option Mode :=
  match letter with
  | 'i' => some { m with anyCase := true }
  | 'm' => some { m with lines := true }
  | 's' => some { m with dotAll := true }
  | 'x' => some { m with spaced := true }
  | 'a' => some { m with ascii := true }
  | 'u' => some { m with wide := true }
  | 't' => some { m with single := true }
  | _ => none

/-- Turns the mode of a letter off, if it is one that can be turned off. -/
def turnOff? (m : Mode) (letter : Char) : Option Mode :=
  match letter with
  | 'i' => some { m with anyCase := false }
  | 'm' => some { m with lines := false }
  | 's' => some { m with dotAll := false }
  | 'x' => some { m with spaced := false }
  | _ => none

/-- The modes of the whole pattern, with those of some letters turned on. The two alphabets cannot be asked for at once. -/
def changed? (m : Mode) (on : List Char) : Option Mode :=
  if on.contains 'a' && on.contains 'u' then none else on.foldlM turnOn? m

/-- The modes inside a group, with those of some letters turned on and of others turned off. -/
def inside? (m : Mode) (on off : List Char) : Option Mode :=
  if on.contains 't' || on.any off.contains then none
  else do
    let m ← m.changed? on
    let m := if on.contains 'u' then { m with ascii := false } else m
    off.foldlM turnOff? m

end Mode

end CodeAtlas.Pattern
