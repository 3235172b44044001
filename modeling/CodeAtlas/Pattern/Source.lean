import CodeAtlas.Pattern.Fault
import CodeAtlas.Pattern.Mode
import CodeAtlas.Text.Name

/-!
# Characters in patterns

The written forms of single characters and of sets of characters: escapes after a backslash, and sets in brackets.
-/

namespace CodeAtlas.Pattern

namespace Reader

/-- What is left of a pattern, and how much was read before it. -/
structure Source where
  position : Nat
  rest : List Char
deriving Repr, DecidableEq

/-- Leaves out some characters. -/
def Source.skip (s : Source) (n : Nat) : Source := ⟨s.position + n, s.rest.drop n⟩

/-- Gives up. -/
def fail {α : Type} (fault : PatternFault) (position : Nat) : Except PatternError α := .error ⟨fault, position⟩

/-! ## Escapes -/

/-- The number of the control character that a letter stands for after a backslash. -/
def control? (c : Char) : Option Nat := [('n', 10), ('t', 9), ('r', 13), ('f', 12), ('v', 11), ('a', 7)].lookup c

/-- The class that a letter names after a backslash. -/
def class? (c : Char) : Option CharItem :=
  [('w', CharItem.word), ('W', .notWord), ('s', .blank), ('S', .notBlank), ('d', .digit), ('D', .notDigit)].lookup c

/-- The number of hexadecimal digits after a letter that announces them. -/
def hexLength? (c : Char) : Option Nat := [('x', 2), ('u', 4), ('U', 8)].lookup c

/-- The digit may stand in a number to the base eight. -/
def isOctal (c : Char) : Bool := '0' ≤ c && c ≤ '7'

/-- The number of the character of an escape with hexadecimal digits; `s` stands after the letter `c`, which announces `n`
digits. -/
def hexEscape (c : Char) (n : Nat) (s : Source) : Except PatternError (Nat × Source) :=
  let digits := (s.rest.take n).takeWhile fun d => (Text.hexDigit? d).isSome
  let escape := String.ofList ('\\' :: c :: digits)
  let code := Text.ofDigits 16 digits
  if digits.length < n then fail (.incompleteEscape escape) (s.position - 2)
  else if 0x10FFFF < code then fail (.badEscape escape) (s.position - 2)
  else .ok (code, s.skip n)

/-- The number that octal digits stand for; `s` stands after the first of them. -/
def octalEscape (digits : List Char) (s : Source) : Except PatternError (Nat × Source) :=
  let code := Text.ofDigits 8 digits
  if 0o377 < code then fail (.bigOctal (String.ofList ('\\' :: digits))) (s.position - 2)
  else .ok (code, s.skip (digits.length - 1))

/-- Reads a name and the character that ends it. -/
def nameUpTo (stop : Char) (s : Source) : Except PatternError (List Char × Source) :=
  let name := s.rest.takeWhile (· ≠ stop)
  let t := s.skip name.length
  if name.isEmpty then fail .missingName s.position
  else if t.rest.isEmpty then fail (.unterminatedName stop) s.position
  else .ok (name, t.skip 1)

/-- The number of the character whose name stands in braces; `s` stands at the opening brace. -/
def namedEscape (s : Source) : Except PatternError (Nat × Source) := do
  if s.rest.head? ≠ some '\x7b' then fail .missingBrace s.position
  let (name, t) ← nameUpTo '\x7d' (s.skip 1)
  match Text.Name.lookup? name with
  | some code => return (code, t)
  | none => fail (.unknownCharacter name) (s.position - 2)

/-- The number of the character that an escape stands for; `s` stands after the character `c` behind the backslash. Letters
and digits without a meaning of their own are refused. -/
def escapedChar (c : Char) (s : Source) : Except PatternError (Nat × Source) :=
  match control? c, hexLength? c with
  | some code, _ => .ok (code, s)
  | none, some n => hexEscape c n s
  | none, none =>
    if c = 'N' then namedEscape s
    else if isOctal c then octalEscape (c :: (s.rest.take 2).takeWhile isOctal) s
    else if c.isAlphanum then fail (.badEscape (String.ofList ['\\', c])) (s.position - 2)
    else .ok (c.toNat, s)

/-- The last character is a backslash that escapes nothing. -/
def endsInEscape : List Char → Bool
  | [] => false
  | ['\\'] => true
  | '\\' :: _ :: rest => endsInEscape rest
  | _ :: rest => endsInEscape rest

/-! ## Sets -/

/-- An entry of a set: an item, which may be an end of a range if it is a character, and how it is written. -/
structure SetEntry where
  item : SetItem
  written : String
deriving Repr

/-- Reads one entry of the set that starts at `start`. -/
def setEntry (start : Nat) (s : Source) : Except PatternError (SetEntry × Source) :=
  match s.rest with
  | [] => fail .unterminatedSet start
  | ['\\'] => fail (.badEscape "(end of pattern)") s.position
  | '\\' :: c :: _ =>
    let written := String.ofList ['\\', c]
    match class? c with
    | some item => .ok (⟨.named item, written⟩, s.skip 2)
    | none =>
      if c = 'b' then .ok (⟨.char 8, written⟩, s.skip 2)
      else (escapedChar c (s.skip 2)).map fun r => (⟨.char r.1, written⟩, r.2)
  | c :: _ => .ok (⟨.char c.toNat, String.singleton c⟩, s.skip 1)

/-- The range between two entries, if it is one. -/
def SetEntry.upTo? (low high : SetEntry) : Option SetItem :=
  match low.item, high.item with
  | .char a, .char b => if b < a then none else some (.range a b)
  | _, _ => none

/-- Reads the entries of the set that starts at `start`, up to its closing bracket; a bracket in first place is an entry.
The first argument bounds the length of the set. -/
def setItems (start : Nat) : (fuel : Nat) → (first : Bool) → Source → Except PatternError (List SetItem × Source)
  | 0, _, s => fail .unterminatedSet s.position
  | fuel + 1, first, s =>
    if s.rest.head? = some ']' && !first then .ok ([], s.skip 1)
    else do
      let (low, t) ← setEntry start s
      match t.rest with
      | '-' :: ']' :: _ => return ([low.item, .char '-'.toNat], t.skip 2)
      | '-' :: _ =>
        let (high, u) ← setEntry start (t.skip 1)
        match low.upTo? high with
        | none => fail (.badRange low.written high.written) s.position
        | some range =>
          let (items, u) ← setItems start fuel false u
          return (range :: items, u)
      | _ =>
        let (items, t) ← setItems start fuel false t
        return (low.item :: items, t)

/-- Reads a set after its opening bracket. -/
def writtenSet (s : Source) : Except PatternError (WrittenSet × Source) :=
  let negated := s.rest.head? = some '^'
  let body := if negated then s.skip 1 else s
  (setItems (s.position - 1) (body.rest.length + 1) true body).map fun r => (⟨negated, r.1.eraseDups⟩, r.2)

end Reader

end CodeAtlas.Pattern
