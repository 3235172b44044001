import CodeAtlas.Document
import CodeAtlas.Number.Literal

/-!
# Reading documents

The usual written form of documents: `null`, `true` and `false`, numbers, texts in double quotes, lists in brackets, and
objects in braces. A number with a fraction or an exponent is a binary number, and so are the named ones: `NaN`, `Infinity`
and `-Infinity`. An object that repeats a field keeps the last value in the first place. Half of a surrogate pair is read
as a replacement character. Reading stops at the first thing that is malformed or beyond the limits of the reader.
-/

namespace CodeAtlas.Document

/-- What a reader puts up with. -/
structure Limits where
  /-- How deep lists and objects may be nested. -/
  depth : Nat
  /-- How many digits a whole number may have. -/
  digits : Nat
deriving Repr, DecidableEq

/-- The limits for files. -/
def Limits.standard : Limits := ⟨985, Literal.digitLimit⟩

/-- Why a text is no document. -/
inductive ReadError where
  | malformed
  | tooDeep
  /-- A whole number with too many digits. -/
  | tooLong (digits : Nat)
deriving Repr, DecidableEq

/-- What the error says. -/
def ReadError.message : ReadError → String
  | malformed => "not a document"
  | tooDeep => "maximum recursion depth exceeded"
  | tooLong digits => Literal.tooLongMessage digits

namespace Reader

/-- The character separates the parts of a document. -/
def isSpace (c : Char) : Bool := c = ' ' || c = '\t' || c = '\n' || c = '\r'

/-- The text without its leading space. -/
def skip (text : List Char) : List Char := text.dropWhile isSpace

/-- The value of a hexadecimal digit. -/
def hexDigit? (c : Char) : Option Nat :=
  if '0' ≤ c ∧ c ≤ '9' then some (c.toNat - 48)
  else if 'a' ≤ c ∧ c ≤ 'f' then some (c.toNat - 87)
  else if 'A' ≤ c ∧ c ≤ 'F' then some (c.toNat - 55)
  else none

/-- Reads four hexadecimal digits. -/
def hex4? : List Char → Option (Nat × List Char)
  | a :: b :: c :: d :: rest => do
    return (((← hexDigit? a) * 16 + (← hexDigit? b)) * 256 + (← hexDigit? c) * 16 + (← hexDigit? d), rest)
  | _ => none

/-- The first half of a surrogate pair. -/
def isHigh (unit : Nat) : Bool := 0xD800 ≤ unit && unit < 0xDC00

/-- The second half of a surrogate pair. -/
def isLow (unit : Nat) : Bool := 0xDC00 ≤ unit && unit < 0xE000

/-- The character of a unit that is no half of a pair. -/
def charOf (unit : Nat) : Char := if isHigh unit || isLow unit then Char.ofNat 0xFFFD else Char.ofNat unit

/-- The character that follows an escape with a hexadecimal unit; two halves make one character. -/
def unitChar (unit : Nat) (rest : List Char) : Char × List Char :=
  match isHigh unit, rest with
  | true, '\\' :: 'u' :: more =>
    match hex4? more with
    | some (low, after) =>
      if isLow low then (Char.ofNat (0x10000 + (unit - 0xD800) * 0x400 + (low - 0xDC00)), after) else (charOf unit, rest)
    | none => (charOf unit, rest)
  | _, _ => (charOf unit, rest)

/-- The character that a letter stands for after a backslash. -/
def escaped? (c : Char) : Option Char :=
  [('"', '"'), ('\\', '\\'), ('/', '/'), ('b', Char.ofNat 8), ('f', Char.ofNat 12), ('n', '\n'), ('r', '\r'),
    ('t', '\t')].lookup c

/-- Reads a text after its opening quote; `read` is what was read of it so far, the last character first. The first
argument bounds the length of the text. -/
def quoted : Nat → (read : List Char) → List Char → Option (String × List Char)
  | 0, _, _ => none
  | _ + 1, _, [] => none
  | _ + 1, read, '"' :: rest => some (String.ofList read.reverse, rest)
  | n + 1, read, '\\' :: 'u' :: rest =>
    match hex4? rest with
    | some (unit, after) =>
      let (c, after) := unitChar unit after
      quoted n (c :: read) after
    | none => none
  | n + 1, read, '\\' :: c :: rest =>
    match escaped? c with
    | some d => quoted n (d :: read) rest
    | none => none
  | n + 1, read, c :: rest => if c.toNat < 32 || c = '\\' then none else quoted n (c :: read) rest

/-- The digits at the start of a text. -/
def digits (text : List Char) : List Nat × List Char :=
  ((text.takeWhile Char.isDigit).map fun c => c.toNat - 48, text.dropWhile Char.isDigit)

/-- The whole part of a number: digits without a superfluous zero in front. -/
def whole? (text : List Char) : Option (List Nat × List Char) :=
  match text with
  | '0' :: rest => some ([0], rest)
  | _ => if (digits text).1.isEmpty then none else some (digits text)

/-- The fraction of a number, if there is one. -/
def fraction (text : List Char) : List Nat × List Char :=
  match text with
  | '.' :: rest => if (digits rest).1.isEmpty then ([], text) else digits rest
  | _ => ([], text)

/-- The exponent of a number, if there is one. -/
def exponent (text : List Char) : Option Int × List Char :=
  match text with
  | [] => (none, [])
  | mark :: rest =>
    let (negative, body) := Literal.unsigned rest
    let (ds, after) := digits body
    if !Literal.isMark mark || ds.isEmpty then (none, text)
    else (some (if negative then -(Literal.ofDigits ds : Int) else Literal.ofDigits ds), after)

/-- Reads a number without sign. -/
def magnitude (limits : Limits) (negative : Bool) (text : List Char) : Except ReadError (Document × List Char) :=
  match whole? text with
  | none => .error .malformed
  | some (ds, rest) =>
    let (fs, rest) := fraction rest
    let (e, rest) := exponent rest
    if !fs.isEmpty || e.isSome then .ok (.float (Literal.assemble negative ds fs (e.getD 0)), rest)
    else if limits.digits < ds.length then .error (.tooLong ds.length)
    else .ok (.int (if negative then -(Literal.ofDigits ds : Int) else Literal.ofDigits ds), rest)

/-- Reads a number. -/
def number (limits : Limits) : List Char → Except ReadError (Document × List Char)
  | '-' :: rest => magnitude limits true rest
  | cs => magnitude limits false cs

/-- The words that stand for values. -/
def words : List (String × Document) := [
  ("null", .null), ("true", .bool true), ("false", .bool false), ("NaN", .float .undefined),
  ("Infinity", .float (.infinite false)), ("-Infinity", .float (.infinite true))]

/-- Reads a word that stands for a value. -/
def word? (text : List Char) : Option (Document × List Char) :=
  (words.find? fun w => w.1.toList.isPrefixOf text).map fun w => (w.2, text.drop w.1.length)

mutual

/-- Reads a value at the start of a text, with so many lists and objects around it. The first number bounds the length of
what is read. -/
def value (limits : Limits) : Nat → (depth : Nat) → List Char → Except ReadError (Document × List Char)
  | 0, _, _ => .error .malformed
  | n + 1, _, '"' :: rest =>
    match quoted n [] rest with
    | some (s, after) => .ok (.text s, after)
    | none => .error .malformed
  | n + 1, depth, '[' :: rest =>
    if limits.depth ≤ depth then .error .tooDeep
    else match skip rest with
      | ']' :: after => .ok (.list [], after)
      | rest => do
        let (ds, after) ← items limits n (depth + 1) rest
        return (.list ds, after)
  | n + 1, depth, '\x7b' :: rest =>
    if limits.depth ≤ depth then .error .tooDeep
    else match skip rest with
      | '\x7d' :: after => .ok (.object [], after)
      | rest => do
        let (fs, after) ← fields limits n (depth + 1) rest
        return (.object (Table.ofList fs).entries, after)
  | _ + 1, _, cs => (word? cs).elim (number limits cs) .ok

/-- Reads the items of a list, up to its closing bracket. -/
def items (limits : Limits) : Nat → (depth : Nat) → List Char → Except ReadError (List Document × List Char)
  | 0, _, _ => .error .malformed
  | n + 1, depth, cs => do
    let (d, rest) ← value limits n depth cs
    match skip rest with
    | ']' :: after => return ([d], after)
    | ',' :: after =>
      let (ds, after) ← items limits n depth (skip after)
      return (d :: ds, after)
    | _ => throw .malformed

/-- Reads the fields of an object, up to its closing brace. -/
def fields (limits : Limits) : Nat → (depth : Nat) → List Char →
    Except ReadError (List (String × Document) × List Char)
  | 0, _, _ => .error .malformed
  | n + 1, depth, '"' :: rest =>
    match quoted n [] rest with
    | none => .error .malformed
    | some (key, rest) =>
      match skip rest with
      | ':' :: rest => do
        let (d, rest) ← value limits n depth (skip rest)
        match skip rest with
        | '\x7d' :: after => return ([(key, d)], after)
        | ',' :: after =>
          let (fs, after) ← fields limits n depth (skip after)
          return ((key, d) :: fs, after)
        | _ => throw .malformed
      | _ => .error .malformed
  | _ + 1, _, _ => .error .malformed

end

end Reader

/-- Reads a document; nothing but space may stand around it. -/
def read (limits : Limits) (text : List Char) : Except ReadError Document := do
  let (d, rest) ← Reader.value limits (text.length + 1) 0 (Reader.skip text)
  if (Reader.skip rest).isEmpty then return d else throw .malformed

end CodeAtlas.Document
