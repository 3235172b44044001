import CodeAtlas.Number.Binary64
import CodeAtlas.Text.Blank
import CodeAtlas.Text.Digit
import CodeAtlas.Text.Split

/-!
# Numbers in texts

How whole numbers and decimal numbers are written in settings: padding around them, a sign, digits of any script with
single underscores between them, a point and an exponent. Infinities and the missing number are written by name.
-/

namespace CodeAtlas.Literal

/-- The character may pad a number: a blank, except for the information separators. -/
def isPadding (c : Char) : Bool := Text.isBlank c && !(0x1C ≤ c.toNat && c.toNat ≤ 0x1F)

/-- The text without the padding at its two ends. -/
def unpadded (text : List Char) : List Char :=
  ((text.dropWhile isPadding).reverse.dropWhile isPadding).reverse

/-- A text without its sign, and whether the sign is a minus. -/
def unsigned : List Char → Bool × List Char
  | '-' :: rest => (true, rest)
  | '+' :: rest => (false, rest)
  | text => (false, text)

/-- The values of digits, if the text has nothing else and is not empty. -/
def digitValues? : List Char → Option (List Nat)
  | [] => none
  | [c] => (Text.digitValue? c).map ([·])
  | c :: rest => do return (← Text.digitValue? c) :: (← digitValues? rest)

/-- The values of digits that may have single underscores between them. -/
def digits? (text : List Char) : Option (List Nat) := (List.mapM digitValues? (Text.splitOn '_' text)).map List.flatten

/-- The number that digits stand for. -/
def ofDigits (digits : List Nat) : Nat := digits.foldl (fun n d => 10 * n + d) 0

/-! ## Whole numbers -/

/-- Why a text is no whole number. -/
inductive IntegerError where
  | malformed
  /-- More digits than are read. -/
  | tooLong (digits : Nat)
deriving Repr, DecidableEq

/-- How many digits of a whole number are read. -/
def digitLimit : Nat := 4300

/-- What is said about a whole number with more digits than are read. -/
def tooLongMessage (digits : Nat) : String :=
  "Exceeds the limit (" ++ toString digitLimit ++ " digits) for integer string conversion: value has " ++
    toString digits ++ " digits; use sys.set_int_max_str_digits() to increase the limit"

/-- The character may stand in the digits of a number. -/
def isDigitOrUnderscore (c : Char) : Bool := c = '_' || Text.isDigit c

/-- The whole number of digits without sign. The digits at the start of the text are counted first, so a number that is too
long is found before anything that is wrong after it. -/
def natural (body : List Char) : Except IntegerError Nat :=
  match digits? (body.takeWhile isDigitOrUnderscore) with
  | none => .error .malformed
  | some ds =>
    if digitLimit < ds.length then .error (.tooLong ds.length)
    else if body.all isDigitOrUnderscore then .ok (ofDigits ds)
    else .error .malformed

/-- Reads a whole number. -/
def integer (text : String) : Except IntegerError Int :=
  let (negative, body) := unsigned (unpadded text.toList)
  (natural body).map fun n => if negative then -(n : Int) else n

/-! ## Decimal numbers -/

/-- The digits before and after the point; one side may be empty. -/
def pointed? (text : List Char) : Option (List Nat × List Nat) :=
  match Text.splitOn '.' text with
  | [whole] => (digits? whole).map (·, [])
  | [[], fraction] => (digits? fraction).map ([], ·)
  | [whole, []] => (digits? whole).map (·, [])
  | [whole, fraction] => do return (← digits? whole, ← digits? fraction)
  | _ => none

/-- The exponent after its mark. -/
def exponent? (text : List Char) : Option Int :=
  let (negative, body) := unsigned text
  (digits? body).map fun ds => if negative then -(ofDigits ds : Int) else ofDigits ds

/-- The mark of an exponent. -/
def isMark (c : Char) : Bool := c = 'e' || c = 'E'

/-- The number that a mantissa and an exponent stand for. -/
def assemble (negative : Bool) (whole fraction : List Nat) (exponent : Int) : Binary64 :=
  .ofDecimal negative (ofDigits (whole ++ fraction)) (exponent - fraction.length)

/-- Reads a number without sign: a name, or a mantissa that an exponent may follow. -/
def magnitude? (negative : Bool) (body : List Char) : Option Binary64 :=
  let name := String.ofList (body.map Char.toLower)
  if name = "inf" ∨ name = "infinity" then some (.infinite negative)
  else if name = "nan" then some .undefined
  else do
    let (whole, fraction) ← pointed? (body.takeWhile fun c => !isMark c)
    match body.dropWhile fun c => !isMark c with
    | [] => return assemble negative whole fraction 0
    | _ :: power => return assemble negative whole fraction (← exponent? power)

/-- Reads a decimal number. -/
def decimal? (text : String) : Option Binary64 :=
  let (negative, body) := unsigned (unpadded text.toList)
  magnitude? negative body

end CodeAtlas.Literal
