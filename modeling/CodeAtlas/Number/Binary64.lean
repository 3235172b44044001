/-!
# Binary numbers of 64 bits

A number with a mantissa of 53 bits and a binary exponent, an infinity, or no number. `ofRatio` rounds a fraction to the
nearest such number, a half to the even neighbour. `render` writes a number with the fewest decimal digits that are read
back as it.
-/

namespace CodeAtlas

/-- A binary floating-point number. -/
inductive Binary64 where
  /-- The number `mantissa * 2 ^ exponent` with a sign. -/
  | finite (negative : Bool) (mantissa : Nat) (exponent : Int)
  | infinite (negative : Bool)
  /-- No number. -/
  | undefined
deriving Repr, DecidableEq

namespace Binary64

/-- The quotient rounded to the nearest number, a half to the even neighbour. -/
def roundDiv (num den : Nat) : Nat :=
  let q := num / den
  let twice := 2 * (num % den)
  if twice < den then q else if den < twice then q + 1 else q + q % 2

/-- The positive part of an exponent. -/
def up (e : Int) : Nat := e.toNat

/-- The negative part of an exponent. -/
def down (e : Int) : Nat := (-e).toNat

/-- The least exponent of a number. -/
def leastExponent : Int := -1074

/-- The greatest exponent of a number. -/
def greatestExponent : Int := 971

/-- The exponent for which a fraction has a mantissa of 53 bits, or the least exponent. -/
def exponentFor (num den : Nat) : Int :=
  let estimate : Int := (num.log2 : Int) - den.log2 - 53
  let e := if estimate < leastExponent then leastExponent else estimate
  if Nat.pow 2 53 ≤ num * Nat.pow 2 (down e) / (den * Nat.pow 2 (up e)) then e + 1 else e

/-- A number whose mantissa may have become too long by rounding, or whose exponent is too great. -/
def ofParts (negative : Bool) (mantissa : Nat) (exponent : Int) : Binary64 :=
  let carried := mantissa = Nat.pow 2 53
  let exponent := if carried then exponent + 1 else exponent
  if greatestExponent < exponent then .infinite negative
  else .finite negative (if carried then Nat.pow 2 52 else mantissa) exponent

/-- The number nearest to a fraction. -/
def ofRatio (negative : Bool) (num den : Nat) : Binary64 :=
  if num = 0 then .finite negative 0 leastExponent
  else
    let e := exponentFor num den
    ofParts negative (roundDiv (num * Nat.pow 2 (down e)) (den * Nat.pow 2 (up e))) e

/-- The length of a number in decimal digits. -/
def decimalLength (n : Nat) : Nat := (Nat.toDigits 10 n).length

/-- The number nearest to `mantissa * 10 ^ exponent`. Beyond four hundred places on either side of the point all numbers
are infinite or zero. -/
def ofDecimal (negative : Bool) (mantissa : Nat) (exponent : Int) : Binary64 :=
  let places := (decimalLength mantissa : Int) + exponent
  if mantissa = 0 ∨ places < -400 then .finite negative 0 leastExponent
  else if 400 < places then .infinite negative
  else ofRatio negative (mantissa * Nat.pow 10 (up exponent)) (Nat.pow 10 (down exponent))

/-- The number nearest to a whole number. -/
def ofInt (n : Int) : Binary64 := ofRatio (n < 0) n.natAbs 1

/-- The number is not above `num / den`. -/
def isAtMost (num den : Nat) : Binary64 → Bool
  | .finite negative mantissa exponent =>
    negative || mantissa * Nat.pow 2 (up exponent) * den ≤ num * Nat.pow 2 (down exponent)
  | .infinite negative => negative
  | .undefined => false

/-! ## The fewest digits -/

/-- The number `digits * 10 ^ grid` is read back as `m * 2 ^ q`: it lies between the middles to the two neighbours, or on a
middle if `m` is even. Below a power of two the neighbour is twice as near. -/
def readsBack (m : Nat) (q : Int) (digits : Nat) (grid : Int) : Bool :=
  let value := digits * Nat.pow 10 (up grid) * Nat.pow 2 (down (q - 2))
  let unit := Nat.pow 2 (up (q - 2)) * Nat.pow 10 (down grid)
  let low := (4 * m - if m = Nat.pow 2 52 ∧ leastExponent < q then 1 else 2) * unit
  let high := (4 * m + 2) * unit
  if m % 2 = 0 then low ≤ value && value ≤ high else low < value && value < high

/-- The least `k` such that `num / den` is below `10 ^ k`. -/
def decimalScale (num den : Nat) : Int :=
  if den ≤ num then decimalLength (num / den)
  else
    let t := decimalLength (den / num)
    if num * Nat.pow 10 (t - 1) < den then 1 - (t : Int) else 2 - (t : Int)

/-- The digits of `num / den = m * 2 ^ q` on a decimal grid, if they are read back. Of two the nearer one is taken, the even
one in the middle. -/
def digitsOn (m : Nat) (q : Int) (num den : Nat) (grid : Int) : Option (Nat × Int) :=
  let n := num * Nat.pow 10 (down grid)
  let d := den * Nat.pow 10 (up grid)
  let floor := n / d
  match readsBack m q floor grid, readsBack m q (floor + 1) grid with
  | true, true => some (roundDiv n d, grid)
  | true, false => some (floor, grid)
  | false, true => some (floor + 1, grid)
  | false, false => none

/-- The fewest decimal digits that are read back as `m * 2 ^ q`, with their exponent. -/
def shortest (m : Nat) (q : Int) : Nat × Int :=
  let num := m * Nat.pow 2 (up q)
  let den := Nat.pow 2 (down q)
  let scale := decimalScale num den
  ((List.range 17).findSome? fun i => digitsOn m q num den (scale - (i + 1 : Nat))).getD
    (if 0 ≤ q then (num, 0) else (m * Nat.pow 5 (down q), q))

/-! ## Written form -/

/-- Digits in positional notation, with the point after `point` of them. At least one digit stands on either side. -/
def positional (digits : List Char) (point : Int) : List Char :=
  if point ≤ 0 then ['0', '.'] ++ List.replicate (down point) '0' ++ digits
  else if digits.length ≤ up point then digits ++ List.replicate (up point - digits.length) '0' ++ ['.', '0']
  else digits.take (up point) ++ '.' :: digits.drop (up point)

/-- Digits with one of them before the point, and a signed exponent of two digits or more. -/
def scientific (digits : List Char) (exponent : Int) : List Char :=
  let power := Nat.toDigits 10 exponent.natAbs
  digits.take 1 ++ (if digits.length ≤ 1 then [] else '.' :: digits.drop 1) ++
    ['e', if exponent < 0 then '-' else '+'] ++ List.replicate (2 - power.length) '0' ++ power

/-- The written form of digits and their exponent: positional from `10 ^ -4` on and below `10 ^ 16`. -/
def layout (digits : Nat) (exponent : Int) : List Char :=
  let all := Nat.toDigits 10 digits
  let point := (all.length : Int) + exponent
  let kept := (all.reverse.dropWhile (· = '0')).reverse
  if -4 < point ∧ point ≤ 16 then positional kept point else scientific kept (point - 1)

/-- The sign of a number. -/
def signText (negative : Bool) : String := if negative then "-" else ""

/-- The written form of a number. -/
def render : Binary64 → String
  | .undefined => "nan"
  | .infinite negative => signText negative ++ "inf"
  | .finite negative m q =>
    if m = 0 then signText negative ++ "0.0"
    else signText negative ++ String.ofList (layout (shortest m q).1 (shortest m q).2)

end Binary64

end CodeAtlas
