import CodeAtlas.Text.Case

/-!
# Letters up to case

Two letters are the same up to case if they have the same small letter, or if their small letters are forms of one letter,
as the two small sigmas are. `Text.casesOf` lists the letters that are the same as a given one. A `CaseRule` is a narrower
notion, under which two texts can be compared letter by letter.
-/

namespace CodeAtlas.Text

/-- The small letter of a letter, whatever surrounds it. -/
def small (c : Char) : Char :=
  if c.toNat < 0x80 then c.toLower
  else if c.toNat = 0x130 then 'i'
  else shiftCase lowerRuns c

/-- The capital letter of a letter; if it is several letters, the first of them. -/
def capital (c : Char) : Char := (upperChar c).headD c

/-- The letter whose small letter a run gives as the given one. -/
def CaseRun.capital? (run : CaseRun) (c : Char) : Option Char :=
  let d := Char.ofNat ((c.toNat : Int) - run.shift).toNat
  if run.covers d && small d == c then some d else none

/-- The other letters whose small letter is the given one. -/
def capitalsOf (c : Char) : List Char :=
  (if c.isLower then [c.toUpper] else []) ++ (if c = 'i' then [Char.ofNat 0x130] else [])
    ++ lowerRuns.filterMap (·.capital? c)

/-- Small letters that are forms of one letter. -/
def smallForms : List (List Nat) := [
  [0x69, 0x131], [0x73, 0x17F], [0xB5, 0x3BC], [0x345, 0x3B9, 0x1FBE], [0x390, 0x1FD3], [0x3B0, 0x1FE3], [0x3B2, 0x3D0],
  [0x3B5, 0x3F5], [0x3B8, 0x3D1], [0x3BA, 0x3F0], [0x3C0, 0x3D6], [0x3C1, 0x3F1], [0x3C2, 0x3C3], [0x3C6, 0x3D5],
  [0x432, 0x1C80], [0x434, 0x1C81], [0x43E, 0x1C82], [0x441, 0x1C83], [0x442, 0x1C84, 0x1C85], [0x44A, 0x1C86],
  [0x463, 0x1C87], [0x1C88, 0xA64B], [0x1E61, 0x1E9B], [0xFB05, 0xFB06]]

/-- The forms of a small letter. -/
def formsOf (c : Char) : List Char :=
  match smallForms.find? (·.contains c.toNat) with
  | some forms => forms.map Char.ofNat
  | none => [c]

/-- The letters that are the same as a letter up to case, itself among them. -/
def casesOf (c : Char) : List Char := (formsOf (small c)).flatMap fun d => d :: capitalsOf d

/-- Which letters count as the same. -/
inductive CaseRule where
  /-- Every letter is the same as itself only. -/
  | exact
  /-- Letters of ASCII are the same up to case. -/
  | ascii
  /-- Letters are the same if their small letters are. -/
  | every
deriving Repr, DecidableEq

/-- The two letters count as the same. -/
def CaseRule.same : CaseRule → Char → Char → Bool
  | exact, c, d => c = d
  | ascii, c, d => c.toLower = d.toLower
  | every, c, d => small c = small d

end CodeAtlas.Text
